import MightyMouse.LabelledRun
import Mathlib.Data.List.Induction
import Mathlib.Tactic.Abel

/-!
# A counter that is drained in steps

Amounts are added to a counter by one party.  Another party reads it, passes
on what it reports of the amount read, and later sets the counter to zero.
This file keeps the books of such a counter: what has been added is what has
been passed on, what the counter still shows, and what the resets have
erased.  Nothing is erased exactly if every reading is reported in full and
nothing is added, on balance, between a reading and its reset.
-/

namespace DrainedCounter

open LabelledRun

variable {Amount : Type*} [AddCommGroup Amount]

inductive Access (Amount : Type*)
  | add (amount : Amount)
  | read
  | send
  | reset
  deriving DecidableEq, Repr

/-- Where the draining party stands: between two rounds, with an amount
taken, or with that amount sent and the counter not yet reset. -/
inductive Point (Amount : Type*)
  | idle
  | taken (amount : Amount)
  | passed (amount : Amount)
  deriving DecidableEq, Repr

/-- The counter with its books. -/
structure Counter (Amount : Type*) where
  total : Amount
  point : Point Amount
  added : Amount
  sent : Amount
  erased : Amount

def Counter.initial : Counter Amount where
  total := 0
  point := .idle
  added := 0
  sent := 0
  erased := 0

variable (reported : Amount → Amount)

def step (counter : Counter Amount) : Access Amount → Option (Counter Amount)
  | .add amount => some { counter with
      total := counter.total + amount
      added := counter.added + amount }
  | .read =>
      match counter.point with
      | .idle => some { counter with
          point := .taken (reported counter.total) }
      | _ => none
  | .send =>
      match counter.point with
      | .taken amount => some { counter with
          sent := counter.sent + amount
          point := .passed amount }
      | _ => none
  | .reset =>
      match counter.point with
      | .passed amount => some { counter with
          erased := counter.erased + (counter.total - amount)
          total := 0
          point := .idle }
      | _ => none

/-- The sum of the amounts added. -/
def addedBy : List (Access Amount) → Amount
  | [] => 0
  | .add amount :: accesses => amount + addedBy accesses
  | .read :: accesses => addedBy accesses
  | .send :: accesses => addedBy accesses
  | .reset :: accesses => addedBy accesses

theorem addedBy_append (first second : List (Access Amount)) :
    addedBy (first ++ second) = addedBy first + addedBy second := by
  induction first with
  | nil => exact (zero_add _).symm
  | cons access first ih =>
      cases access with
      | add amount =>
          rw [List.cons_append, addedBy, ih, addedBy, add_assoc]
      | read => exact ih
      | send => exact ih
      | reset => exact ih

section Steps

variable {reported} {counter next : Counter Amount}

theorem step_read_eq_some :
    step reported counter .read = some next ↔
      counter.point = .idle ∧
        next = { counter with point := .taken (reported counter.total) } := by
  cases point : counter.point <;> simp [step, point, eq_comm]

theorem step_send_eq_some :
    step reported counter .send = some next ↔
      ∃ amount, counter.point = .taken amount ∧
        next = { counter with
          sent := counter.sent + amount
          point := .passed amount } := by
  cases point : counter.point <;> simp [step, point, eq_comm]

theorem step_reset_eq_some :
    step reported counter .reset = some next ↔
      ∃ amount, counter.point = .passed amount ∧
        next = { counter with
          erased := counter.erased + (counter.total - amount)
          total := 0
          point := .idle } := by
  cases point : counter.point <;> simp [step, point, eq_comm]

end Steps

section Balance

/-- The amount that is sent but still shown by the counter. -/
def Point.outstanding : Point Amount → Amount
  | .idle => 0
  | .taken _ => 0
  | .passed amount => amount

/-- The books balance. -/
def Counter.Balanced (counter : Counter Amount) : Prop :=
  counter.sent + counter.total + counter.erased =
    counter.added + counter.point.outstanding

variable {reported} {counter next : Counter Amount}

theorem balanced_initial : (Counter.initial : Counter Amount).Balanced := by
  simp [Counter.Balanced, Counter.initial, Point.outstanding]

theorem balanced_step {access : Access Amount} (balanced : counter.Balanced)
    (taken : step reported counter access = some next) : next.Balanced := by
  unfold Counter.Balanced at *
  cases access with
  | add amount =>
      cases taken
      calc counter.sent + (counter.total + amount) + counter.erased
          = counter.sent + counter.total + counter.erased + amount := by abel
        _ = _ := by rw [balanced]; exact add_right_comm _ _ _
  | read =>
      obtain ⟨idle, rfl⟩ := step_read_eq_some.mp taken
      rw [idle] at balanced
      exact balanced
  | send =>
      obtain ⟨amount, point, rfl⟩ := step_send_eq_some.mp taken
      rw [point] at balanced
      calc counter.sent + amount + counter.total + counter.erased
          = counter.sent + counter.total + counter.erased + amount := by abel
        _ = _ := by rw [balanced, Point.outstanding, add_zero]; rfl
  | reset =>
      obtain ⟨amount, point, rfl⟩ := step_reset_eq_some.mp taken
      rw [point] at balanced
      calc counter.sent + 0 + (counter.erased + (counter.total - amount))
          = counter.sent + counter.total + counter.erased - amount := by abel
        _ = _ := by rw [balanced]; simp [Point.outstanding]

theorem balanced_of_follow {accesses : List (Access Amount)}
    (run : follow (step reported) Counter.initial accesses = some counter) :
    counter.Balanced :=
  invariant_of_follow _
    (fun _ _ _ balanced _ taken => balanced_step balanced taken)
    balanced_initial (fun _ _ => trivial) run

theorem added_of_follow {accesses : List (Access Amount)}
    (run : follow (step reported) counter accesses = some next) :
    next.added = counter.added + addedBy accesses := by
  induction accesses generalizing counter with
  | nil =>
      cases run
      exact (add_zero _).symm
  | cons access accesses ih =>
      obtain ⟨between, taken, rest⟩ := (follow_cons_eq_some _).mp run
      rw [ih rest]
      cases access with
      | add amount =>
          cases taken
          exact add_assoc _ _ _
      | read =>
          obtain ⟨_, rfl⟩ := step_read_eq_some.mp taken
          rfl
      | send =>
          obtain ⟨_, _, rfl⟩ := step_send_eq_some.mp taken
          rfl
      | reset =>
          obtain ⟨_, _, rfl⟩ := step_reset_eq_some.mp taken
          rfl

end Balance

section Rounds

variable {reported} {counter next : Counter Amount}

/-- Between a reading and its reset, the counter follows what is added. -/
theorem follow_within_round {middle : List (Access Amount)} {amount : Amount}
    (inRound : counter.point = .taken amount ∨ counter.point = .passed amount)
    (noRead : .read ∉ middle) (noReset : .reset ∉ middle)
    (run : follow (step reported) counter middle = some next) :
    next.total = counter.total + addedBy middle ∧
      next.erased = counter.erased ∧
      (next.point = .taken amount ∨ next.point = .passed amount) := by
  induction middle generalizing counter with
  | nil =>
      cases run
      exact ⟨(add_zero _).symm, rfl, inRound⟩
  | cons access middle ih =>
      obtain ⟨between, taken, rest⟩ := (follow_cons_eq_some _).mp run
      have later := fun stays => @ih between stays
        (fun member => noRead (by simp [member]))
        (fun member => noReset (by simp [member])) rest
      cases access with
      | add added =>
          cases taken
          obtain ⟨total, erased, point⟩ := later inRound
          refine ⟨?_, erased, point⟩
          rw [total, addedBy, add_assoc]
      | read => exact absurd (by simp) noRead
      | send =>
          obtain ⟨held, point, rfl⟩ := step_send_eq_some.mp taken
          have same : held = amount := by
            rw [point] at inRound
            rcases inRound with equal | impossible
            · exact Point.taken.inj equal
            · cases impossible
          rw [same] at later
          exact later (.inr rfl)
      | reset => exact absurd (by simp) noReset

/-- What a round erases: the part of the reading that is not reported, and
what is added before the reset. -/
theorem erased_of_round {middle : List (Access Amount)}
    (noRead : .read ∉ middle) (noReset : .reset ∉ middle)
    (run : follow (step reported) counter (.read :: middle ++ [.reset]) =
      some next) :
    next.erased = counter.erased +
      (counter.total - reported counter.total + addedBy middle) := by
  rw [List.cons_append] at run
  obtain ⟨opened, taken, rest⟩ := (follow_cons_eq_some _).mp run
  obtain ⟨_, rfl⟩ := step_read_eq_some.mp taken
  rw [follow_append, Option.bind_eq_some_iff] at rest
  obtain ⟨closing, within, resets⟩ := rest
  obtain ⟨total, erased, point⟩ :=
    follow_within_round (.inl rfl) noRead noReset within
  obtain ⟨last, reset, done⟩ := (follow_cons_eq_some _).mp resets
  cases done
  obtain ⟨amount, passed, rfl⟩ := step_reset_eq_some.mp reset
  have same : amount = reported counter.total := by
    rw [passed] at point
    rcases point with impossible | equal
    · cases impossible
    · exact Point.passed.inj equal
  change closing.erased + (closing.total - amount) = _
  rw [erased, total, same]
  change counter.erased +
    (counter.total + addedBy middle - reported counter.total) = _
  abel

/-- A counter that is being drained has been read, and not reset since. -/
theorem exists_read_of_open {accesses : List (Access Amount)}
    (run : follow (step reported) Counter.initial accesses = some counter)
    (inRound : counter.point ≠ .idle) :
    ∃ early middle, accesses = early ++ .read :: middle ∧
      .read ∉ middle ∧ .reset ∉ middle := by
  have started : (Counter.initial : Counter Amount).point ≠ .idle →
      ∃ early middle, ([] : List (Access Amount)) = early ++ .read :: middle ∧
        .read ∉ middle ∧ .reset ∉ middle :=
    fun notIdle => absurd rfl notIdle
  refine history_of_follow (step reported)
    (fun past counter => counter.point ≠ .idle →
      ∃ early middle, past = early ++ .read :: middle ∧
        .read ∉ middle ∧ .reset ∉ middle) ?_ started run inRound
  intro past before access after opened taken notIdle
  have extend (stays : before.point ≠ .idle) (notRead : .read ≠ access)
      (notReset : .reset ≠ access) :
      ∃ early middle, past ++ [access] = early ++ .read :: middle ∧
        .read ∉ middle ∧ .reset ∉ middle := by
    obtain ⟨early, middle, rfl, noRead, noReset⟩ := opened stays
    exact ⟨early, middle ++ [access], by simp, by simp [noRead, notRead],
      by simp [noReset, notReset]⟩
  cases access with
  | add amount =>
      cases taken
      exact extend notIdle (by simp) (by simp)
  | read => exact ⟨past, [], rfl, by simp, by simp⟩
  | send =>
      obtain ⟨amount, point, _⟩ := step_send_eq_some.mp taken
      exact extend (by simp [point]) (by simp) (by simp)
  | reset =>
      obtain ⟨amount, _, rfl⟩ := step_reset_eq_some.mp taken
      exact absurd rfl notIdle

end Rounds

section Conservation

/-- Every reading is reported in full. -/
def ExactReads (accesses : List (Access Amount)) : Prop :=
  ∀ early counter, early ++ [.read] <+: accesses →
    follow (step reported) Counter.initial early = some counter →
    reported counter.total = counter.total

/-- On balance, nothing is added between a reading and its reset. -/
def QuietRounds (accesses : List (Access Amount)) : Prop :=
  ∀ early middle, early ++ .read :: middle ++ [.reset] <+: accesses →
    .read ∉ middle → .reset ∉ middle → addedBy middle = 0

variable {reported} {counter next : Counter Amount}
variable {accesses : List (Access Amount)}

/-- With the counter idle, what is added is accounted for by what is sent and
shown exactly if nothing has been erased. -/
theorem conserved_iff_erased (balanced : counter.Balanced)
    (idle : counter.point = .idle) :
    counter.sent + counter.total = counter.added ↔ counter.erased = 0 := by
  rw [Counter.Balanced, idle, Point.outstanding, add_zero] at balanced
  rw [← balanced]
  exact left_eq_add

theorem erased_of_ne_reset {access : Access Amount}
    (taken : step reported counter access = some next)
    (notReset : access ≠ .reset) : next.erased = counter.erased := by
  cases access with
  | add amount =>
      cases taken
      rfl
  | read =>
      obtain ⟨_, rfl⟩ := step_read_eq_some.mp taken
      rfl
  | send =>
      obtain ⟨_, _, rfl⟩ := step_send_eq_some.mp taken
      rfl
  | reset => exact absurd rfl notReset

/-- Nothing is ever erased if no reset is the first to do so. -/
theorem erased_eq_zero_of_resets
    (resets : ∀ early counter, early ++ [.reset] <+: accesses →
      (∀ before middle, before <+: early →
        follow (step reported) Counter.initial before = some middle →
        middle.erased = 0) →
      follow (step reported) Counter.initial (early ++ [.reset]) =
        some counter → counter.erased = 0)
    {labels : List (Access Amount)} (begins : labels <+: accesses) :
    ∀ before middle, before <+: labels →
      follow (step reported) Counter.initial before = some middle →
      middle.erased = 0 := by
  induction labels using List.reverseRecOn with
  | nil =>
      intro before middle isPrefix run
      rw [List.prefix_nil.mp isPrefix] at run
      cases run
      rfl
  | append_singleton labels access ih =>
      have earlier := ih
        ((List.prefix_append labels [access]).trans begins)
      intro before middle isPrefix run
      rcases List.prefix_concat_iff.mp isPrefix with rfl | shorter
      · by_cases isReset : access = .reset
        · subst isReset
          exact resets labels middle begins earlier run
        · obtain ⟨previous, reached, taken⟩ :=
            (follow_concat_eq_some _).mp run
          rw [erased_of_ne_reset taken isReset]
          exact earlier labels previous List.prefix_rfl reached
      · exact earlier before middle shorter run

/-- A round whose reading is reported in full erases what is added before
its reset. -/
theorem erased_of_exact_round {early middle : List (Access Amount)}
    (reports : ExactReads reported accesses)
    (begins : early ++ .read :: middle ++ [.reset] <+: accesses)
    (noRead : .read ∉ middle) (noReset : .reset ∉ middle)
    (reached : follow (step reported) Counter.initial early = some counter)
    (ended : follow (step reported) Counter.initial
      (early ++ .read :: middle ++ [.reset]) = some next) :
    next.erased = counter.erased + addedBy middle := by
  rw [List.append_assoc, follow_append, reached] at ended
  have reads : early ++ [.read] <+: accesses := by
    refine List.IsPrefix.trans ⟨middle ++ [.reset], ?_⟩ begins
    simp
  rw [erased_of_round noRead noReset ended,
    reports early counter reads reached, sub_self, zero_add]

/-- If every reading is reported in full, a reset never erases anything
exactly if the rounds are quiet. -/
theorem erased_eq_zero_iff_quiet
    (run : follow (step reported) Counter.initial accesses = some next)
    (reports : ExactReads reported accesses) :
    (∀ early counter, early ++ [.reset] <+: accesses →
        follow (step reported) Counter.initial (early ++ [.reset]) =
          some counter → counter.erased = 0) ↔
      QuietRounds accesses := by
  constructor
  · intro conserved early middle begins noRead noReset
    have starts : early <+: accesses := by
      rw [List.append_assoc] at begins
      exact (List.prefix_append early _).trans begins
    obtain ⟨before, reached⟩ := exists_of_prefix _ run starts
    obtain ⟨after, ended⟩ := exists_of_prefix _ run begins
    have zero : before.erased = 0 :=
      erased_eq_zero_of_resets
        (fun early counter begins _ reached =>
          conserved early counter begins reached)
        List.prefix_rfl early before starts reached
    have erased := erased_of_exact_round reports begins noRead noReset reached
      ended
    rw [conserved _ after begins ended, zero, zero_add] at erased
    exact erased.symm
  · intro quiet early counter begins ended
    refine erased_eq_zero_of_resets ?_ List.prefix_rfl _ counter begins ended
    intro early counter begins earlier ended
    obtain ⟨previous, reached, taken⟩ := (follow_concat_eq_some _).mp ended
    obtain ⟨amount, passed, _⟩ := step_reset_eq_some.mp taken
    obtain ⟨start, middle, rfl, noRead, noReset⟩ :=
      exists_read_of_open reached (by simp [passed])
    obtain ⟨before, started⟩ := exists_of_prefix _ reached
      (List.prefix_append start _)
    rw [erased_of_exact_round reports begins noRead noReset started ended,
      earlier start before (List.prefix_append start _) started,
      quiet start middle begins noRead noReset, add_zero]

end Conservation

section Turns

/-- Additions and whole rounds. -/
inductive Turn (Amount : Type*)
  | add (amount : Amount)
  | round
  deriving DecidableEq, Repr

def Turn.accesses : Turn Amount → List (Access Amount)
  | .add amount => [.add amount]
  | .round => [.read, .send, .reset]

/-- What whole rounds fail to report, given what the counter shows. -/
def unreported : Amount → List (Turn Amount) → Amount
  | _, [] => 0
  | total, .add amount :: turns => unreported (total + amount) turns
  | total, .round :: turns => total - reported total + unreported 0 turns

variable {reported} {counter next : Counter Amount}

theorem follow_round (idle : counter.point = .idle) :
    follow (step reported) counter (Turn.accesses .round) =
      some { counter with
        total := 0
        sent := counter.sent + reported counter.total
        erased := counter.erased +
          (counter.total - reported counter.total) } := by
  simp [follow, Turn.accesses, step, idle]

/-- Whole rounds erase what they do not report. -/
theorem erased_of_turns {turns : List (Turn Amount)}
    (run : follow (step reported) counter (turns.flatMap Turn.accesses) =
      some next) (idle : counter.point = .idle) :
    next.point = .idle ∧
      next.erased = counter.erased + unreported reported counter.total turns := by
  induction turns generalizing counter with
  | nil =>
      cases run
      exact ⟨idle, (add_zero _).symm⟩
  | cons turn turns ih =>
      rw [List.flatMap_cons, follow_append, Option.bind_eq_some_iff] at run
      obtain ⟨between, first, rest⟩ := run
      cases turn with
      | add amount =>
          cases first
          exact ih rest idle
      | round =>
          rw [follow_round idle] at first
          cases first
          obtain ⟨point, erased⟩ := ih rest idle
          refine ⟨point, ?_⟩
          rw [erased, unreported]
          exact add_assoc _ _ _

theorem unreported_concat {turns : List (Turn Amount)}
    (run : follow (step reported) counter (turns.flatMap Turn.accesses) =
      some next) (idle : counter.point = .idle) (turn : Turn Amount) :
    unreported reported counter.total (turns ++ [turn]) =
      unreported reported counter.total turns +
        unreported reported next.total [turn] := by
  induction turns generalizing counter with
  | nil =>
      cases run
      exact (zero_add _).symm
  | cons first turns ih =>
      rw [List.flatMap_cons, follow_append, Option.bind_eq_some_iff] at run
      obtain ⟨between, begun, rest⟩ := run
      cases first with
      | add amount =>
          cases begun
          exact ih rest idle
      | round =>
          rw [follow_round idle] at begun
          cases begun
          have later := ih rest idle
          rw [List.cons_append, unreported, unreported, add_assoc]
          exact congrArg _ later

/-- Nothing is added within a whole round. -/
theorem quietRounds_turns (turns : List (Turn Amount)) :
    QuietRounds (turns.flatMap Turn.accesses) := by
  induction turns with
  | nil =>
      intro early middle begins
      simp at begins
  | cons turn turns ih =>
      intro early middle begins noRead noReset
      cases turn with
      | add amount =>
          match early, begins with
          | [], begins => simp [Turn.accesses] at begins
          | _ :: early, begins =>
              exact ih early middle
                (List.cons_prefix_cons.mp begins).2 noRead noReset
      | round =>
          match early, begins with
          | [], begins =>
              -- The round itself: only the sending lies in between.
              match middle, noReset with
              | [], _ => simp [Turn.accesses] at begins
              | [first], _ =>
                  simp [Turn.accesses] at begins
                  rw [begins]
                  rfl
              | _ :: second :: _, noReset =>
                  simp [Turn.accesses] at begins
                  exact absurd (by simp [begins.2.1]) noReset
          | [_], begins => simp [Turn.accesses] at begins
          | [_, _], begins => simp [Turn.accesses] at begins
          | _ :: _ :: _ :: early, begins =>
              simp only [List.flatMap_cons, Turn.accesses, List.cons_append,
                List.cons_prefix_cons, List.nil_append] at begins
              exact ih early middle
                (by simpa using begins.2.2.2) noRead noReset

end Turns

end DrainedCounter

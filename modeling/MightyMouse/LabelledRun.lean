import Mathlib.Data.List.Basic

/-!
# Runs of labelled transition systems

A system is given by a partial step function; a run is the list of its
labels.  The rules below reduce statements about every state or every step of
a run to one step from a state satisfying an invariant.
-/

namespace LabelledRun

variable {State Label : Type*} (step : State → Label → Option State)

/-- Follow a list of labels, failing at the first one that is not enabled. -/
def follow : State → List Label → Option State
  | state, [] => some state
  | state, label :: labels =>
      (step state label).bind fun next => follow next labels

theorem follow_cons_eq_some {state last : State} {label : Label}
    {labels : List Label} :
    follow step state (label :: labels) = some last ↔
      ∃ next, step state label = some next ∧
        follow step next labels = some last := by
  simp [follow, Option.bind_eq_some_iff]

theorem follow_append (state : State) (first second : List Label) :
    follow step state (first ++ second) =
      (follow step state first).bind fun middle =>
        follow step middle second := by
  induction first generalizing state with
  | nil => rfl
  | cons label first ih =>
      simp only [List.cons_append, follow]
      cases step state label with
      | none => rfl
      | some next => exact ih next

theorem follow_concat_eq_some {state last : State} {label : Label}
    {labels : List Label} :
    follow step state (labels ++ [label]) = some last ↔
      ∃ before, follow step state labels = some before ∧
        step before label = some last := by
  simp [follow_append, follow, Option.bind_eq_some_iff]

/-- The beginning of a run is a run. -/
theorem exists_of_prefix {state last : State} {early labels : List Label}
    (run : follow step state labels = some last) (begins : early <+: labels) :
    ∃ middle, follow step state early = some middle := by
  obtain ⟨rest, rfl⟩ := begins
  rw [follow_append, Option.bind_eq_some_iff] at run
  obtain ⟨middle, reached, _⟩ := run
  exact ⟨middle, reached⟩

/-- Invariant rule: what holds at the start and is kept by every admitted
step holds at the end of every run with admitted labels. -/
theorem invariant_of_follow {invariant : State → Prop}
    {admitted : Label → Prop}
    (kept : ∀ state label next, invariant state → admitted label →
      step state label = some next → invariant next)
    {state last : State} (start : invariant state) {labels : List Label}
    (allAdmitted : ∀ label ∈ labels, admitted label)
    (run : follow step state labels = some last) :
    invariant last := by
  induction labels generalizing state with
  | nil =>
      cases run
      exact start
  | cons label labels ih =>
      obtain ⟨next, taken, rest⟩ := (follow_cons_eq_some step).mp run
      apply ih (kept state label next start (allAdmitted label (by simp)) taken)
      · intro other otherMem
        exact allAdmitted other (by simp [otherMem])
      · exact rest

/-- Bound rule: if every admitted step lowers a measure, runs with admitted
labels are no longer than the measure at their start. -/
theorem length_le_of_follow {invariant : State → Prop}
    {admitted : Label → Prop} {measure : State → Nat}
    (kept : ∀ state label next, invariant state → admitted label →
      step state label = some next →
        invariant next ∧ measure next < measure state)
    {state last : State} (start : invariant state) {labels : List Label}
    (allAdmitted : ∀ label ∈ labels, admitted label)
    (run : follow step state labels = some last) :
    labels.length ≤ measure state := by
  induction labels generalizing state with
  | nil => exact Nat.zero_le _
  | cons label labels ih =>
      obtain ⟨next, taken, rest⟩ := (follow_cons_eq_some step).mp run
      rw [List.forall_mem_cons] at allAdmitted
      obtain ⟨nextHolds, lowers⟩ :=
        kept state label next start allAdmitted.1 taken
      have shorter := ih nextHolds allAdmitted.2 rest
      rw [List.length_cons]
      omega

/-- Invariant rule for properties of the labels so far and the state they
lead to. -/
theorem history_of_follow (invariant : List Label → State → Prop)
    (kept : ∀ past state label next, invariant past state →
      step state label = some next → invariant (past ++ [label]) next)
    {state last : State} {past labels : List Label}
    (start : invariant past state)
    (run : follow step state labels = some last) :
    invariant (past ++ labels) last := by
  induction labels generalizing past state with
  | nil =>
      cases run
      rw [List.append_nil]
      exact start
  | cons label labels ih =>
      obtain ⟨next, taken, rest⟩ := (follow_cons_eq_some step).mp run
      have later := ih (kept past state label next start taken) rest
      rwa [List.append_assoc] at later

/-- Every step taken along the labels satisfies a relation between the state
before, the label and the state after. -/
def EveryStep (relation : State → Label → State → Prop) :
    State → List Label → Prop
  | _, [] => True
  | state, label :: labels =>
      ∀ next, step state label = some next →
        relation state label next ∧ EveryStep relation next labels

/-- The steps of a run are those after its beginnings. -/
theorem everyStep_iff {relation : State → Label → State → Prop}
    {state : State} {labels : List Label} :
    EveryStep step relation state labels ↔
      ∀ early label before next, early ++ [label] <+: labels →
        follow step state early = some before →
        step before label = some next → relation before label next := by
  induction labels generalizing state with
  | nil => simp [EveryStep]
  | cons first labels ih =>
      constructor
      · intro every early label before next begins reached taken
        cases early with
        | nil =>
            cases reached
            obtain ⟨rfl, _⟩ := List.cons_prefix_cons.mp begins
            exact (every next taken).1
        | cons other early =>
            obtain ⟨rfl, rest⟩ := List.cons_prefix_cons.mp begins
            obtain ⟨between, moved, later⟩ :=
              (follow_cons_eq_some step).mp reached
            exact ih.mp (every between moved).2 early label before next rest
              later taken
      · intro holds next taken
        refine ⟨holds [] first state next (by simp) rfl taken, ?_⟩
        rw [ih]
        intro early label before after begins reached moved
        exact holds (first :: early) label before after
          (List.cons_prefix_cons.mpr ⟨rfl, begins⟩)
          ((follow_cons_eq_some step).mpr ⟨next, taken, reached⟩) moved

theorem everyStep_append {relation : State → Label → State → Prop}
    {state : State} {first second : List Label} :
    EveryStep step relation state (first ++ second) ↔
      EveryStep step relation state first ∧
        ∀ middle, follow step state first = some middle →
          EveryStep step relation middle second := by
  induction first generalizing state with
  | nil => simp [EveryStep, follow]
  | cons label first ih =>
      simp only [List.cons_append, EveryStep, follow, ih]
      constructor
      · intro every
        refine ⟨fun next taken => ⟨(every next taken).1,
          (every next taken).2.1⟩, ?_⟩
        intro middle run
        obtain ⟨next, taken, rest⟩ := Option.bind_eq_some_iff.mp run
        exact (every next taken).2.2 middle rest
      · rintro ⟨early, late⟩ next taken
        refine ⟨(early next taken).1, (early next taken).2, ?_⟩
        intro middle rest
        exact late middle (Option.bind_eq_some_iff.mpr ⟨next, taken, rest⟩)

/-- Invariant rule for runs whose steps all satisfy a relation. -/
theorem invariant_of_everyStep {invariant : State → Prop}
    {relation : State → Label → State → Prop}
    (kept : ∀ state label next, invariant state → relation state label next →
      step state label = some next → invariant next)
    {state last : State} (start : invariant state) {labels : List Label}
    (every : EveryStep step relation state labels)
    (run : follow step state labels = some last) : invariant last := by
  induction labels generalizing state with
  | nil =>
      cases run
      exact start
  | cons label labels ih =>
      obtain ⟨next, taken, rest⟩ := (follow_cons_eq_some step).mp run
      obtain ⟨related, later⟩ := every next taken
      exact ih (kept state label next start related taken) later rest

/-- Two step relations that agree in states satisfying an invariant agree
along every run that starts in such a state. -/
theorem everyStep_congr (invariant : State → Prop)
    (kept : ∀ state label next, invariant state →
      step state label = some next → invariant next)
    {first second : State → Label → State → Prop}
    (agree : ∀ state label next, invariant state →
      step state label = some next →
      (first state label next ↔ second state label next))
    {state : State} (start : invariant state) (labels : List Label) :
    EveryStep step first state labels ↔ EveryStep step second state labels := by
  induction labels generalizing state with
  | nil => exact Iff.rfl
  | cons label labels ih =>
      refine forall₂_congr fun next taken => ?_
      exact and_congr (agree state label next start taken)
        (ih (kept state label next start taken))

/-- A property that each step keeps exactly if the step is safe holds at the
end of a run exactly if it held at the start and every step was safe. -/
theorem holds_iff_everyStep {holds : State → Prop}
    {safe : State → Label → Prop}
    (kept : ∀ state label next, step state label = some next →
      (holds next ↔ holds state ∧ safe state label))
    {state last : State} {labels : List Label}
    (run : follow step state labels = some last) :
    holds last ↔ holds state ∧
      EveryStep step (fun before label _ => safe before label) state
        labels := by
  induction labels generalizing state with
  | nil =>
      cases run
      simp [EveryStep]
  | cons label labels ih =>
      obtain ⟨next, taken, rest⟩ := (follow_cons_eq_some step).mp run
      rw [ih rest, kept state label next taken, and_assoc]
      simp [EveryStep, taken]

/-- If a step from a good state leads to a good state exactly if it is safe,
all states of a run are good exactly if all its steps are safe. -/
theorem everyState_iff_everyStep (invariant : State → Prop)
    (kept : ∀ state label next, invariant state →
      step state label = some next → invariant next)
    {good : State → Prop} {safe : State → Label → State → Prop}
    (agree : ∀ state label next, invariant state → good state →
      step state label = some next → (good next ↔ safe state label next))
    {state : State} (start : invariant state) (startGood : good state)
    (labels : List Label) :
    (∀ early reached, early <+: labels →
        follow step state early = some reached → good reached) ↔
      EveryStep step safe state labels := by
  induction labels generalizing state with
  | nil =>
      refine iff_of_true ?_ trivial
      intro early reached begins run
      rw [List.prefix_nil.mp begins] at run
      cases run
      exact startGood
  | cons label labels ih =>
      constructor
      · intro holds next taken
        have nextGood : good next := by
          apply holds [label] next (List.cons_prefix_cons.mpr ⟨rfl, by simp⟩)
          rw [follow_cons_eq_some]
          exact ⟨next, taken, rfl⟩
        refine ⟨(agree state label next start startGood taken).mp nextGood, ?_⟩
        apply (ih (kept state label next start taken) nextGood).mp
        intro early reached begins run
        apply holds (label :: early) reached
          (List.cons_prefix_cons.mpr ⟨rfl, begins⟩)
        rw [follow_cons_eq_some]
        exact ⟨next, taken, run⟩
      · intro every early reached begins run
        cases early with
        | nil =>
            cases run
            exact startGood
        | cons first early =>
            obtain ⟨rfl, rest⟩ := List.cons_prefix_cons.mp begins
            obtain ⟨next, taken, later⟩ := (follow_cons_eq_some step).mp run
            have isSafe := every next taken
            have nextGood : good next :=
              (agree state first next start startGood taken).mpr isSafe.1
            exact (ih (kept state first next start taken) nextGood).mpr
              isSafe.2 early reached rest later

end LabelledRun

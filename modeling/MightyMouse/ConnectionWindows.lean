import MightyMouse.Outages
import MightyMouse.ServiceLink

/-!
# What arrives on a connection

A thread that calls `sendByte` again and again finds the service connected at
some calls and not at others.  In the model of the dispatcher these answers
are a parameter; here they come from the service.  If no stream takes bytes
again after it has thrown, no call of the thread is lost between two writes to
one connection, so that the calls written to a connection are consecutive.
-/

namespace MightyMouse

namespace ServiceLink

open LabelledRun SerialProtocol
open DispatcherSingleton hiding delimiter
open WorkerClass (Worker ThreadId Writer Housekeeping)

variable {Name : Type} [DecidableEq Name]
variable {programs : Name → List Statement} {link next : Link Name}
variable {name : Name} {connection : ThreadId}

section Streams

/-- The stream of the connection has thrown. -/
def Link.Broken (link : Link Name) (connection : ThreadId) : Prop :=
  ∃ name, ∃ call ∈ (link.callers name).calls, call.outcome = .failed connection

/-- No stream takes bytes again after it has thrown.  The source does not see
to this: it logs the exception and writes to the same stream again. -/
def FailsForGood (start : Link Name) (events : List (Event Name)) : Prop :=
  EveryStep step (fun link _ next => ∀ entry, next.log = link.log ++ [entry] →
    ¬ link.Broken entry.connection) start events

/-- The calls of a thread that returns from one. -/
theorem calls_finish (link : Link Name) (name : Name) (array : Buffer)
    (outcome : Outcome) (other : Name) :
    ∃ more, ((link.finish name array outcome).callers other).calls =
        (link.callers other).calls ++ more ∧
      (∀ call ∈ more, call.outcome = outcome) ∧ (other ≠ name → more = []) := by
  by_cases same : other = name
  · subst same
    rw [finish_self]
    exact ⟨_, rfl, by simp, fun different => absurd rfl different⟩
  · rw [finish_other same]
    exact ⟨[], by simp, by simp, fun _ => rfl⟩

/-- The finished calls stay, and only a stream that throws adds a failed
one. -/
theorem calls_of_taken {event : Event Name} (taken : Taken link event next)
    (other : Name) :
    ∃ more, (next.callers other).calls = (link.callers other).calls ++ more ∧
      ∀ call ∈ more, ∀ id, call.outcome = .failed id →
        ∃ index, event = .streamWrite index false := by
  have nothing {calls : List Call}
      (same : calls = (link.callers other).calls) :
      ∃ more, calls = (link.callers other).calls ++ more ∧
        ∀ call ∈ more, ∀ id, call.outcome = .failed id →
          ∃ index, event = .streamWrite index false :=
    ⟨[], by rw [same, List.append_nil], by simp⟩
  cases taken with
  | service | crash => exact nothing rfl
  | assign => exact nothing (assign_calls _ _)
  | pass => exact nothing (move_callers link _ .locking other).1
  | lock => exact nothing (move_callers link _ .writing other).1
  | @turnedAway name array =>
      obtain ⟨more, calls, outcomes, _⟩ :=
        calls_finish link name array .refused other
      refine ⟨more, calls, fun call member id failed => ?_⟩
      rw [outcomes call member] at failed
      cases failed
  | @write index name writer array connection succeeds =>
      obtain ⟨more, calls, outcomes, _⟩ := calls_finish link name array
        (if succeeds then .written connection else .failed connection) other
      refine ⟨more, calls, fun call member id failed => ⟨index, ?_⟩⟩
      rw [outcomes call member] at failed
      cases succeeds with
      | true => cases failed
      | false => rfl

/-- An exception is not forgotten. -/
theorem broken_of_taken {event : Event Name} (taken : Taken link event next)
    (broken : link.Broken connection) : next.Broken connection := by
  obtain ⟨name, call, member, failed⟩ := broken
  obtain ⟨more, calls, _⟩ := calls_of_taken taken name
  refine ⟨name, call, ?_, failed⟩
  rw [calls]
  exact List.mem_append_left _ member

/-- Only a stream that throws is broken by a step. -/
theorem unbroken_of_taken {event : Event Name} (taken : Taken link event next)
    (quiet : ∀ index, event ≠ .streamWrite index false)
    (unbroken : ¬ link.Broken connection) : ¬ next.Broken connection := by
  rintro ⟨name, call, member, failed⟩
  obtain ⟨more, calls, throws⟩ := calls_of_taken taken name
  rw [calls, List.mem_append] at member
  rcases member with before | new
  · exact unbroken ⟨name, call, before, failed⟩
  · obtain ⟨index, isThrow⟩ := throws call new connection failed
    exact quiet index isThrow

theorem broken_finish (link : Link Name) (name : Name) (array : Buffer)
    (connection : ThreadId) :
    (link.finish name array (.failed connection)).Broken connection := by
  refine ⟨name, ⟨array, link.dispatcher.contents array, .failed connection⟩,
    ?_, rfl⟩
  rw [finish_self]
  exact List.mem_append_right _ List.mem_cons_self

/-- Streams that do not throw fail for good. -/
theorem failsForGood_of_no_throw {events : List (Event Name)}
    (quiet : ∀ event ∈ events, ∀ index, event ≠ .streamWrite index false) :
    FailsForGood (Link.initial programs) events := by
  have kept (state : Link Name) (event : Event Name) (next : Link Name)
      (unbroken : ∀ id, ¬ state.Broken id)
      (admitted : ∀ index, event ≠ .streamWrite index false)
      (moved : step state event = some next) : ∀ id, ¬ next.Broken id :=
    fun id => unbroken_of_taken (taken_of_step moved) admitted (unbroken id)
  rw [FailsForGood, everyStep_iff]
  intro early event before next begins reached _ entry _
  have start : ∀ id, ¬ (Link.initial programs).Broken id := by
    rintro id ⟨name, call, member, _⟩
    cases member
  refine invariant_of_follow step kept start (fun other member => ?_) reached _
  exact quiet other (begins.subset (List.mem_append_left _ member))

end Streams

section Trail

/-- The connection is the current one and its stream has not thrown. -/
def Link.Alive (link : Link Name) (connection : ThreadId) : Prop :=
  link.worker.mConnectedThread = some connection ∧ ¬ link.Broken connection

/-- The calls of a thread that a connection has taken: none so far, or all of
the latest ones, or some consecutive ones of a connection that takes no
more. -/
inductive Trail (link : Link Name) (name : Name) (connection : ThreadId) :
    Prop
  | before (unused : ∀ call ∈ (link.callers name).calls,
        call.outcome ≠ .written connection)
  | during {early late : List Call}
      (calls : (link.callers name).calls = early ++ late)
      (unused : ∀ call ∈ early, call.outcome ≠ .written connection)
      (used : ∀ call ∈ late, call.outcome = .written connection)
      (alive : link.worker.crashed = false → link.Alive connection)
      (copied : ∀ (index : Nat) (writer : Writer),
        link.owners[index]? = some name →
        link.worker.writers[index]? = some writer →
          writer.r = some connection)
  | after {early middle late : List Call}
      (calls : (link.callers name).calls = early ++ middle ++ late)
      (unused : ∀ call ∈ early, call.outcome ≠ .written connection)
      (used : ∀ call ∈ middle, call.outcome = .written connection)
      (ended : ∀ call ∈ late, call.outcome ≠ .written connection)
      (dead : link.worker.crashed = false →
        connection < link.worker.connectedThreads.length ∧
          ¬ link.Alive connection)

theorem connections_grow (consistent : Consistent programs link)
    {event : Event Name} (taken : Taken link event next)
    (running : next.worker.crashed = false) :
    link.worker.connectedThreads.length ≤
      next.worker.connectedThreads.length := by
  cases taken with
  | service other moves =>
      exact (current_of_step consistent.keeping.valid moves running).1
  | write _ _ _ _ _ _ result =>
      rw [result]
  | _ => exact le_rfl

/-- A connection that has ended never comes back. -/
theorem dead_of_taken (consistent : Consistent programs link)
    {event : Event Name} (taken : Taken link event next)
    (running : next.worker.crashed = false)
    (created : connection < link.worker.connectedThreads.length)
    (dead : ¬ link.Alive connection) : ¬ next.Alive connection := by
  rintro ⟨isCurrent, unbroken⟩
  have wasUnbroken := mt (broken_of_taken taken) unbroken
  cases taken with
  | service other moves =>
      obtain ⟨_, current⟩ :=
        current_of_step consistent.keeping.valid moves running
      rcases current with same | gone | fresh
      · exact dead ⟨same.symm.trans isCurrent, wasUnbroken⟩
      · rw [gone] at isCurrent
        cases isCurrent
      · obtain rfl := Option.some.inj (fresh.symm.trans isCurrent)
        exact lt_irrefl _ created
  | assign | pass | turnedAway | lock => exact dead ⟨isCurrent, wasUnbroken⟩
  | crash => cases running
  | write _ _ _ _ _ _ result =>
      subst result
      exact dead ⟨isCurrent, wasUnbroken⟩

theorem created_of_alive (consistent : Consistent programs link)
    (running : link.worker.crashed = false)
    (alive : link.Alive connection) :
    connection < link.worker.connectedThreads.length :=
  (consistent.keeping.valid.invariant (Or.inr running)).created
    (.connected connection)
    (WorkerClass.View.connected_mem_held.mpr alive.1)

section Step

variable (consistent : Consistent programs link) {event : Event Name}
variable (taken : Taken link event next)
include consistent taken

/-- A step in which the thread does not return from a call. -/
theorem Trail.keep (trail : Trail link name connection)
    (calls : (next.callers name).calls = (link.callers name).calls)
    (copied : link.Alive connection → ∀ (index : Nat) (writer : Writer),
      next.owners[index]? = some name →
      next.worker.writers[index]? = some writer →
        (∃ place : Nat, link.owners[place]? = some name ∧
          link.worker.writers[place]? = some writer) ∨
        writer.r = some connection) :
    Trail next name connection := by
  have wasRunning := running_of_taken taken
  have grows := connections_grow consistent taken
  cases trail with
  | before unused => exact .before (calls ▸ unused)
  | during split unused used alive stored =>
      have isAlive := alive wasRunning
      have created := created_of_alive consistent wasRunning isAlive
      by_cases stays : next.Alive connection
      · refine .during (calls.trans split) unused used (fun _ => stays) ?_
        intro index writer owner waiting
        rcases copied isAlive index writer owner waiting with
          ⟨place, placed, waits⟩ | fresh
        · exact stored place writer placed waits
        · exact fresh
      · refine .after (calls.trans (split.trans (List.append_nil _).symm))
          unused used (by simp) fun running => ⟨?_, stays⟩
        exact created.trans_le (grows running)
  | after split unused used ended dead =>
      obtain ⟨created, gone⟩ := dead wasRunning
      refine .after (calls.trans split) unused used ended fun running => ?_
      exact ⟨created.trans_le (grows running),
        dead_of_taken consistent taken running created gone⟩

/-- A step in which the thread returns from a call that the connection has
not taken. -/
theorem Trail.miss (trail : Trail link name connection) {more : List Call}
    (calls : (next.callers name).calls = (link.callers name).calls ++ more)
    (other : ∀ call ∈ more, call.outcome ≠ .written connection)
    (ends : link.Alive connection →
      (∀ (index : Nat) (writer : Writer), link.owners[index]? = some name →
        link.worker.writers[index]? = some writer →
          writer.r = some connection) →
      ¬ next.Alive connection) :
    Trail next name connection := by
  have wasRunning := running_of_taken taken
  have grows := connections_grow consistent taken
  cases trail with
  | before unused =>
      refine .before ?_
      rw [calls]
      exact List.forall_mem_append.mpr ⟨unused, other⟩
  | during split unused used alive stored =>
      have isAlive := alive wasRunning
      have created := created_of_alive consistent wasRunning isAlive
      refine .after (calls.trans (by rw [split])) unused used other
        fun running => ?_
      exact ⟨created.trans_le (grows running), ends isAlive stored⟩
  | @after early middle late split unused used ended dead =>
      obtain ⟨created, gone⟩ := dead wasRunning
      have longer : (next.callers name).calls =
          early ++ middle ++ (late ++ more) := by
        rw [calls, split, List.append_assoc]
      refine .after longer unused used
        (List.forall_mem_append.mpr ⟨ended, other⟩) fun running => ?_
      exact ⟨created.trans_le (grows running),
        dead_of_taken consistent taken running created gone⟩

end Step

omit [DecidableEq Name] in
/-- The call of the thread is taken by the connection. -/
theorem Trail.hit (trail : Trail link name connection)
    (wasRunning : link.worker.crashed = false) {more : List Call}
    (calls : (next.callers name).calls = (link.callers name).calls ++ more)
    (taken : ∀ call ∈ more, call.outcome = .written connection)
    (wasAlive : link.Alive connection) (stays : next.Alive connection)
    (left : name ∉ next.owners) : Trail next name connection := by
  have nothing (index : Nat) (writer : Writer)
      (owner : next.owners[index]? = some name)
      (_ : next.worker.writers[index]? = some writer) :
      writer.r = some connection :=
    absurd (List.mem_of_getElem? owner) left
  cases trail with
  | before unused => exact .during calls unused taken (fun _ => stays) nothing
  | @during early late split unused used alive stored =>
      have longer : (next.callers name).calls = early ++ (late ++ more) := by
        rw [calls, split, List.append_assoc]
      exact .during longer unused (List.forall_mem_append.mpr ⟨used, taken⟩)
        (fun _ => stays) nothing
  | after split unused used ended dead =>
      exact absurd wasAlive (dead wasRunning).2

/-- Where an entry of a list stood before another one was erased. -/
theorem getElem?_of_eraseIdx {Item : Type*} {items : List Item}
    {index erased : Nat} {item : Item}
    (found : (items.eraseIdx erased)[index]? = some item) :
    items[if index < erased then index else index + 1]? = some item := by
  rw [List.getElem?_eraseIdx] at found
  split
  · next before => simpa [before] using found
  · next after => simpa [after] using found

/-- `r.write(out)` has come back. -/
theorem Trail.write (trail : Trail link name connection)
    (consistent : Consistent programs link) {index : Nat} {owner : Name}
    {writer : Writer} {array : Buffer} {target : ThreadId} {succeeds : Bool}
    {worker : Worker} (owns : link.owners[index]? = some owner)
    (waiting : link.worker.writers[index]? = some writer)
    (sends : (link.callers owner).array? = some array)
    (copied : writer.r = some target)
    (takes : succeeds = true → link.takes target = true)
    (moves : WorkerClass.step link.worker (.performWrite index succeeds) =
      some worker)
    (result : worker = { link.worker with
      posted := link.worker.posted ++
        if succeeds then [.write writer.out] else []
      writers := link.worker.writers.eraseIdx index })
    (unbroken : succeeds = true → ¬ link.Broken target) :
    Trail { link.afterWrite index owner array target succeeds with
      worker := worker } name connection := by
  have rule := Taken.write owns waiting sends copied takes moves result
  have wasRunning := running_of_taken rule
  obtain ⟨more, calls, outcomes, nothing⟩ := calls_finish link owner array
    (if succeeds then .written target else .failed target) name
  by_cases own : name = owner
  · subst own
    have leaves := consistent.not_mem_eraseIdx owns
    cases succeeds with
    | true =>
        have current := current_of_takes consistent.keeping wasRunning
          (takes rfl)
        by_cases same : target = connection
        · subst same
          have stillCurrent : worker.mConnectedThread = some target := by
            rw [result]
            exact current
          have stillWhole := unbroken_of_taken rule (by simp) (unbroken rfl)
          exact trail.hit wasRunning calls outcomes ⟨current, unbroken rfl⟩
            ⟨stillCurrent, stillWhole⟩ leaves
        · refine trail.miss consistent rule calls ?_ ?_
          · intro call member
            rw [outcomes call member]
            simpa using same
          · -- at most one connection is alive
            intro isAlive
            exact absurd (Option.some.inj (current.symm.trans isAlive.1)) same
    | false =>
        refine trail.miss consistent rule calls ?_ ?_
        · intro call member
          simp [outcomes call member]
        · -- the stream that has thrown is the one the thread had copied
          intro _ stored alive
          have same := stored index writer owns waiting
          rw [← Option.some.inj (copied.symm.trans same)] at alive
          exact alive.2 (broken_finish link name array target)
  · rw [nothing own, List.append_nil] at calls
    refine trail.keep consistent rule calls fun _ place waiter placed waits =>
      Or.inl ?_
    have before : (link.owners.eraseIdx index)[place]? = some name := placed
    simp only [result] at waits
    exact ⟨_, getElem?_of_eraseIdx before, getElem?_of_eraseIdx waits⟩

theorem Trail.step (trail : Trail link name connection)
    (consistent : Consistent programs link) {event : Event Name}
    (taken : Taken link event next)
    (sound : ∀ entry, next.log = link.log ++ [entry] →
      ¬ link.Broken entry.connection) : Trail next name connection := by
  have invariant := consistent.keeping.valid.invariant
    (Or.inr (running_of_taken taken))
  cases taken with
  | service other moves =>
      refine trail.keep consistent (.service other moves) rfl
        fun _ index writer owner waiting => Or.inl ⟨index, owner, ?_⟩
      rw [← WorkerClass.writers_of_step other moves]
      exact waiting
  | assign running present =>
      exact trail.keep consistent (.assign running present) (assign_calls _ _)
        fun _ index writer owner waiting => Or.inl ⟨index, owner, waiting⟩
  | pass running asks connected =>
      exact trail.keep consistent (.pass running asks connected)
        (move_callers link _ _ name).1
        fun _ index writer owner waiting => Or.inl ⟨index, owner, waiting⟩
  | @turnedAway other array event running sends unwritten unconnected =>
      obtain ⟨more, calls, outcomes, _⟩ :=
        calls_finish link other array .refused name
      refine trail.miss consistent
        (.turnedAway event running sends unwritten unconnected) calls ?_ ?_
      · intro call member
        simp [outcomes call member]
      · intro alive
        refine absurd (invariant.connected_iff.mpr ?_) unconnected
        change link.worker.mConnectedThread ≠ none
        simp [alive.1]
  | @lock other array sends waits connected moves =>
      refine trail.keep consistent (.lock sends waits connected moves)
        (move_callers link other .writing name).1 ?_
      intro alive index writer owner waiting
      by_cases before : index < link.owners.length
      · have stillWaiting : index < link.worker.writers.length :=
          consistent.lengths ▸ before
        simp only [List.getElem?_append_left before,
          List.getElem?_append_left stillWaiting] at owner waiting
        exact Or.inl ⟨index, owner, waiting⟩
      · -- the copy that has just been made
        have bound := (List.getElem?_eq_some_iff.mp owner).1
        have last : index = link.owners.length := by
          simp only [List.length_append, List.length_singleton] at bound
          omega
        subst last
        simp only [consistent.lengths, List.getElem?_concat_length] at waiting
        cases waiting
        exact Or.inr alive.1
  | crash moves =>
      exact trail.keep consistent (.crash moves) rfl
        fun _ index writer owner waiting => Or.inl ⟨index, owner, waiting⟩
  | write owns waiting sends copied takes moves result =>
      refine trail.write consistent owns waiting sends copied takes moves result
        fun succeeded => ?_
      subst succeeded
      exact sound _ rfl

theorem trail_of_follow {events : List (Event Name)}
    (lasting : FailsForGood (Link.initial programs) events)
    (run : follow step (Link.initial programs) events = some link)
    (name : Name) (connection : ThreadId) : Trail link name connection := by
  have start : Trail (Link.initial programs) name connection :=
    .before (by simp [Link.initial])
  have kept (state : Link Name) (event : Event Name) (next : Link Name)
      (both : Consistent programs state ∧ Trail state name connection)
      (sound : ∀ entry, next.log = state.log ++ [entry] →
        ¬ state.Broken entry.connection)
      (moved : ServiceLink.step state event = some next) :
      Consistent programs next ∧ Trail next name connection :=
    ⟨both.1.step (taken_of_step moved),
      both.2.step both.1 (taken_of_step moved) sound⟩
  exact (invariant_of_everyStep ServiceLink.step kept
    ⟨consistent_initial programs, start⟩ lasting run).2

omit [DecidableEq Name] in
/-- The calls of a thread that a connection has taken are consecutive. -/
theorem Trail.window (trail : Trail link name connection) :
    ∃ opens closes, ∀ n : Nat,
      ((link.callers name).calls[n]?.any fun call =>
          call.outcome = .written connection) = true ↔
        opens ≤ n ∧ n < closes := by
  have spelled : ∃ early middle late : List Call,
      (link.callers name).calls = early ++ middle ++ late ∧
        (∀ call ∈ early, call.outcome ≠ .written connection) ∧
        (∀ call ∈ middle, call.outcome = .written connection) ∧
        ∀ call ∈ late, call.outcome ≠ .written connection := by
    cases trail with
    | before unused => exact ⟨_, [], [], by simp, unused, by simp, by simp⟩
    | during calls unused used =>
        exact ⟨_, _, [], by rw [calls, List.append_nil], unused, used, by simp⟩
    | after calls unused used ended =>
        exact ⟨_, _, _, calls, unused, used, ended⟩
  obtain ⟨early, middle, late, calls, unused, used, ended⟩ := spelled
  refine ⟨early.length, early.length + middle.length, fun n => ?_⟩
  rw [calls]
  by_cases first : n < early.length
  · rw [List.append_assoc, List.getElem?_append_left first,
      List.getElem?_eq_getElem first]
    simp [unused _ (List.getElem_mem first)]
    omega
  · by_cases second : n < early.length + middle.length
    · have inMiddle : n - early.length < middle.length := by omega
      rw [List.append_assoc, List.getElem?_append_right (by omega),
        List.getElem?_append_left inMiddle,
        List.getElem?_eq_getElem inMiddle]
      simp [used _ (List.getElem_mem inMiddle)]
      omega
    · rw [List.getElem?_append_right (by simp; omega)]
      cases found : late[n - (early ++ middle).length]? with
      | none =>
          simp
          omega
      | some call =>
          simp [ended call (List.mem_of_getElem? found)]
          omega

end Trail

section Oracle

/-- The bytes of those writes that are taken, the first being number `n`. -/
def bytesWhere (taken : Nat → Bool) : Nat → List (List Byte) → List Byte
  | _, [] => []
  | n, write :: writes =>
      (if taken n then write else []) ++ bytesWhere taken (n + 1) writes

theorem bytesWhere_of_none {taken : Nat → Bool} {n : Nat}
    (none : ∀ m, n ≤ m → taken m = false) (writes : List (List Byte)) :
    bytesWhere taken n writes = [] := by
  induction writes generalizing n with
  | nil => rfl
  | cons write writes ih =>
      rw [bytesWhere, none n le_rfl, ih fun m above => none m (by omega)]
      rfl

/-- What the dispatcher writes, call by call. -/
theorem writtenBytes_callsFrom (service : Service) (start : Nat)
    (commands : List Command) :
    writtenBytes (callsFrom service start commands) =
      bytesWhere (fun n => (service n).connected) start
        (commands.flatMap Command.writes) := by
  induction commands generalizing start with
  | nil => rfl
  | cons command commands ih =>
      rw [callsFrom, writtenBytes_append, ih, writtenBytes_commandCalls,
        List.flatMap_cons]
      simp only [Command.writes, List.cons_append, List.nil_append,
        bytesWhere, List.append_assoc]

/-- The calls of a thread whose outcome is of the given kind. -/
def Caller.took (caller : Caller) (kind : Outcome → Bool) (n : Nat) : Bool :=
  caller.calls[n]?.any fun call => kind call.outcome

/-- The answers that would have led to these calls. -/
def answersOf (caller : Caller) (kind : Outcome → Bool) : Service := fun n =>
  if caller.took kind n then ⟨.stateConnected, .stateConnected⟩
  else ⟨.stateNone, .stateNone⟩

theorem answersOf_connected (caller : Caller) (kind : Outcome → Bool)
    (n : Nat) :
    (answersOf caller kind n).connected = caller.took kind n := by
  unfold answersOf
  cases caller.took kind n <;> rfl

theorem bytesWhere_calls (kind : Outcome → Bool)
    (past calls : List Call) (rest : List (List Byte)) :
    bytesWhere (fun n => (past ++ calls)[n]?.any fun call => kind call.outcome)
        past.length (calls.map Call.bytes ++ rest) =
      (calls.filter fun call => kind call.outcome).flatMap Call.bytes := by
  induction calls generalizing past with
  | nil =>
      rw [List.filter_nil, List.flatMap_nil, List.append_nil]
      apply bytesWhere_of_none
      intro m beyond
      rw [List.getElem?_eq_none beyond]
      rfl
  | cons call calls ih =>
      have later := ih (past ++ [call])
      rw [List.append_assoc, List.singleton_append, List.length_append,
        List.length_singleton] at later
      rw [List.map_cons, List.cons_append, bytesWhere, later,
        List.getElem?_append_right le_rfl, Nat.sub_self]
      cases taken : kind call.outcome <;> simp [taken]

/-- The oracle model of the dispatcher, fed with the outcomes of a thread's
calls, writes the bytes of the calls with a written outcome. -/
theorem writtenBytes_answersOf {caller : Caller} {commands : List Command}
    {later : List (List Byte)}
    (found : commands.flatMap Command.writes =
      caller.calls.map Call.bytes ++ later) (kind : Outcome → Bool) :
    writtenBytes (callsFrom (answersOf caller kind) 0 commands) =
      (caller.calls.filter fun call => kind call.outcome).flatMap
        Call.bytes := by
  have answers : (fun n => (answersOf caller kind n).connected) =
      fun n => ([] ++ caller.calls)[n]?.any fun call => kind call.outcome := by
    ext n
    rw [answersOf_connected]
    rfl
  rw [writtenBytes_callsFrom, found, answers]
  exact bytesWhere_calls kind [] caller.calls later

theorem bytes_of_written (calls : List Call) (kind : ThreadId → Bool) :
    ((calls.filterMap fun call => call.outcome.stream?.map fun connection =>
          (connection, call.bytes)).filter fun write => kind write.1).flatMap
        Prod.snd =
      (calls.filter fun call => call.outcome.stream?.any kind).flatMap
        Call.bytes := by
  induction calls with
  | nil => rfl
  | cons call calls ih =>
      obtain ⟨array, bytes, outcome⟩ := call
      cases outcome with
      | refused => simpa [Outcome.stream?] using ih
      | failed => simpa [Outcome.stream?] using ih
      | written connection =>
          cases wanted : kind connection <;>
            simpa [Outcome.stream?, wanted] using ih

/-- The calls of a thread that issues commands and is not disturbed find the
writes of these commands. -/
theorem writes_of_follow {commands : List Command}
    (program : programs name = commands.flatMap statements)
    (undisturbed : Undisturbed programs name) {events : List (Event Name)}
    (run : follow step (Link.initial programs) events = some link) :
    ∃ later, commands.flatMap Command.writes =
      (link.callers name).calls.map Call.bytes ++ later := by
  have own := readsOwn_of_follow undisturbed run
  rw [ReadsOwn, program, reads_program] at own
  exact ⟨_, own⟩

/-- The dispatcher is modelled with the answers of the service as a parameter.
Whatever the service and the other threads do, as long as these store nothing
in an array that the thread sends, the bytes that the thread gets across are
those of that model for some answers. -/
theorem caller_agrees_with_oracle {events : List (Event Name)}
    (run : follow step (Link.initial programs) events = some link)
    {commands : List Command}
    (program : programs name = commands.flatMap statements)
    (undisturbed : Undisturbed programs name) :
    ∃ service,
      (∀ n, (service n).connected = (link.callers name).took
          (fun outcome => outcome.stream?.any fun _ => true) n) ∧
        (issueAll service Dispatcher.initial commands).wire =
          (link.writtenBy name).flatMap Prod.snd := by
  have consistent := consistent_of_follow run
  obtain ⟨later, found⟩ := writes_of_follow program undisturbed run
  refine ⟨answersOf (link.callers name) fun outcome =>
    outcome.stream?.any fun _ => true, answersOf_connected _ _, ?_⟩
  have written := bytes_of_written (link.callers name).calls fun _ => true
  rw [List.filter_true] at written
  rw [issueAll_wire_eq, consistent.logged name, Caller.written, written]
  exact writtenBytes_answersOf found _

/-- One thread sends a key, the other a click. -/
def keyAndClick (first : Bool) : List Statement :=
  if first then [Command.key 97#8].flatMap statements
  else statements (.click 76#8)

/-- Both threads stand before the same stream; the delimiter of the key gets
across and the rest of its frame is lost. -/
def lostInsideKey : List (Event Bool) :=
  [.service (.start ⟨true, true⟩), .service (.acceptTest 0),
    .service (.acceptReturns 0 (.unnamed 49)),
    .service (.acceptHandle 0 ⟨true, true⟩), .assign true, .assign false,
    .getState true, .getState false, .lockWrite false, .lockWrite true,
    .streamWrite 1 true, .service .stop, .streamWrite 0 false, .getState true]

theorem undisturbed_keyAndClick : Undisturbed keyAndClick true := by
  intro other different assignment member
  obtain rfl : other = false := Bool.eq_false_iff.mpr different
  have click : assignment = .click 0 76#8 := by
    simpa [keyAndClick, statements, assignments] using member
  subst click
  decide

theorem caller_agrees_with_oracle_after_loss :
    ∃ link, follow step (Link.initial keyAndClick) lostInsideKey =
        some link ∧
      ∃ service,
        (∀ n, (service n).connected = (link.callers true).took
            (fun outcome => outcome.stream?.any fun _ => true) n) ∧
          (issueAll service Dispatcher.initial [.key 97#8]).wire =
            (link.writtenBy true).flatMap Prod.snd := by
  obtain ⟨link, run⟩ : ∃ link, follow step (Link.initial keyAndClick)
      lostInsideKey = some link := ⟨_, rfl⟩
  exact ⟨link, run,
    caller_agrees_with_oracle run rfl undisturbed_keyAndClick⟩

/-- Another thread stores its key in the array before it is sent: the letter
of the first key is followed by the byte of the second. -/
example : (follow step
    (Link.initial fun first : Bool =>
      if first then statements (.key 97#8) else statements (.key 98#8))
    [.service (.start ⟨true, true⟩), .service (.acceptTest 0),
      .service (.acceptReturns 0 (.unnamed 49)),
      .service (.acceptHandle 0 ⟨true, true⟩), .assign true,
      .getState true, .lockWrite true, .streamWrite 0 true,
      .getState true, .lockWrite true, .streamWrite 0 true,
      .getState true, .lockWrite true, .assign false,
      .streamWrite 0 true]).map (fun link => link.log.map Entry.bytes) =
        some [[255#8], [75#8], [98#8]] :=
  rfl

end Oracle

section Alone

/-- The bytes that a connection has taken, from whatever thread. -/
def Link.stream (link : Link Name) (connection : ThreadId) : List Byte :=
  (link.log.filter fun entry => entry.connection = connection).flatMap
    Entry.bytes

/-- If only one thread has anything to send, the log is its own. -/
theorem log_of_alone (consistent : Consistent programs link)
    (alone : ∀ other, other ≠ name → programs other = []) :
    ∀ entry ∈ link.log, entry.name = name := by
  intro entry member
  by_contra other
  obtain ⟨done, whole, calls⟩ := consistent.performs entry.name
  rw [alone _ other, eq_comm, List.append_eq_nil_iff] at whole
  rw [whole.1, List.filterMap_nil, eq_comm, List.map_eq_nil_iff] at calls
  have nothing := consistent.logged entry.name
  rw [Caller.written, calls, List.filterMap_nil, Link.writtenBy,
    List.map_eq_nil_iff, List.filter_eq_nil_iff] at nothing
  exact nothing entry member (by simp)

theorem stream_of_alone (consistent : Consistent programs link)
    (alone : ∀ other, other ≠ name → programs other = [])
    (connection : ThreadId) :
    link.stream connection =
      ((link.callers name).calls.filter fun call =>
        call.outcome = .written connection).flatMap Call.bytes := by
  have own : (link.log.filter fun entry => entry.name = name) = link.log := by
    rw [List.filter_eq_self]
    exact fun entry member => by simp [log_of_alone consistent alone entry member]
  have kinds : (fun call : Call =>
        call.outcome.stream?.any fun taken => taken = connection) =
      fun call => decide (call.outcome = .written connection) := by
    ext call
    cases call.outcome <;> simp [Outcome.stream?]
  have written := bytes_of_written (link.callers name).calls
    fun taken => taken = connection
  rw [kinds, ← Caller.written, ← consistent.logged name, Link.writtenBy, own,
    List.filter_map, List.flatMap_map] at written
  rw [← written]
  rfl

/-- One thread sends commands while connections come and go.  If no stream
takes bytes again after it has thrown, on each connection arrives a contiguous
part of its calls, and a dongle that waits for a frame when the connection
begins performs exactly the commands that lie in this part as a whole. -/
theorem each_connection_performs_its_commands {commands : List Command}
    (clean : ∀ command ∈ commands, command.Clean)
    (program : programs name = commands.flatMap statements)
    (alone : ∀ other, other ≠ name → programs other = [])
    {events : List (Event Name)}
    (lasting : FailsForGood (Link.initial programs) events)
    (run : follow step (Link.initial programs) events = some link)
    (connection : ThreadId) (mouseX mouseY : Int) :
    ∃ opens closes,
      (∀ n, (link.callers name).took
          (fun outcome => outcome = .written connection) n = true ↔
        opens ≤ n ∧ n < closes) ∧
      hidCalls .unsigned ⟨waitForStart, mouseX, mouseY⟩
          (link.stream connection) =
        (commandsWithin opens closes 0 commands).map Command.action := by
  have undisturbed : Undisturbed programs name := by
    intro other different assignment member
    rw [alone other different] at member
    cases member
  have consistent := consistent_of_follow run
  obtain ⟨later, found⟩ := writes_of_follow program undisturbed run
  obtain ⟨opens, closes, window⟩ :=
    (trail_of_follow lasting run name connection).window
  refine ⟨opens, closes, window, ?_⟩
  have within : ConnectedWithin (answersOf (link.callers name)
      fun outcome => outcome = .written connection) opens closes := by
    intro n
    rw [answersOf_connected]
    exact window n
  have bytes := writtenBytes_answersOf found
    fun outcome => outcome = .written connection
  rw [stream_of_alone consistent alone, ← bytes]
  exact hidCalls_window within clean 0 rfl

/-- One call of `sendByte` that is written. -/
def writtenCall : List (Event Unit) :=
  [.getState (), .lockWrite (), .streamWrite 0 true]

/-- The connection is lost after the first key and the delimiter of the
second. -/
def lostInsideSecondKey : List (Event Unit) :=
  [.service (.start ⟨true, true⟩), .service (.acceptTest 0),
    .service (.acceptReturns 0 (.unnamed 49)),
    .service (.acceptHandle 0 ⟨true, true⟩), .assign ()] ++
    writtenCall ++ writtenCall ++ writtenCall ++ [.assign ()] ++ writtenCall ++
    [.service .stop, .getState ()]

theorem each_connection_performs_first_key :
    ∃ link, follow step (Link.initial fun _ : Unit =>
          [Command.key 97#8, .key 98#8].flatMap statements)
        lostInsideSecondKey = some link ∧
      ∃ opens closes,
        (∀ n, (link.callers ()).took
            (fun outcome => outcome = .written 0) n = true ↔
          opens ≤ n ∧ n < closes) ∧
        hidCalls .unsigned ⟨waitForStart, 0, 0⟩ (link.stream 0) =
          (commandsWithin opens closes 0 [.key 97#8, .key 98#8]).map
            Command.action := by
  obtain ⟨link, run⟩ : ∃ link, follow step (Link.initial fun _ : Unit =>
      [Command.key 97#8, .key 98#8].flatMap statements)
      lostInsideSecondKey = some link := ⟨_, rfl⟩
  have clean : ∀ command ∈ [Command.key 97#8, .key 98#8], command.Clean := by
    simp [Command.Clean, Command.payload, delimiter]
  refine ⟨link, run,
    each_connection_performs_its_commands clean ?_ ?_ ?_ run 0 0 0⟩
  · rfl
  · exact fun other different => absurd rfl different
  · apply failsForGood_of_no_throw
    simp [lostInsideSecondKey, writtenCall]

end Alone

end ServiceLink

end MightyMouse

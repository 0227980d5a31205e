import MightyMouse.LinkFaults
import MightyMouse.SenderStatements
import MightyMouse.WorkerClassSockets
import Mathlib.Logic.Function.Basic

/-!
# Threads that write through the service

`sendByte` asks the service for its state and calls `write`, which copies
`mConnectedThread` under the lock and then writes to that thread's stream
without it.  In between, connections may be lost, replaced and made anew, and
other threads may store bytes in the array that is being sent.  Here the
threads that use the dispatcher run together with the service itself.  A
stream is assumed to read the array at one moment, to take it whole or not at
all, and to refuse it once the socket is closed; after an exception it may take
bytes again.
-/

namespace MightyMouse

namespace ServiceLink

open LabelledRun
open DispatcherSingleton (Assignment Buffer Dispatcher Statement reads
  statements)
open WorkerClass (Worker ThreadId Writer Housekeeping)

/-- Where a thread stands in a call of `sendByte`: before `getState()`, before
the synchronized block of `write`, or before `r.write(out)`. -/
inductive SendPoint
  | asking
  | locking
  | writing
  deriving DecidableEq, Repr

/-- What has become of a call of `sendByte`: one of the two tests has found
the service unconnected, or the stream of a connected thread has thrown or has
taken the bytes. -/
inductive Outcome
  | refused
  | failed (connection : ThreadId)
  | written (connection : ThreadId)
  deriving DecidableEq, Repr

/-- A call of `sendByte` that has come back, with what its array held at the
end: that is what the stream has read, if the call got so far. -/
structure Call where
  array : Buffer
  bytes : List Byte
  outcome : Outcome
  deriving DecidableEq, Repr

/-- A thread that uses the dispatcher.  `program` begins with the present
statement; `calls` are the finished calls of `sendByte`, oldest first. -/
structure Caller where
  point : SendPoint
  program : List Statement
  calls : List Call
  deriving DecidableEq, Repr

/-- The array of the present call of `sendByte`. -/
def Caller.array? (caller : Caller) : Option Buffer :=
  caller.program.head?.bind Statement.array?

/-- A write that a stream has taken. -/
structure Entry (Name : Type) where
  name : Name
  connection : ThreadId
  bytes : List Byte
  deriving DecidableEq, Repr

/-- The service and the dispatcher together with the threads that use them.
`owners` names the threads that have left the synchronized block, in the order
of `worker.writers`; `log` lists the writes that streams have taken, oldest
first.  Of the dispatcher, only the arrays matter here. -/
structure Link (Name : Type) where
  worker : Worker
  dispatcher : Dispatcher
  callers : Name → Caller
  owners : List Name
  log : List (Entry Name)

inductive Event (Name : Type)
  | service (label : WorkerClass.Step)
  | assign (name : Name)
  | getState (name : Name)
  | lockWrite (name : Name)
  | streamWrite (index : Nat) (succeeds : Bool)
  deriving DecidableEq, Repr

variable {Name : Type} [DecidableEq Name]

/-- Every thread is about to begin. -/
def Link.initial (programs : Name → List Statement) : Link Name where
  worker := Worker.initial
  dispatcher := Dispatcher.initial
  callers := fun name => ⟨.asking, programs name, []⟩
  owners := []
  log := []

/-- The thread performs an assignment and turns to the next statement. -/
def Link.assign (link : Link Name) (name : Name) (assignment : Assignment) :
    Link Name :=
  { link with
    dispatcher := assignment.perform link.dispatcher
    callers := Function.update link.callers name
      { link.callers name with program := (link.callers name).program.tail } }

/-- The thread goes on within its call. -/
def Link.move (link : Link Name) (name : Name) (point : SendPoint) :
    Link Name :=
  { link with
    callers := Function.update link.callers name
      { link.callers name with point := point } }

/-- The thread returns from its call and turns to the next statement. -/
def Link.finish (link : Link Name) (name : Name) (array : Buffer)
    (outcome : Outcome) : Link Name :=
  { link with
    callers := Function.update link.callers name
      { point := .asking
        program := (link.callers name).program.tail
        calls := (link.callers name).calls ++
          [⟨array, link.dispatcher.contents array, outcome⟩] } }

/-- The socket of the connection is open. -/
def Link.takes (link : Link Name) (connection : ThreadId) : Bool :=
  link.worker.connectedThreads[connection]?.any fun thread =>
    link.worker.sockets[thread.mmSocket]?.any fun socket => !socket.closed

/-- `r.write(out)` has returned; `connection` is the number of `r`.  An
exception of the stream is caught and logged, and nothing else. -/
def Link.afterWrite (link : Link Name) (index : Nat) (name : Name)
    (array : Buffer) (connection : ThreadId) (succeeds : Bool) : Link Name :=
  { link.finish name array
      (if succeeds then .written connection else .failed connection) with
    owners := link.owners.eraseIdx index
    log := link.log ++
      if succeeds then [⟨name, connection, link.dispatcher.contents array⟩]
      else [] }

/-- One step of the service or of a thread.  The service is told the contents
of the array at the lock, which end up in a message that is not looked at; the
stream reads the array when it writes. -/
def step (link : Link Name) : Event Name → Option (Link Name)
  | .service label =>
      if label.isWrite then none
      else (WorkerClass.step link.worker label).map fun worker =>
        { link with worker := worker }
  | .assign name =>
      match (link.callers name).program with
      | .assign assignment :: _ =>
          if link.worker.crashed = false then
            some (link.assign name assignment)
          else none
      | _ => none
  | .getState name =>
      (link.callers name).array?.bind fun array =>
        if link.worker.crashed = false ∧
            (link.callers name).point = .asking then
          some (if link.worker.mState = .stateConnected then
              link.move name .locking
            else link.finish name array .refused)
        else none
  | .lockWrite name =>
      (link.callers name).array?.bind fun array =>
        if (link.callers name).point = .locking then
          (WorkerClass.step link.worker
            (.lockWrite (link.dispatcher.contents array))).map fun worker =>
              if link.worker.mState = .stateConnected then
                { link.move name .writing with
                  worker := worker
                  owners := link.owners ++ [name] }
              else { link.finish name array .refused with worker := worker }
        else none
  | .streamWrite index succeeds =>
      match link.owners[index]?, link.worker.writers[index]? with
      | some name, some writer =>
          (link.callers name).array?.bind fun array =>
            if succeeds = true ∧ writer.r.any link.takes = false then none
            else
              (WorkerClass.step link.worker
                (.performWrite index succeeds)).map fun worker =>
                  match writer.r with
                  | none => { link with worker := worker }
                  | some connection =>
                      if worker.crashed then { link with worker := worker }
                      else
                        { link.afterWrite index name array connection
                            succeeds with
                          worker := worker }
      | _, _ => none

section ServiceSteps

open WorkerClass

variable {worker next : Worker}

theorem step_lockWrite (running : worker.crashed = false) (out : List Byte) :
    WorkerClass.step worker (.lockWrite out) =
      some (if worker.mState = .stateConnected then
        { worker with
          writers := worker.writers ++ [⟨worker.mConnectedThread, out⟩] }
        else worker) := by
  unfold WorkerClass.step
  rw [if_neg (by simp [running])]
  rfl

/-- `r.write(out)` finds a null, or comes back from the stream. -/
theorem step_performWrite {index : Nat} {succeeds : Bool} {writer : Writer}
    (waiting : worker.writers[index]? = some writer)
    (taken : WorkerClass.step worker (.performWrite index succeeds) =
      some next) :
    next = { worker with crashed := true } ∨
      (∃ id, writer.r = some id) ∧
        next = { worker with
          posted := worker.posted ++
            if succeeds then [.write writer.out] else []
          writers := worker.writers.eraseIdx index } := by
  obtain ⟨_, body, runs, rfl⟩ := step_runs taken
  cases runs with
  | nullUse => exact Or.inl rfl
  | @write _ writer' id thread _ waiting' copied =>
      rw [waiting] at waiting'
      cases waiting'
      refine Or.inr ⟨⟨id, copied⟩, ?_⟩
      cases succeeds with
      | true => rfl
      | false =>
          rw [if_neg Bool.false_ne_true, List.append_nil]
          rfl

/-- The current connection changes only for none or for a new one. -/
theorem current_of_step (valid : Valid False worker) {label : WorkerClass.Step}
    (taken : WorkerClass.step worker label = some next)
    (running : next.crashed = false) :
    worker.connectedThreads.length ≤ next.connectedThreads.length ∧
      (next.mConnectedThread = worker.mConnectedThread ∨
        next.mConnectedThread = none ∨
        next.mConnectedThread = some worker.connectedThreads.length) := by
  have view := view_of_step valid False.elim taken running
  have count : next.connectedThreads.length = _ :=
    (congrArg View.connectedCount view).trans (connectedCount_after worker label)
  have current : next.mConnectedThread =
      (worker.view.after label).mConnectedThread :=
    congrArg View.mConnectedThread view
  refine ⟨count ▸ Nat.le_add_right _ _, ?_⟩
  rw [current]
  cases label with
  | start | failedStart | lostStart | restart | stop =>
      exact Or.inr (Or.inl rfl)
  | connect => exact Or.inr (Or.inl rfl)
  | handOver => exact Or.inr (Or.inr rfl)
  | acceptHandle =>
      simp only [View.after, View.handleAccepted]
      split
      · exact Or.inr (Or.inr rfl)
      · exact Or.inl rfl
  | _ => exact Or.inl rfl

end ServiceSteps

section Rules

/-- The steps of the link, one rule for each way through the code. -/
inductive Taken (link : Link Name) : Event Name → Link Name → Prop
  | service {label : WorkerClass.Step} {worker : Worker}
      (other : label.isWrite = false)
      (moves : WorkerClass.step link.worker label = some worker) :
      Taken link (.service label) { link with worker := worker }
  | assign {name : Name} {assignment : Assignment} {rest : List Statement}
      (running : link.worker.crashed = false)
      (present : (link.callers name).program = .assign assignment :: rest) :
      Taken link (.assign name) (link.assign name assignment)
  | pass {name : Name} (running : link.worker.crashed = false)
      (asks : (link.callers name).point = .asking)
      (connected : link.worker.mState = .stateConnected) :
      Taken link (.getState name) (link.move name .locking)
  | turnedAway {name : Name} {array : Buffer} (event : Event Name)
      (running : link.worker.crashed = false)
      (sends : (link.callers name).array? = some array)
      (unwritten : (link.callers name).point ≠ .writing)
      (unconnected : link.worker.mState ≠ .stateConnected) :
      Taken link event (link.finish name array .refused)
  | lock {name : Name} {array : Buffer}
      (sends : (link.callers name).array? = some array)
      (waits : (link.callers name).point = .locking)
      (connected : link.worker.mState = .stateConnected)
      (moves : WorkerClass.step link.worker
          (.lockWrite (link.dispatcher.contents array)) =
        some { link.worker with
          writers := link.worker.writers ++
            [⟨link.worker.mConnectedThread,
              link.dispatcher.contents array⟩] }) :
      Taken link (.lockWrite name)
        { link.move name .writing with
          worker := { link.worker with
            writers := link.worker.writers ++
              [⟨link.worker.mConnectedThread,
                link.dispatcher.contents array⟩] }
          owners := link.owners ++ [name] }
  | crash {index : Nat} {succeeds : Bool}
      (moves : WorkerClass.step link.worker (.performWrite index succeeds) =
        some { link.worker with crashed := true }) :
      Taken link (.streamWrite index succeeds)
        { link with worker := { link.worker with crashed := true } }
  | write {index : Nat} {name : Name} {writer : Writer} {array : Buffer}
      {connection : ThreadId} {succeeds : Bool} {worker : Worker}
      (owner : link.owners[index]? = some name)
      (waiting : link.worker.writers[index]? = some writer)
      (sends : (link.callers name).array? = some array)
      (copied : writer.r = some connection)
      (takes : succeeds = true → link.takes connection = true)
      (moves : WorkerClass.step link.worker (.performWrite index succeeds) =
        some worker)
      (result : worker = { link.worker with
        posted := link.worker.posted ++
          if succeeds then [.write writer.out] else []
        writers := link.worker.writers.eraseIdx index }) :
      Taken link (.streamWrite index succeeds)
        { link.afterWrite index name array connection succeeds with
          worker := worker }

variable {link next : Link Name}

theorem taken_assign {name : Name}
    (taken : step link (.assign name) = some next) :
    Taken link (.assign name) next := by
  simp only [step] at taken
  split at taken
  · next assignment rest present =>
      split at taken
      · next running =>
          cases taken
          exact .assign running present
      · cases taken
  · cases taken

theorem taken_getState {name : Name}
    (taken : step link (.getState name) = some next) :
    Taken link (.getState name) next := by
  obtain ⟨array, sends, passed⟩ := Option.bind_eq_some_iff.mp taken
  split at passed
  · next guard =>
      cases passed
      split
      · next connected => exact .pass guard.1 guard.2 connected
      · next unconnected =>
          exact .turnedAway _ guard.1 sends (by simp [guard.2]) unconnected
  · cases passed

theorem taken_lockWrite {name : Name}
    (taken : step link (.lockWrite name) = some next) :
    Taken link (.lockWrite name) next := by
  obtain ⟨array, sends, passed⟩ := Option.bind_eq_some_iff.mp taken
  split at passed
  · next waits =>
      obtain ⟨worker, moves, rfl⟩ := Option.map_eq_some_iff.mp passed
      have running := WorkerClass.crashed_of_step moves
      have locks := step_lockWrite running (link.dispatcher.contents array)
      by_cases connected : link.worker.mState = .stateConnected
      · rw [if_pos connected] at locks
        obtain rfl := Option.some.inj (locks.symm.trans moves)
        rw [if_pos connected]
        exact .lock sends waits connected moves
      · rw [if_neg connected] at locks
        obtain rfl := Option.some.inj (locks.symm.trans moves)
        rw [if_neg connected]
        exact .turnedAway _ running sends (by simp [waits]) connected
  · cases passed

theorem taken_streamWrite {index : Nat} {succeeds : Bool}
    (taken : step link (.streamWrite index succeeds) = some next) :
    Taken link (.streamWrite index succeeds) next := by
  simp only [step] at taken
  split at taken
  · next name writer owner waiting =>
      obtain ⟨array, sends, passed⟩ := Option.bind_eq_some_iff.mp taken
      split at passed
      · cases passed
      · next allowed =>
          obtain ⟨worker, moves, rfl⟩ := Option.map_eq_some_iff.mp passed
          rcases step_performWrite waiting moves with
            rfl | ⟨⟨connection, copied⟩, result⟩
          · cases copied : writer.r with
            | none => exact .crash moves
            | some connection =>
                simp only [if_true]
                exact .crash moves
          · have wasRunning := WorkerClass.crashed_of_step moves
            have runs : worker.crashed = false := by
              rw [result]
              exact wasRunning
            have takes (succeeded : succeeds = true) :
                link.takes connection = true := by
              by_contra shut
              exact allowed ⟨succeeded, by simp [copied, shut]⟩
            simp only [copied, runs]
            exact .write owner waiting sends copied takes moves result
  · cases taken

theorem taken_of_step {event : Event Name}
    (taken : step link event = some next) : Taken link event next := by
  cases event with
  | service label =>
      simp only [step] at taken
      split at taken
      · cases taken
      · next other =>
          obtain ⟨worker, moves, rfl⟩ := Option.map_eq_some_iff.mp taken
          exact .service (Bool.eq_false_iff.mpr other) moves
  | assign name => exact taken_assign taken
  | getState name => exact taken_getState taken
  | lockWrite name => exact taken_lockWrite taken
  | streamWrite index succeeds => exact taken_streamWrite taken

theorem running_of_taken {event : Event Name}
    (taken : Taken link event next) : link.worker.crashed = false := by
  cases taken with
  | assign running => exact running
  | pass running => exact running
  | turnedAway _ running => exact running
  | service _ moves => exact WorkerClass.crashed_of_step moves
  | lock _ _ _ moves => exact WorkerClass.crashed_of_step moves
  | crash moves => exact WorkerClass.crashed_of_step moves
  | write _ _ _ _ _ moves => exact WorkerClass.crashed_of_step moves

end Rules

section Bookkeeping

/-- The connection that has taken the bytes of a call. -/
def Outcome.stream? : Outcome → Option ThreadId
  | .refused | .failed _ => none
  | .written connection => some connection

/-- The writes that a thread knows of. -/
def Caller.written (caller : Caller) : List (ThreadId × List Byte) :=
  caller.calls.filterMap fun call =>
    call.outcome.stream?.map fun connection => (connection, call.bytes)

/-- The writes of a thread that streams have taken. -/
def Link.writtenBy (link : Link Name) (name : Name) :
    List (ThreadId × List Byte) :=
  (link.log.filter fun entry => entry.name = name).map fun entry =>
    (entry.connection, entry.bytes)

/-- The thread has performed the beginning of its program, and its finished
calls are those of this beginning. -/
def Caller.Performs (caller : Caller) (program : List Statement) : Prop :=
  ∃ done, program = done ++ caller.program ∧
    done.filterMap Statement.array? = caller.calls.map Call.array

/-- The thread stands before `r.write(out)`, in a call of `sendByte`. -/
def Caller.Inside (caller : Caller) : Prop :=
  caller.point = .writing ∧ caller.array? ≠ none

/-- Every thread performs the statements of its program in order, the log is
what the threads have written, and the threads inside `write` are those that
the service knows of. -/
structure Consistent (programs : Name → List Statement) (link : Link Name) :
    Prop where
  keeping : Housekeeping link.worker
  performs : ∀ name, (link.callers name).Performs (programs name)
  logged : ∀ name, link.writtenBy name = (link.callers name).written
  lengths : link.owners.length = link.worker.writers.length
  distinct : link.owners.Nodup
  owns : ∀ name ∈ link.owners, (link.callers name).Inside

variable {programs : Name → List Statement} {link next : Link Name}
variable {name : Name} {array : Buffer}

theorem consistent_initial (programs : Name → List Statement) :
    Consistent programs (Link.initial programs) where
  keeping := WorkerClass.housekeeping_initial
  performs := fun _ => ⟨[], rfl, rfl⟩
  logged := fun _ => rfl
  lengths := rfl
  distinct := List.nodup_nil
  owns := by simp [Link.initial]

theorem program_of_array? {caller : Caller}
    (sends : caller.array? = some array) :
    caller.program = .sendByte array :: caller.program.tail := by
  obtain ⟨statement, present, isCall⟩ := Option.bind_eq_some_iff.mp sends
  obtain ⟨rest, whole⟩ := List.head?_eq_some_iff.mp present
  cases statement with
  | assign => cases isCall
  | sendByte =>
      cases isCall
      rw [whole]
      rfl

section Callers

theorem assign_other {other : Name} (different : other ≠ name)
    (assignment : Assignment) :
    (link.assign name assignment).callers other = link.callers other :=
  Function.update_of_ne different _ _

theorem move_other {other : Name} (different : other ≠ name)
    (point : SendPoint) :
    (link.move name point).callers other = link.callers other :=
  Function.update_of_ne different _ _

theorem finish_other {other : Name} (different : other ≠ name)
    (outcome : Outcome) :
    (link.finish name array outcome).callers other = link.callers other :=
  Function.update_of_ne different _ _

theorem assign_self (assignment : Assignment) :
    (link.assign name assignment).callers name =
      { link.callers name with program := (link.callers name).program.tail } :=
  Function.update_self _ _ _

theorem move_self (point : SendPoint) :
    (link.move name point).callers name =
      { link.callers name with point := point } :=
  Function.update_self _ _ _

theorem finish_self (outcome : Outcome) :
    (link.finish name array outcome).callers name =
      ⟨.asking, (link.callers name).program.tail,
        (link.callers name).calls ++
          [⟨array, link.dispatcher.contents array, outcome⟩]⟩ :=
  Function.update_self _ _ _

/-- Within a call, neither the program nor the finished calls change. -/
theorem move_callers (link : Link Name) (name : Name) (point : SendPoint)
    (other : Name) :
    ((link.move name point).callers other).calls = (link.callers other).calls ∧
      ((link.move name point).callers other).program =
        (link.callers other).program := by
  by_cases same : other = name
  · subst same
    rw [move_self]
    exact ⟨rfl, rfl⟩
  · rw [move_other same]
    exact ⟨rfl, rfl⟩

theorem assign_calls (assignment : Assignment) (other : Name) :
    ((link.assign name assignment).callers other).calls =
      (link.callers other).calls := by
  by_cases same : other = name
  · subst same
    rw [assign_self]
  · rw [assign_other same]

end Callers

section Programs

variable {program : List Statement} {other : Name}

theorem Caller.Performs.move (performs : (link.callers other).Performs program)
    (point : SendPoint) :
    ((link.move name point).callers other).Performs program := by
  obtain ⟨calls, rest⟩ := move_callers link name point other
  rw [Caller.Performs, calls, rest]
  exact performs

theorem Caller.Performs.assign (performs : (link.callers other).Performs program)
    {assignment : Assignment} {rest : List Statement}
    (present : (link.callers name).program = .assign assignment :: rest) :
    ((link.assign name assignment).callers other).Performs program := by
  by_cases same : other = name
  · subst same
    obtain ⟨done, whole, calls⟩ := performs
    rw [present] at whole
    rw [assign_self, Caller.Performs, present]
    refine ⟨done ++ [.assign assignment], by simp [whole], ?_⟩
    rw [List.filterMap_append, calls]
    exact List.append_nil _
  · rw [assign_other same]
    exact performs

theorem Caller.Performs.finish (performs : (link.callers other).Performs program)
    (sends : (link.callers name).array? = some array) (outcome : Outcome) :
    ((link.finish name array outcome).callers other).Performs program := by
  by_cases same : other = name
  · subst same
    obtain ⟨done, whole, calls⟩ := performs
    rw [program_of_array? sends] at whole
    rw [finish_self, Caller.Performs]
    refine ⟨done ++ [.sendByte array], by simp [whole], ?_⟩
    rw [List.filterMap_append, List.map_append, calls]
    rfl
  · rw [finish_other same]
    exact performs

theorem written_finish_self (outcome : Outcome) :
    ((link.finish name array outcome).callers name).written =
      (link.callers name).written ++
        (outcome.stream?.map fun connection =>
          (connection, link.dispatcher.contents array)).toList := by
  rw [finish_self, Caller.written, List.filterMap_append]
  cases outcome <;> rfl

theorem written_finish_of_none {outcome : Outcome}
    (lost : outcome.stream? = none) (other : Name) :
    ((link.finish name array outcome).callers other).written =
      (link.callers other).written := by
  by_cases same : other = name
  · subst same
    rw [written_finish_self, lost]
    exact List.append_nil _
  · rw [finish_other same]

end Programs

theorem Consistent.not_owner (consistent : Consistent programs link)
    (elsewhere : (link.callers name).point ≠ .writing) :
    name ∉ link.owners :=
  fun member => elsewhere (consistent.owns name member).1

/-- Nobody is inside `write` twice. -/
theorem Consistent.not_mem_eraseIdx (consistent : Consistent programs link)
    {index : Nat} (owner : link.owners[index]? = some name) :
    name ∉ link.owners.eraseIdx index := by
  intro member
  obtain ⟨place, elsewhere, found⟩ := List.mem_eraseIdx_iff_getElem?.mp member
  have same := (List.getElem?_inj (List.getElem?_eq_some_iff.mp owner).1
    consistent.distinct).mp (owner.trans found.symm)
  exact elsewhere same.symm

/-- A call that comes back without a write, from a thread that is not inside
`write`. -/
theorem Consistent.turnedAway (consistent : Consistent programs link)
    (sends : (link.callers name).array? = some array)
    (unwritten : (link.callers name).point ≠ .writing) :
    Consistent programs (link.finish name array .refused) where
  keeping := consistent.keeping
  performs := fun other => (consistent.performs other).finish sends _
  logged := fun other =>
    (consistent.logged other).trans (written_finish_of_none rfl other).symm
  lengths := consistent.lengths
  distinct := consistent.distinct
  owns := by
    intro other owner
    have different : other ≠ name := by
      rintro rfl
      exact consistent.not_owner unwritten owner
    rw [finish_other different]
    exact consistent.owns other owner

theorem Consistent.assign (consistent : Consistent programs link)
    {assignment : Assignment} {rest : List Statement}
    (present : (link.callers name).program = .assign assignment :: rest) :
    Consistent programs (link.assign name assignment) where
  keeping := consistent.keeping
  performs := fun other => (consistent.performs other).assign present
  logged := by
    intro other
    rw [Caller.written, assign_calls]
    exact consistent.logged other
  lengths := consistent.lengths
  distinct := consistent.distinct
  owns := by
    intro other owner
    have different : other ≠ name := by
      rintro rfl
      refine (consistent.owns other owner).2 ?_
      rw [Caller.array?, present]
      rfl
    rw [assign_other different]
    exact consistent.owns other owner

theorem Consistent.pass (consistent : Consistent programs link)
    (asks : (link.callers name).point = .asking) :
    Consistent programs (link.move name .locking) where
  keeping := consistent.keeping
  performs := fun other => (consistent.performs other).move _
  logged := by
    intro other
    rw [Caller.written, (move_callers link name .locking other).1]
    exact consistent.logged other
  lengths := consistent.lengths
  distinct := consistent.distinct
  owns := by
    intro other owner
    have different : other ≠ name := by
      rintro rfl
      exact consistent.not_owner (by simp [asks]) owner
    rw [move_other different]
    exact consistent.owns other owner

theorem Consistent.lock (consistent : Consistent programs link)
    {out : List Byte} (sends : (link.callers name).array? = some array)
    (waits : (link.callers name).point = .locking)
    (moves : WorkerClass.step link.worker (.lockWrite out) =
      some { link.worker with
        writers := link.worker.writers ++
          [⟨link.worker.mConnectedThread, out⟩] }) :
    Consistent programs
      { link.move name .writing with
        worker := { link.worker with
          writers := link.worker.writers ++
            [⟨link.worker.mConnectedThread, out⟩] }
        owners := link.owners ++ [name] } := by
  have newcomer : name ∉ link.owners :=
    consistent.not_owner (by simp [waits])
  constructor
  · exact WorkerClass.housekeeping_step consistent.keeping moves
  · exact fun other => (consistent.performs other).move _
  · intro other
    change _ = ((link.move name .writing).callers other).written
    rw [Caller.written, (move_callers link name .writing other).1]
    exact consistent.logged other
  · simp [consistent.lengths]
  · refine List.nodup_append.mpr
      ⟨consistent.distinct, by simp, ?_⟩
    intro other member last isLast
    rw [List.mem_singleton.mp isLast]
    exact fun same => newcomer (same ▸ member)
  · intro other member
    change ((link.move name .writing).callers other).Inside
    rcases List.mem_append.mp member with before | last
    · have different : other ≠ name := fun same => newcomer (same ▸ before)
      rw [move_other different]
      exact consistent.owns other before
    · -- the thread that has just left the synchronized block
      rw [List.mem_singleton.mp last, move_self]
      exact ⟨rfl, Option.ne_none_iff_exists'.mpr ⟨array, sends⟩⟩

theorem Consistent.write (consistent : Consistent programs link)
    {index : Nat} {connection : ThreadId} {succeeds : Bool} {worker : Worker}
    (owner : link.owners[index]? = some name)
    (sends : (link.callers name).array? = some array)
    (moves : WorkerClass.step link.worker (.performWrite index succeeds) =
      some worker)
    (rest : worker.writers = link.worker.writers.eraseIdx index) :
    Consistent programs
      { link.afterWrite index name array connection succeeds with
        worker := worker } := by
  constructor
  · exact WorkerClass.housekeeping_step consistent.keeping moves
  · exact fun other => (consistent.performs other).finish sends _
  · intro other
    have before := consistent.logged other
    cases succeeds with
    | false =>
        have after : ((link.finish name array (.failed connection)).callers
            other).written = (link.callers other).written :=
          written_finish_of_none rfl other
        refine Eq.trans ?_ after.symm
        simpa [Link.writtenBy, Link.afterWrite] using before
    | true =>
        by_cases same : other = name
        · subst same
          have after : ((link.finish other array (.written connection)).callers
              other).written = _ := written_finish_self _
          refine Eq.trans ?_ after.symm
          rw [← before]
          simp [Link.writtenBy, Link.afterWrite, Outcome.stream?]
        · have after : ((link.finish name array (.written connection)).callers
              other).written = (link.callers other).written := by
            rw [finish_other same]
          refine Eq.trans ?_ after.symm
          rw [← before]
          simp [Link.writtenBy, Link.afterWrite, Ne.symm same]
  · change (link.owners.eraseIdx index).length = worker.writers.length
    rw [rest, List.length_eraseIdx, List.length_eraseIdx, consistent.lengths]
  · exact consistent.distinct.sublist (List.eraseIdx_sublist _ _)
  · intro other member
    have different : other ≠ name := by
      rintro rfl
      exact consistent.not_mem_eraseIdx owner member
    change ((link.finish name array _).callers other).Inside
    rw [finish_other different]
    exact consistent.owns other (List.mem_of_mem_eraseIdx member)

theorem Consistent.step (consistent : Consistent programs link)
    {event : Event Name} (taken : Taken link event next) :
    Consistent programs next := by
  cases taken with
  | service other moves =>
      refine ⟨WorkerClass.housekeeping_step consistent.keeping moves,
        consistent.performs, consistent.logged, ?_, consistent.distinct,
        consistent.owns⟩
      rw [WorkerClass.writers_of_step other moves]
      exact consistent.lengths
  | assign _ present => exact consistent.assign present
  | pass _ asks => exact consistent.pass asks
  | turnedAway event _ sends unwritten =>
      exact consistent.turnedAway sends unwritten
  | lock sends waits _ moves => exact consistent.lock sends waits moves
  | crash moves =>
      exact ⟨WorkerClass.housekeeping_step consistent.keeping moves,
        consistent.performs, consistent.logged, consistent.lengths,
        consistent.distinct, consistent.owns⟩
  | write owner _ sends _ _ moves result =>
      exact consistent.write owner sends moves (by rw [result])

theorem consistent_of_follow {events : List (Event Name)}
    (run : follow step (Link.initial programs) events = some link) :
    Consistent programs link :=
  invariant_of_follow step
    (fun _ _ _ holds (_ : True) taken => holds.step (taken_of_step taken))
    (consistent_initial programs) (fun _ _ => trivial) run

/-- What consistent links keep from step to step holds after every run. -/
theorem holds_of_follow {property : Link Name → Prop}
    (start : property (Link.initial programs))
    (kept : ∀ link event next, Consistent programs link → property link →
      Taken link event next → property next)
    {events : List (Event Name)}
    (run : follow step (Link.initial programs) events = some link) :
    property link := by
  have both (state : Link Name) (event : Event Name) (next : Link Name)
      (holds : Consistent programs state ∧ property state) (_ : True)
      (moved : ServiceLink.step state event = some next) :
      Consistent programs next ∧ property next :=
    ⟨holds.1.step (taken_of_step moved),
      kept state event next holds.1 holds.2 (taken_of_step moved)⟩
  exact (invariant_of_follow ServiceLink.step both
    ⟨consistent_initial programs, start⟩ (fun _ _ => trivial) run).2

end Bookkeeping

section Undisturbed

/-- No other thread stores anything in an array that the thread sends. -/
def Undisturbed (programs : Name → List Statement) (name : Name) : Prop :=
  ∀ other, other ≠ name → ∀ assignment : Assignment,
    .assign assignment ∈ programs other →
      .sendByte assignment.array ∉ programs name

/-- The finished calls have found, and the rest of the program would find, in
the arrays what the thread has stored there. -/
def ReadsOwn (programs : Name → List Statement) (name : Name)
    (link : Link Name) : Prop :=
  reads Dispatcher.initial (programs name) =
    (link.callers name).calls.map Call.bytes ++
      reads link.dispatcher (link.callers name).program

variable {programs : Name → List Statement} {link next : Link Name}
variable {name : Name} {array : Buffer}

theorem ReadsOwn.finish (own : ReadsOwn programs name link) {other : Name}
    (sends : (link.callers other).array? = some array) (outcome : Outcome) :
    ReadsOwn programs name (link.finish other array outcome) := by
  by_cases same : name = other
  · subst same
    rw [ReadsOwn, program_of_array? sends, reads] at own
    rw [ReadsOwn, finish_self, own, List.map_append, List.append_assoc]
    rfl
  · rw [ReadsOwn, finish_other same]
    exact own

theorem ReadsOwn.assign (own : ReadsOwn programs name link)
    (consistent : Consistent programs link)
    (undisturbed : Undisturbed programs name) {other : Name}
    {assignment : Assignment} {rest : List Statement}
    (present : (link.callers other).program = .assign assignment :: rest) :
    ReadsOwn programs name (link.assign other assignment) := by
  by_cases same : name = other
  · subst same
    rw [ReadsOwn, present, reads] at own
    rw [ReadsOwn, assign_self, present]
    exact own
  · rw [ReadsOwn, assign_other same, own]
    -- the array that has changed is not read by the rest of the program
    have foreign : .assign assignment ∈ programs other := by
      obtain ⟨done, whole, _⟩ := consistent.performs other
      rw [whole, present]
      simp
    have unsent := undisturbed other (Ne.symm same) assignment foreign
    congr 1
    apply DispatcherSingleton.reads_congr
    intro sent member
    refine (DispatcherSingleton.contents_perform_of_ne ?_ _).symm
    rintro rfl
    obtain ⟨done, whole, _⟩ := consistent.performs name
    rw [whole] at unsent
    exact unsent (List.mem_append_right _ member)

theorem ReadsOwn.step (own : ReadsOwn programs name link)
    (consistent : Consistent programs link)
    (undisturbed : Undisturbed programs name) {event : Event Name}
    (taken : Taken link event next) : ReadsOwn programs name next := by
  cases taken with
  | service | crash => exact own
  | assign _ present => exact own.assign consistent undisturbed present
  | @pass other =>
      obtain ⟨calls, rest⟩ := move_callers link other .locking name
      rw [ReadsOwn, calls, rest]
      exact own
  | turnedAway _ _ sends => exact own.finish sends _
  | @lock other =>
      obtain ⟨calls, rest⟩ := move_callers link other .writing name
      change _ = ((link.move other .writing).callers name).calls.map
        Call.bytes ++ reads link.dispatcher
          ((link.move other .writing).callers name).program
      rw [calls, rest]
      exact own
  | write _ _ sends => exact own.finish sends _

/-- A thread that nobody disturbs sends what it has stored. -/
theorem readsOwn_of_follow (undisturbed : Undisturbed programs name)
    {events : List (Event Name)}
    (run : follow step (Link.initial programs) events = some link) :
    ReadsOwn programs name link := by
  apply holds_of_follow _ _ run
  · rfl
  · exact fun _ _ _ consistent own taken =>
      own.step consistent undisturbed taken

end Undisturbed

section Safety

variable {programs : Name → List Statement} {link next : Link Name}

omit [DecidableEq Name] in
/-- Only the current connection has a socket that is open. -/
theorem current_of_takes (keeping : Housekeeping link.worker)
    (running : link.worker.crashed = false) {connection : ThreadId}
    (takes : link.takes connection = true) :
    link.worker.mConnectedThread = some connection := by
  by_contra notCurrent
  unfold Link.takes at takes
  cases found : link.worker.connectedThreads[connection]? with
  | none => simp [found] at takes
  | some thread =>
      obtain ⟨socket, socketFound, isClosed⟩ := keeping.closed_of_not_current
        running ⟨thread, found, rfl⟩ notCurrent
      simp [found, socketFound, isClosed] at takes

/-- The log grows by one entry when a stream takes bytes, and then the
connection is the current one. -/
theorem log_of_taken (consistent : Consistent programs link)
    {event : Event Name} (taken : Taken link event next) :
    next.log = link.log ∨ ∃ entry, next.log = link.log ++ [entry] ∧
      link.worker.crashed = false ∧
      link.worker.mConnectedThread = some entry.connection ∧
      next.worker.mConnectedThread = some entry.connection ∧
      next.worker.connectedThreads = link.worker.connectedThreads := by
  cases taken with
  | @write index name writer array connection succeeds worker owner waiting
      sends copied takes moves result =>
      have running := WorkerClass.crashed_of_step moves
      cases succeeds with
      | false => exact Or.inl (List.append_nil _)
      | true =>
          have current := current_of_takes consistent.keeping running
            (takes rfl)
          refine Or.inr ⟨⟨name, connection, link.dispatcher.contents array⟩, rfl,
            running, current, ?_, ?_⟩
          · change worker.mConnectedThread = some connection
            rw [result]
            exact current
          · change worker.connectedThreads = _
            rw [result]
  | _ => exact Or.inl rfl

/-- Whatever the service does meanwhile, bytes reach a stream only while its
connection is the current one. -/
theorem bytes_reach_current_connection (programs : Name → List Statement)
    (events : List (Event Name)) :
    EveryStep step (fun link _ next => ∀ entry,
        next.log = link.log ++ [entry] →
          link.worker.mState = .stateConnected ∧
            link.worker.mConnectedThread = some entry.connection)
      (Link.initial programs) events := by
  rw [everyStep_iff]
  intro early event link next _ reached moved entry logged
  have consistent := consistent_of_follow reached
  rcases log_of_taken consistent (taken_of_step moved) with
    same | ⟨entry', logged', running, current, _⟩
  · rw [same] at logged
    simp at logged
  · have sameEntry : entry' = entry := by
      simpa using logged'.symm.trans logged
    rw [← sameEntry]
    have invariant := consistent.keeping.valid.invariant (Or.inr running)
    refine ⟨invariant.connected_iff.mpr ?_, current⟩
    change link.worker.mConnectedThread ≠ none
    rw [current]
    simp

/-- The connections of the log come in the order of their creation; while the
process lives, none of them is later than the current one. -/
structure Ordered (link : Link Name) : Prop where
  sorted : link.log.Pairwise fun early late =>
    early.connection ≤ late.connection
  created : link.worker.crashed = false → ∀ entry ∈ link.log,
    entry.connection < link.worker.connectedThreads.length
  current : link.worker.crashed = false → ∀ entry ∈ link.log, ∀ id,
    link.worker.mConnectedThread = some id → entry.connection ≤ id

omit [DecidableEq Name] in
/-- A step that takes no bytes. -/
theorem Ordered.quiet (ordered : Ordered link)
    (valid : WorkerClass.Valid False link.worker)
    (sameLog : next.log = link.log)
    (moves : next.worker = link.worker ∨
      ∃ label, WorkerClass.step link.worker label = some next.worker) :
    Ordered next := by
  rcases moves with same | ⟨label, moves⟩
  · constructor
    · rw [sameLog]
      exact ordered.sorted
    · rw [sameLog, same]
      exact ordered.created
    · rw [sameLog, same]
      exact ordered.current
  · have wasRunning := WorkerClass.crashed_of_step moves
    refine ⟨sameLog ▸ ordered.sorted, ?_, ?_⟩
    · intro running entry member
      rw [sameLog] at member
      exact (ordered.created wasRunning entry member).trans_le
        (current_of_step valid moves running).1
    · intro running entry member id isCurrent
      rw [sameLog] at member
      rcases (current_of_step valid moves running).2 with
        same | gone | fresh
      · exact ordered.current wasRunning entry member id
          (same.symm.trans isCurrent)
      · rw [gone] at isCurrent
        cases isCurrent
      · obtain rfl := Option.some.inj (fresh.symm.trans isCurrent)
        exact (ordered.created wasRunning entry member).le

theorem Ordered.step (ordered : Ordered link)
    (consistent : Consistent programs link) {event : Event Name}
    (taken : Taken link event next) : Ordered next := by
  rcases log_of_taken consistent taken with
    same | ⟨entry, logged, running, current, stays, sameThreads⟩
  · refine ordered.quiet consistent.keeping.valid same ?_
    cases taken with
    | service other moves => exact Or.inr ⟨_, moves⟩
    | assign | pass | turnedAway => exact Or.inl rfl
    | lock _ _ _ moves => exact Or.inr ⟨_, moves⟩
    | crash moves => exact Or.inr ⟨_, moves⟩
    | write _ _ _ _ _ moves => exact Or.inr ⟨_, moves⟩
  · have invariant := consistent.keeping.valid.invariant (Or.inr running)
    have bound : entry.connection < link.worker.connectedThreads.length :=
      invariant.created (.connected entry.connection)
        (WorkerClass.View.connected_mem_held.mpr current)
    constructor
    · rw [logged, List.pairwise_append]
      refine ⟨ordered.sorted, by simp, ?_⟩
      intro earlier member late isLate
      rw [List.mem_singleton.mp isLate]
      exact ordered.current running earlier member _ current
    · intro _ other member
      rw [logged, List.mem_append, List.mem_singleton] at member
      rw [sameThreads]
      rcases member with before | rfl
      · exact ordered.created running other before
      · exact bound
    · intro _ other member id isCurrent
      obtain rfl := Option.some.inj (stays.symm.trans isCurrent)
      rw [logged, List.mem_append, List.mem_singleton] at member
      rcases member with before | rfl
      · exact ordered.current running other before _ current
      · exact le_rfl

/-- Every thread makes its calls in the order of its program; its writes that
arrive are those that its calls report, each of them once and on one
connection; unless another thread stores something in an array that it sends,
its calls find what it has stored itself; and all writes to a connection come
before those to later ones. -/
theorem writes_arrive_in_order {events : List (Event Name)}
    (run : follow step (Link.initial programs) events = some link) :
    (link.log.Pairwise fun early late => early.connection ≤ late.connection) ∧
      ∀ name,
        (∃ done, programs name = done ++ (link.callers name).program ∧
          done.filterMap Statement.array? =
            (link.callers name).calls.map Call.array) ∧
        link.writtenBy name = (link.callers name).written ∧
        (Undisturbed programs name →
          reads Dispatcher.initial (programs name) =
            (link.callers name).calls.map Call.bytes ++
              reads link.dispatcher (link.callers name).program) := by
  have consistent := consistent_of_follow run
  have ordered : Ordered link := by
    apply holds_of_follow _ _ run
    · constructor <;> simp [Link.initial]
    · exact fun _ _ _ consistent ordered taken => ordered.step consistent taken
  exact ⟨ordered.sorted, fun name => ⟨consistent.performs name,
    consistent.logged name,
    fun undisturbed => readsOwn_of_follow undisturbed run⟩⟩

/-- A connection is accepted, takes a first write, and is replaced while a
second write stands before its stream; the second write fails. -/
def replacedWhileWriting : List (Event Unit) :=
  [.service (.start ⟨true, true⟩), .service (.acceptTest 0),
    .service (.acceptReturns 0 (.unnamed 49)),
    .service (.acceptHandle 0 ⟨true, true⟩), .assign (), .getState (),
    .lockWrite (), .streamWrite 0 true, .getState (), .lockWrite (),
    .service (.connect (.unnamed 50) true true), .streamWrite 0 false]

theorem writes_arrive_in_order_across_loss :
    ∃ link, follow step
        (Link.initial fun _ : Unit => statements (.key 97#8))
        replacedWhileWriting = some link ∧
      (link.log.Pairwise fun early late =>
          early.connection ≤ late.connection) ∧
        ∀ name : Unit,
          (∃ done, statements (.key 97#8) =
              done ++ (link.callers name).program ∧
            done.filterMap Statement.array? =
              (link.callers name).calls.map Call.array) ∧
          link.writtenBy name = (link.callers name).written ∧
          (Undisturbed
              (fun _ : Unit => statements (.key 97#8)) name →
            reads Dispatcher.initial
                (statements (.key 97#8)) =
              (link.callers name).calls.map Call.bytes ++
                reads link.dispatcher (link.callers name).program) := by
  obtain ⟨link, run⟩ : ∃ link, follow step
      (Link.initial fun _ : Unit => statements (.key 97#8))
      replacedWhileWriting = some link := ⟨_, rfl⟩
  exact ⟨link, run, writes_arrive_in_order run⟩

end Safety

end ServiceLink

end MightyMouse

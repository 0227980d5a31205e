import MightyMouse.ConcurrentSenders

/-!
# The statements of a sender

The payload arrays of the dispatcher are shared by all threads, and `sendByte`
is given a reference to an array, not its bytes.  Taken apart, a thread that
issues commands stores single bytes in an array and calls `sendByte` for one
array after the other.  What a call finds in its array depends on the stores
of all threads.
-/

namespace MightyMouse

namespace DispatcherSingleton

/-- An assignment to one byte of a payload array. -/
inductive Assignment
  | key (index : Fin numKeyBytes) (byte : Byte)
  | mouse (index : Fin numMouseBytes) (byte : Byte)
  | click (index : Fin numClickBytes) (byte : Byte)
  deriving DecidableEq, Repr

def Assignment.array : Assignment → Buffer
  | .key _ _ => .keyBytes
  | .mouse _ _ => .mouseBytes
  | .click _ _ => .clickBytes

def Assignment.perform (dispatcher : Dispatcher) : Assignment → Dispatcher
  | .key index byte =>
      { dispatcher with keyBytes := dispatcher.keyBytes.set index byte }
  | .mouse index byte =>
      { dispatcher with mouseBytes := dispatcher.mouseBytes.set index byte }
  | .click index byte =>
      { dispatcher with clickBytes := dispatcher.clickBytes.set index byte }

inductive Statement
  | assign (assignment : Assignment)
  | sendByte (array : Buffer)
  deriving DecidableEq, Repr

def Statement.perform (service : Service) (dispatcher : Dispatcher) :
    Statement → Dispatcher
  | .assign assignment => assignment.perform dispatcher
  | .sendByte array => DispatcherSingleton.sendByte service dispatcher array

/-- The array that a call of `sendByte` is given. -/
def Statement.array? : Statement → Option Buffer
  | .assign _ => none
  | .sendByte array => some array

/-- The loop of the setter that fills the array of a command. -/
def assignments : Command → List Assignment
  | .key k => [.key 0 k]
  | .move x y s => [.mouse 0 x, .mouse 1 y, .mouse 2 s]
  | .click c => [.click 0 c]

/-- A setter and a send method, statement by statement. -/
def statements (command : Command) : List Statement :=
  (assignments command).map .assign ++
    [.sendByte .delimiter, .sendByte (kindBuffer command),
      .sendByte (payloadBuffer command)]

/-- What the calls of `sendByte` find in their arrays if nobody else stores
anything. -/
def reads : Dispatcher → List Statement → List (List Byte)
  | _, [] => []
  | dispatcher, .assign assignment :: rest =>
      reads (assignment.perform dispatcher) rest
  | dispatcher, .sendByte array :: rest =>
      dispatcher.contents array :: reads dispatcher rest

section Commands

variable {service : Service}

/-- The copy loops of the setters, unrolled. -/
theorem perform_assignments (dispatcher : Dispatcher) :
    (∀ k, (assignments (.key k)).foldl Assignment.perform dispatcher =
        setKeyBytes dispatcher #v[k]) ∧
      (∀ x y s, (assignments (.move x y s)).foldl Assignment.perform
          dispatcher = setMouseBytes dispatcher #v[x, y, s]) ∧
      ∀ c, (assignments (.click c)).foldl Assignment.perform dispatcher =
        setClickBytes dispatcher #v[c] := by
  have one : List.finRange 1 = [0] := rfl
  have three : List.finRange 3 = [0, 1, 2] := rfl
  refine ⟨fun k => ?_, fun x y s => ?_, fun c => ?_⟩
  · rw [setKeyBytes, copyBytes, one]
    rfl
  · rw [setMouseBytes, copyBytes, three]
    rfl
  · rw [setClickBytes, copyBytes, one]
    rfl

theorem perform_statements (dispatcher : Dispatcher) (command : Command) :
    (statements command).foldl (Statement.perform service) dispatcher =
      issue service dispatcher command := by
  have filled : ((assignments command).map Statement.assign).foldl
      (Statement.perform service) dispatcher =
        (assignments command).foldl Assignment.perform dispatcher :=
    List.foldl_map
  rw [statements, List.foldl_append, filled]
  obtain ⟨key, move, click⟩ := perform_assignments dispatcher
  cases command with
  | key k =>
      rw [key]
      rfl
  | move x y s =>
      rw [move]
      rfl
  | click c =>
      rw [click]
      rfl

/-- The statements of the commands, performed one by one, issue the
commands. -/
theorem perform_program (dispatcher : Dispatcher) (commands : List Command) :
    (commands.flatMap statements).foldl (Statement.perform service)
        dispatcher =
      issueAll service dispatcher commands := by
  induction commands generalizing dispatcher with
  | nil => rfl
  | cons command commands ih =>
      rw [List.flatMap_cons, List.foldl_append, perform_statements, ih]
      rfl

/-- An assignment does to an array what it does to one with the same contents. -/
theorem contents_perform_congr {first second : Dispatcher} {array : Buffer}
    (same : first.contents array = second.contents array) (assignment : Assignment) :
    (assignment.perform first).contents array =
      (assignment.perform second).contents array := by
  cases assignment <;> cases array <;>
    simp_all [Assignment.perform, Dispatcher.contents, Vector.toList_inj]

theorem contents_perform_of_ne {array : Buffer} {assignment : Assignment}
    (elsewhere : assignment.array ≠ array) (dispatcher : Dispatcher) :
    (assignment.perform dispatcher).contents array = dispatcher.contents array := by
  cases assignment <;> cases array <;> simp_all [Assignment.array] <;> rfl

/-- The calls read only the arrays that they are given. -/
theorem reads_congr {program : List Statement} {first second : Dispatcher}
    (same : ∀ array, .sendByte array ∈ program →
      first.contents array = second.contents array) :
    reads first program = reads second program := by
  induction program generalizing first second with
  | nil => rfl
  | cons statement rest ih =>
      have later (array : Buffer) (member : .sendByte array ∈ rest) :=
        same array (List.mem_cons_of_mem _ member)
      cases statement with
      | assign assignment =>
          exact ih fun array member =>
            contents_perform_congr (later array member) assignment
      | sendByte array =>
          rw [reads, reads, ih later, same array List.mem_cons_self]

/-- Run alone, a program hands to `sendByte` what it reads. -/
theorem toSend_perform (dispatcher : Dispatcher) (program : List Statement) :
    (program.foldl (Statement.perform service) dispatcher).calls.map
        SendByteCall.toSend =
      dispatcher.calls.map SendByteCall.toSend ++ reads dispatcher program := by
  induction program generalizing dispatcher with
  | nil => exact (List.append_nil _).symm
  | cons statement rest ih =>
      rw [List.foldl_cons, ih]
      cases statement with
      | assign assignment => cases assignment <;> rfl
      | sendByte array =>
          have unchanged : reads (Statement.perform service dispatcher
              (.sendByte array)) rest = reads dispatcher rest := by
            apply reads_congr
            intro other _
            cases other <;> rfl
          rw [unchanged, reads]
          simp [Statement.perform, DispatcherSingleton.sendByte]

/-- A thread that nobody disturbs sends the writes of its commands. -/
theorem reads_program (dispatcher : Dispatcher) (commands : List Command) :
    reads dispatcher (commands.flatMap statements) =
      commands.flatMap Command.writes := by
  have sent := @toSend_perform alwaysConnected dispatcher
    (commands.flatMap statements)
  rw [perform_program, issueAll_toSend] at sent
  exact (List.append_cancel_left sent).symm

end Commands

end DispatcherSingleton

end MightyMouse

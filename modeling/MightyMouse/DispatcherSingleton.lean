import MightyMouse.WorkerClass

/-!
# The dispatcher

`DispatcherSingleton` keeps one byte array per kind of command.  A command is
sent by filling its array and then handing three arrays in turn to `sendByte`,
which asks the service for its state each time and drops the array silently
if it is not connected.  The model keeps, besides the three arrays, the list
of all calls of `sendByte`.
-/

namespace MightyMouse

namespace DispatcherSingleton

abbrev numKeyBytes : Nat := 1
abbrev numMouseBytes : Nat := 3
abbrev numClickBytes : Nat := 1

/-- The cast `(byte) c` of a character constant. -/
def byteOf (c : Char) : Byte :=
  BitVec.ofNat 8 c.toNat

def delimiter : Vector Byte 1 := #v[255#8]
def keyboard : Vector Byte 1 := #v[byteOf 'K']
def mouse : Vector Byte 1 := #v[byteOf 'M']
def click : Vector Byte 1 := #v[byteOf 'C']

def clickLeft : Vector Byte numClickBytes := #v[byteOf 'L']
def clickRight : Vector Byte numClickBytes := #v[byteOf 'R']
def keycodeDel : Vector Byte numKeyBytes := #v[178#8]
def keycodeEnter : Vector Byte numKeyBytes := #v[176#8]

/-- The arrays that `sendByte` is called with. -/
inductive Buffer
  | delimiter
  | keyboard
  | mouse
  | click
  | keyBytes
  | mouseBytes
  | clickBytes
  deriving DecidableEq, Repr

/-- The arrays that hold the payload of a command. -/
def Buffer.isPayload : Buffer → Bool
  | .keyBytes | .mouseBytes | .clickBytes => true
  | .delimiter | .keyboard | .mouse | .click => false

/-- A call of `sendByte`: the array, its contents at that moment, and whether
they were written to the link. -/
structure SendByteCall where
  buffer : Buffer
  toSend : List Byte
  written : Bool
  deriving DecidableEq, Repr

/-- The payload arrays, and the calls of `sendByte` made so far, oldest
first. -/
structure Dispatcher where
  keyBytes : Vector Byte numKeyBytes
  mouseBytes : Vector Byte numMouseBytes
  clickBytes : Vector Byte numClickBytes
  calls : List SendByteCall

/-- A fresh Java array holds zeros. -/
def Dispatcher.initial : Dispatcher where
  keyBytes := Vector.replicate _ 0
  mouseBytes := Vector.replicate _ 0
  clickBytes := Vector.replicate _ 0
  calls := []

def Dispatcher.contents (dispatcher : Dispatcher) : Buffer → List Byte
  | .delimiter => delimiter.toList
  | .keyboard => keyboard.toList
  | .mouse => mouse.toList
  | .click => click.toList
  | .keyBytes => dispatcher.keyBytes.toList
  | .mouseBytes => dispatcher.mouseBytes.toList
  | .clickBytes => dispatcher.clickBytes.toList

/-- What one call of `sendByte` sees of the service: the answer of
`getState()`, and `mState` in the synchronized block of `write()`. -/
structure Answers where
  getState : ServiceState
  write : ServiceState
  deriving DecidableEq, Repr

/-- The array is written only if `sendByte` finds the service connected and
the `write` that it calls finds it so again. -/
def Answers.connected (answers : Answers) : Bool :=
  answers.getState == .stateConnected && answers.write == .stateConnected

/-- The answers given to the successive calls of `sendByte`. -/
abbrev Service := Nat → Answers

/-- A service that stays connected. -/
def alwaysConnected : Service :=
  fun _ => ⟨.stateConnected, .stateConnected⟩

/-- A service without a connection. -/
def neverConnected : Service :=
  fun _ => ⟨.stateNone, .stateNone⟩

variable (service : Service)

/-- A call that does not write returns without a word. -/
def sendByte (dispatcher : Dispatcher) (buffer : Buffer) : Dispatcher :=
  { dispatcher with
    calls := dispatcher.calls ++
      [⟨buffer, dispatcher.contents buffer,
        (service dispatcher.calls.length).connected⟩] }

def sendDelimiter (dispatcher : Dispatcher) : Dispatcher :=
  sendByte service dispatcher .delimiter

/-- The common shape of the three send methods. -/
def sendFrame (kind payload : Buffer) (dispatcher : Dispatcher) :
    Dispatcher :=
  let delimited := sendDelimiter service dispatcher
  let typed := sendByte service delimited kind
  sendByte service typed payload

def sendKeyboard : Dispatcher → Dispatcher :=
  sendFrame service .keyboard .keyBytes

def sendMouse : Dispatcher → Dispatcher :=
  sendFrame service .mouse .mouseBytes

def sendClick : Dispatcher → Dispatcher :=
  sendFrame service .click .clickBytes

/-- `for (int i = 0; i < n; i++) target[i] = source[i];`. -/
def copyBytes {n : Nat} (target source : Vector Byte n) : Vector Byte n :=
  (List.finRange n).foldl
    (fun copied (i : Fin n) => copied.set i source[i]) target

/-- The three setters are only ever given arrays of the right length. -/
def setKeyBytes (dispatcher : Dispatcher)
    (keyInfo : Vector Byte numKeyBytes) : Dispatcher :=
  { dispatcher with keyBytes := copyBytes dispatcher.keyBytes keyInfo }

def setMouseBytes (dispatcher : Dispatcher)
    (mouseInfo : Vector Byte numMouseBytes) : Dispatcher :=
  { dispatcher with mouseBytes := copyBytes dispatcher.mouseBytes mouseInfo }

def setClickBytes (dispatcher : Dispatcher)
    (bytes : Vector Byte numClickBytes) : Dispatcher :=
  { dispatcher with clickBytes := copyBytes dispatcher.clickBytes bytes }

def sendKeyBytes (dispatcher : Dispatcher)
    (keyBytes : Vector Byte numKeyBytes) : Dispatcher :=
  sendKeyboard service (setKeyBytes dispatcher keyBytes)

def sendLeftClick (dispatcher : Dispatcher) : Dispatcher :=
  sendClick service (setClickBytes dispatcher clickLeft)

def sendRightClick (dispatcher : Dispatcher) : Dispatcher :=
  sendClick service (setClickBytes dispatcher clickRight)

def sendDelete (dispatcher : Dispatcher) : Dispatcher :=
  sendKeyboard service (setKeyBytes dispatcher keycodeDel)

def sendEnter (dispatcher : Dispatcher) : Dispatcher :=
  sendKeyboard service (setKeyBytes dispatcher keycodeEnter)

/-- The cast of a `char` to `byte`. -/
def lowByte (c : JavaChar) : Byte :=
  c.setWidth 8

/-- One pass of the loop of `sendString`. -/
def sendChar (dispatcher : Dispatcher) (c : JavaChar) : Dispatcher :=
  sendKeyboard service
    { dispatcher with keyBytes := dispatcher.keyBytes.set 0 (lowByte c) }

def sendString (dispatcher : Dispatcher) (message : List JavaChar) :
    Dispatcher :=
  message.foldl (sendChar service) dispatcher

/-- The bytes that have reached the link. -/
def Dispatcher.wire (dispatcher : Dispatcher) : List Byte :=
  dispatcher.calls.flatMap fun call => if call.written then call.toSend else []

/-- The calls of `sendByte` that were given the key buffer. -/
def Dispatcher.keyCalls (dispatcher : Dispatcher) : List SendByteCall :=
  dispatcher.calls.filter fun call => call.buffer == .keyBytes

section Copy

variable {n : Nat} (source : Vector Byte n)

/-- Once copied, a byte stays. -/
theorem getElem_foldl_set (indices : List (Fin n)) (target : Vector Byte n)
    (j : Fin n) (copied : j ∈ indices ∨ target[j] = source[j]) :
    (indices.foldl (fun copied (i : Fin n) => copied.set i source[i])
      target)[j] = source[j] := by
  induction indices generalizing target with
  | nil => simpa using copied
  | cons i indices ih =>
      rw [List.foldl_cons]
      apply ih
      by_cases here : i = j
      · subst here
        exact .inr (by simp)
      · have other : i.val ≠ j.val := fun same => here (Fin.ext same)
        rcases copied with member | already
        · rw [List.mem_cons] at member
          exact .inl (member.resolve_left (Ne.symm here))
        · right
          simpa [Vector.getElem_set, other] using already

/-- The copy loop replaces the whole target. -/
@[simp]
theorem copyBytes_eq (target : Vector Byte n) :
    copyBytes target source = source := by
  apply Vector.ext
  intro j bound
  exact getElem_foldl_set source (List.finRange n) target ⟨j, bound⟩
    (.inl (List.mem_finRange _))

end Copy

section Calls

variable {service}

/-- The calls that one frame makes, the first being number `start`. -/
def frameCalls (service : Service) (start : Nat) (kind payload : Buffer)
    (letter bytes : List Byte) : List SendByteCall :=
  [⟨.delimiter, delimiter.toList, (service start).connected⟩,
    ⟨kind, letter, (service (start + 1)).connected⟩,
    ⟨payload, bytes, (service (start + 2)).connected⟩]

theorem sendFrame_eq (kind payload : Buffer) (dispatcher : Dispatcher) :
    sendFrame service kind payload dispatcher =
      { dispatcher with
        calls := dispatcher.calls ++
          frameCalls service dispatcher.calls.length kind payload
            (dispatcher.contents kind) (dispatcher.contents payload) } := by
  have sameContents (calls : List SendByteCall) (buffer : Buffer) :
      { dispatcher with calls := calls }.contents buffer =
        dispatcher.contents buffer := by
    cases buffer <;> rfl
  simp [sendFrame, sendDelimiter, sendByte, frameCalls, sameContents]
  rfl

theorem keyCalls_sendKeyboard (dispatcher : Dispatcher) :
    (sendKeyboard service dispatcher).keyCalls =
      dispatcher.keyCalls ++ [⟨.keyBytes, dispatcher.keyBytes.toList,
        (service (dispatcher.calls.length + 2)).connected⟩] := by
  simp [Dispatcher.keyCalls, sendKeyboard, sendFrame_eq, frameCalls,
    Dispatcher.contents]

end Calls

end DispatcherSingleton

end MightyMouse

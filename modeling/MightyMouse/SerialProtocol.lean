import MightyMouse.Transducer
import Mathlib.Tactic.NormNum

/-!
# The dongle's serial protocol

This is the state machine of `SerialProtocol.ino`.  The sketch keeps its
state in three C `int`s, so that `currentState` may in principle hold any
integer; the `switch` treats every value other than its seven constants in
the `default` branch.  The one point the language leaves open is whether a
plain `char` is signed, and the model takes that reading as a parameter.
-/

namespace MightyMouse

/-- A byte on the wire, also a Java `byte` and a C `char`. -/
abbrev Byte := BitVec 8

namespace SerialProtocol

def startByte : Int := 255
def clickBegin : Int := 67
def keyBegin : Int := 75
def mouseBegin : Int := 77

def waitForStart : Int := 0
def started : Int := 1
def clickGet0 : Int := 10
def keyGet0 : Int := 20
def mouseGet0 : Int := 30
def mouseGet1 : Int := 31
def mouseGet2 : Int := 32

/-- The two readings of a plain `char`: AVR-GCC sign-extends by default,
and zero-extends under `-funsigned-char`. -/
inductive CharReading
  | signed
  | unsigned
  deriving DecidableEq, Repr

/-- The conversion `(int) inChar`. -/
def CharReading.toInt : CharReading → Byte → Int
  | .signed, inChar => BitVec.toInt inChar
  | .unsigned, inChar => inChar.toNat

/-- The global variables of the sketch. -/
structure Dongle where
  currentState : Int
  mouseX : Int
  mouseY : Int
  deriving DecidableEq, Repr

/-- The values the sketch is loaded with. -/
def Dongle.initial : Dongle := ⟨waitForStart, 0, 0⟩

/-- Visible effects of the sketch: calls on the HID libraries and the error
line `E<currentState,location,intVal>` written back on `Serial1`. -/
inductive Output
  | keyboardPrint (inChar : Byte)
  | mouseMove (x y wheel : Byte)
  | mouseClick
  | error (currentState location intVal : Int)
  deriving DecidableEq, Repr

/-- The outputs that reach the host computer. -/
def Output.isHid : Output → Bool
  | .error _ _ _ => false
  | _ => true

/-- Report an error and reset the state to wait. -/
def printError (dongle : Dongle) (location intVal : Int) :
    Dongle × List Output :=
  ({ dongle with currentState := waitForStart },
    [.error dongle.currentState location intVal])

/-- `Mouse.move` takes its three arguments as `signed char`. -/
def mouseMoveCall (x y wheel : Int) : Output :=
  .mouseMove (BitVec.ofInt 8 x) (BitVec.ofInt 8 y) (BitVec.ofInt 8 wheel)

/-- The inner `switch` of the `STARTED` case. -/
def setCommandType (dongle : Dongle) (intVal : Int) : Dongle × List Output :=
  if intVal = clickBegin then ({ dongle with currentState := clickGet0 }, [])
  else if intVal = keyBegin then ({ dongle with currentState := keyGet0 }, [])
  else if intVal = mouseBegin then
    ({ dongle with currentState := mouseGet0 }, [])
  else printError dongle 5 intVal

/-- One pass of `loop()`.  The argument is the byte `Serial1.read()` returns,
or `none` when `Serial1.available()` is zero. -/
def loop (reading : CharReading) (dongle : Dongle) :
    Option Byte → Dongle × List Output
  | none => (dongle, [])
  | some inChar =>
      let intVal := reading.toInt inChar
      -- any time we receive START_BYTE, start over
      if intVal = startByte then ({ dongle with currentState := started }, [])
      else if dongle.currentState = waitForStart then
        printError dongle 0 intVal
      else if dongle.currentState = started then
        setCommandType dongle intVal
      else if dongle.currentState = clickGet0 then
        ({ dongle with currentState := waitForStart }, [.mouseClick])
      else if dongle.currentState = keyGet0 then
        ({ dongle with currentState := waitForStart }, [.keyboardPrint inChar])
      else if dongle.currentState = mouseGet0 then
        ({ dongle with mouseX := intVal, currentState := mouseGet1 }, [])
      else if dongle.currentState = mouseGet1 then
        ({ dongle with mouseY := intVal, currentState := mouseGet2 }, [])
      else if dongle.currentState = mouseGet2 then
        (⟨waitForStart, 0, 0⟩,
          [mouseMoveCall dongle.mouseX dongle.mouseY intVal])
      else printError dongle 10 intVal

/-- One pass of `loop()` that finds a byte waiting. -/
def onByte (reading : CharReading) (dongle : Dongle) (inChar : Byte) :
    Dongle × List Output :=
  loop reading dongle (some inChar)

/-- State after the bytes have been read one by one. -/
def stateAfter (reading : CharReading) (dongle : Dongle)
    (bytes : List Byte) : Dongle :=
  Transducer.final (onByte reading) dongle bytes

/-- Everything the dongle does while the bytes are read one by one. -/
def outputsOf (reading : CharReading) (dongle : Dongle)
    (bytes : List Byte) : List Output :=
  Transducer.outputs (onByte reading) dongle bytes

/-- The HID calls among the outputs. -/
def hidCalls (reading : CharReading) (dongle : Dongle)
    (bytes : List Byte) : List Output :=
  (outputsOf reading dongle bytes).filter Output.isHid

theorem outputsOf_append (reading : CharReading) (dongle : Dongle)
    (first second : List Byte) :
    outputsOf reading dongle (first ++ second) =
      outputsOf reading dongle first ++
        outputsOf reading (stateAfter reading dongle first) second :=
  Transducer.outputs_append (onByte reading) dongle first second

theorem stateAfter_append (reading : CharReading) (dongle : Dongle)
    (first second : List Byte) :
    stateAfter reading dongle (first ++ second) =
      stateAfter reading (stateAfter reading dongle first) second :=
  Transducer.final_append (onByte reading) dongle first second

theorem hidCalls_append (reading : CharReading) (dongle : Dongle)
    (first second : List Byte) :
    hidCalls reading dongle (first ++ second) =
      hidCalls reading dongle first ++
        hidCalls reading (stateAfter reading dongle first) second := by
  rw [hidCalls, outputsOf_append, List.filter_append]
  rfl

@[simp]
theorem outputsOf_nil (reading : CharReading) (dongle : Dongle) :
    outputsOf reading dongle [] = [] :=
  rfl

@[simp]
theorem stateAfter_nil (reading : CharReading) (dongle : Dongle) :
    stateAfter reading dongle [] = dongle :=
  rfl

theorem outputsOf_cons (reading : CharReading) (dongle : Dongle)
    (inChar : Byte) (bytes : List Byte) :
    outputsOf reading dongle (inChar :: bytes) =
      (onByte reading dongle inChar).2 ++
        outputsOf reading (onByte reading dongle inChar).1 bytes :=
  rfl

theorem stateAfter_cons (reading : CharReading) (dongle : Dongle)
    (inChar : Byte) (bytes : List Byte) :
    stateAfter reading dongle (inChar :: bytes) =
      stateAfter reading (onByte reading dongle inChar).1 bytes :=
  rfl

/-- The wire byte that the app writes as its delimiter. -/
def delimiter : Byte := 0xFF#8

/-- The three command letters on the wire. -/
def clickLetter : Byte := 67#8
def keyLetter : Byte := 75#8
def mouseLetter : Byte := 77#8

section Unsigned

theorem unsigned_eq_startByte_iff (inChar : Byte) :
    CharReading.unsigned.toInt inChar = startByte ↔ inChar = delimiter := by
  constructor
  · intro equal
    apply BitVec.eq_of_toNat_eq
    simp only [CharReading.toInt, startByte] at equal
    have : (delimiter : Byte).toNat = 255 := rfl
    omega
  · rintro rfl
    rfl

theorem signed_ne_startByte (inChar : Byte) :
    CharReading.signed.toInt inChar ≠ startByte := by
  have bound := BitVec.toInt_lt (x := inChar)
  simp only [CharReading.toInt, startByte]
  omega

theorem unsigned_eq_letter_iff (inChar letter : Byte) :
    CharReading.unsigned.toInt inChar = (letter.toNat : Int) ↔
      inChar = letter := by
  constructor
  · intro equal
    apply BitVec.eq_of_toNat_eq
    simpa only [CharReading.toInt, Nat.cast_inj] using equal
  · rintro rfl
    rfl

end Unsigned

end SerialProtocol

end MightyMouse

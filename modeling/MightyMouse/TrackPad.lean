import MightyMouse.DispatcherSingleton
import MightyMouse.LabelledRun
import Mathlib.Data.Rat.Floor
import Mathlib.Tactic.Linarith

/-!
# The track pad

`TrackPad.onTouchEvent` adds up finger movements, and the thread `MouseSender`
sends the totals from time to time.  Coordinates are rational; the Java code
computes with `float`s, so that every sum and difference is rounded by a
parameter `fl`, which is the identity for exact coordinates.
-/

namespace MightyMouse

open DispatcherSingleton hiding delimiter

namespace TrackPad

/-- A position reported by a motion event, with its time. -/
structure Sample where
  x : Rat
  y : Rat
  time : Int
  deriving DecidableEq, Repr

/-- The motion events that the view distinguishes. -/
inductive MotionEvent
  | actionUp
  | actionCancel
  | actionDown (sample : Sample)
  | actionMove (history : List Sample) (sample : Sample)
  | other
  deriving DecidableEq, Repr

/-- The fields of the view.  `mChat` tells whether the view lies in a
`MouseAndKeyboardActivity`, that is, whether the field is not null. -/
structure Pad where
  mStartX : Rat
  mStartY : Rat
  lastTime : Int
  mRunningTotalX : Rat
  mRunningTotalY : Rat
  mTimeOfFirstToSend : Int
  mTimeOfLastToSend : Int
  mLastX : Rat
  mLastY : Rat
  isValid : Bool
  mChat : Bool
  deriving DecidableEq, Repr

/-- The view after `init()`. -/
def Pad.initial (mChat : Bool) : Pad where
  mStartX := 0
  mStartY := 0
  lastTime := 0
  mRunningTotalX := 0
  mRunningTotalY := 0
  mTimeOfFirstToSend := 0
  mTimeOfLastToSend := 0
  mLastX := 0
  mLastY := 0
  isValid := false
  mChat := mChat

section Touch

variable (fl : Rat → Rat)

/-- Add one movement sample to the totals. -/
def addSample (pad : Pad) (sample : Sample) : Pad :=
  { pad with
    mTimeOfFirstToSend :=
      if pad.mTimeOfFirstToSend = 0 then sample.time
      else pad.mTimeOfFirstToSend
    mRunningTotalX := fl (pad.mRunningTotalX + fl (sample.x - pad.mLastX))
    mRunningTotalY := fl (pad.mRunningTotalY + fl (sample.y - pad.mLastY))
    mLastX := sample.x
    mLastY := sample.y }

def onTouchEvent (pad : Pad) : MotionEvent → Pad
  | .actionUp | .actionCancel => { pad with isValid := false }
  | .actionDown sample =>
      { pad with
        mStartX := sample.x
        mStartY := sample.y
        lastTime := sample.time
        mLastX := sample.x
        mLastY := sample.y }
  | .actionMove history sample =>
      { addSample fl (history.foldl (addSample fl) pad) sample with
        mTimeOfLastToSend := sample.time }
  | .other => pad

end Touch

section Delta

/-- A total between -1 and 1, but for zero, is moved to the nearer of the
two. -/
def bump (total : Rat) : Rat :=
  let raised := if total < 1 ∧ total > 0 then 1 else total
  if raised > -1 ∧ raised < 0 then -1 else raised

/-- `Math.round(float)`: half up, saturating at the bounds of `int`. -/
def javaRound (value : Rat) : Int :=
  max (-2 ^ 31) (min (2 ^ 31 - 1) ⌊value + 1 / 2⌋)

/-- Negation of a Java `int`, which leaves the least value as it is. -/
def negInt (value : Int) : Int :=
  if value = -2 ^ 31 then value else -value

def clampVel (vel : Int) : Int :=
  if vel > 127 then 127
  else if vel < -127 then -127
  else vel

/-- The byte that stands for a total: `xVel` is the clamped negation of the
rounded total, and `(byte) -xVel` is sent. -/
def velByte (total : Rat) : Byte :=
  BitVec.ofInt 8 (negInt (clampVel (negInt (javaRound total))))

end Delta

/-- Where `MouseSender.run` stands: at the loop test, before it reads the
totals, before it hands the bytes of `mouseInfoToRelay` to the dispatcher,
before the synchronized reset, or returned. -/
inductive SenderPoint
  | testing
  | reading
  | sending (mouseInfoToRelay : Vector Byte numMouseBytes)
  | resetting
  | finished
  deriving DecidableEq

/-- The view, its sender thread and the dispatcher. -/
structure System where
  pad : Pad
  sender : SenderPoint
  mKeepRunning : Bool
  dispatcher : Dispatcher

/-- A view that has just been created, with its thread started. -/
def System.initial (mChat : Bool) (dispatcher : Dispatcher) : System where
  pad := Pad.initial mChat
  sender := .testing
  mKeepRunning := true
  dispatcher := dispatcher

/-- The atomic steps: a touch event handled by the UI thread, the call of
`stopSendingThread`, and the parts of one pass of the sender's loop. -/
inductive Step
  | touch (event : MotionEvent)
  | stopSendingThread
  | test
  | read
  | send
  | reset
  deriving DecidableEq, Repr

/-- The totals are moved away from zero in place before they are rounded. -/
def readTotals (pad : Pad) : Pad :=
  { pad with
    mRunningTotalX := bump pad.mRunningTotalX
    mRunningTotalY := bump pad.mRunningTotalY }

def mouseInfo (pad : Pad) : Vector Byte numMouseBytes :=
  #v[velByte pad.mRunningTotalX, velByte pad.mRunningTotalY, 0#8]

/-- The synchronized block at the end of a pass. -/
def resetTotals (pad : Pad) : Pad :=
  { pad with
    mRunningTotalX := 0
    mRunningTotalY := 0
    mTimeOfFirstToSend := 0
    mTimeOfLastToSend := 0
    mStartX := pad.mLastX
    mStartY := pad.mLastY }

/-- Copy the bytes to the dispatcher, and send them if there is an activity
to send for. -/
def relay (service : Service) (pad : Pad) (dispatcher : Dispatcher)
    (info : Vector Byte numMouseBytes) : Dispatcher :=
  if pad.mChat then sendMouse service (setMouseBytes dispatcher info)
  else setMouseBytes dispatcher info

def step (fl : Rat → Rat) (service : Service) (system : System) :
    Step → Option System
  | .touch event =>
      some { system with pad := onTouchEvent fl system.pad event }
  | .stopSendingThread => some { system with mKeepRunning := false }
  | .test =>
      if system.sender = .testing then
        if !system.mKeepRunning then some { system with sender := .finished }
        else if system.pad.mRunningTotalX ≠ 0 ∨
            system.pad.mRunningTotalY ≠ 0 then
          some { system with sender := .reading }
        else some system
      else none
  | .read =>
      if system.sender = .reading then
        some { system with
          pad := readTotals system.pad
          sender := .sending (mouseInfo (readTotals system.pad)) }
      else none
  | .send =>
      match system.sender with
      | .sending info => some { system with
          dispatcher := relay service system.pad system.dispatcher info
          sender := .resetting }
      | _ => none
  | .reset =>
      if system.sender = .resetting then
        some { system with
          pad := resetTotals system.pad
          sender := .testing }
      else none

section Delimiter

/-- The clamped velocity fits a byte, so that the cast to `byte` keeps it. -/
theorem clampVel_bounds (vel : Int) :
    -127 ≤ clampVel vel ∧ clampVel vel ≤ 127 := by
  unfold clampVel
  split
  · omega
  · split
    · omega
    · omega

theorem negInt_of_gt {value : Int} (above : -2 ^ 31 < value) :
    negInt value = -value := by
  unfold negInt
  rw [if_neg (by omega)]

/-- Read as a signed byte, the byte sent for a total is the rounded total,
clamped. -/
theorem toInt_velByte (total : Rat) :
    (velByte total).toInt = -clampVel (negInt (javaRound total)) := by
  have bounds := clampVel_bounds (negInt (javaRound total))
  rw [velByte, negInt_of_gt (by omega), BitVec.toInt_ofInt]
  apply Int.bmod_eq_of_le <;> omega

theorem velByte_eq_delimiter_iff (total : Rat) :
    velByte total = 0xFF#8 ↔ ⌊total + 1 / 2⌋ = -1 := by
  have asInt : velByte total = 0xFF#8 ↔ (velByte total).toInt = -1 := by
    constructor
    · intro equal
      rw [equal]
      rfl
    · intro equal
      exact BitVec.eq_of_toInt_eq equal
  rw [asInt, toInt_velByte]
  unfold clampVel negInt javaRound
  generalize ⌊total + 1 / 2⌋ = rounded
  split_ifs <;> omega

/-- The three ranges of a total that the bump tells apart. -/
theorem bump_cases (total : Rat) :
    ((0 < total ∧ total < 1) ∧ bump total = 1) ∨
      ((-1 < total ∧ total < 0) ∧ bump total = -1) ∨
      ((total ≤ -1 ∨ total = 0 ∨ 1 ≤ total) ∧ bump total = total) := by
  by_cases small : 0 < total ∧ total < 1
  · left
    refine ⟨small, ?_⟩
    simp [bump, small.1, small.2]
  · right
    have notRaised : ¬ (total < 1 ∧ total > 0) := by
      rw [and_comm]
      exact small
    by_cases smallNegative : -1 < total ∧ total < 0
    · left
      refine ⟨smallNegative, ?_⟩
      simp only [bump, notRaised, if_false, gt_iff_lt, smallNegative,
        and_self, if_true]
    · right
      constructor
      · rcases lt_trichotomy total 0 with below | zero | above
        · left
          exact not_lt.mp fun large => smallNegative ⟨large, below⟩
        · exact Or.inr (Or.inl zero)
        · right
          right
          exact not_lt.mp fun low => small ⟨above, low⟩
      · simp only [bump, notRaised, if_false, gt_iff_lt, smallNegative]

/-- Exactly the totals from -3/2 up to, but not including, zero are sent as
the byte 255. -/
theorem velByte_bump_eq_delimiter_iff (total : Rat) :
    velByte (bump total) = 0xFF#8 ↔ -3 / 2 ≤ total ∧ total < 0 := by
  rw [velByte_eq_delimiter_iff, Int.floor_eq_iff]
  push_cast
  rcases bump_cases total with ⟨small, raised⟩ | ⟨small, lowered⟩ |
    ⟨large, same⟩
  · rw [raised]
    constructor
    · intro range
      linarith [range.2]
    · intro range
      linarith [small.1, range.2]
  · rw [lowered]
    constructor
    · intro _
      constructor <;> linarith [small.1, small.2]
    · intro _
      norm_num
  · rw [same]
    constructor
    · intro range
      constructor <;> linarith [range.1, range.2]
    · intro range
      rcases large with below | zero | above
      · constructor <;> linarith [range.1]
      · linarith [range.2]
      · linarith [range.2]

end Delimiter

end TrackPad

end MightyMouse

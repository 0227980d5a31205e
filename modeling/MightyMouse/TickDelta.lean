import MightyMouse.MovementLedger

/-!
# The delta of one tick

A total is moved away from zero, rounded half up, negated, clamped, negated
again and narrowed to a byte.  For totals in the range of an `int`, all of
this is one monotone function: the clamped rounding of the bumped total.
-/

namespace MightyMouse

open DispatcherSingleton hiding delimiter

namespace TrackPad

open LabelledRun

section Rounding

/-- The rounded total of a tick, before it is clamped. -/
def rounded (total : Rat) : Int :=
  ⌊bump total + 1 / 2⌋

theorem bump_mono {first second : Rat} (ordered : first ≤ second) :
    bump first ≤ bump second := by
  rcases bump_cases first with ⟨low, firstIs⟩ | ⟨low, firstIs⟩ |
      ⟨low, firstIs⟩ <;>
    rcases bump_cases second with ⟨high, secondIs⟩ | ⟨high, secondIs⟩ |
      ⟨high, secondIs⟩ <;>
    rw [firstIs, secondIs]
  -- A total that is left alone lies outside the open unit intervals around it.
  · linarith [low.1, high.2]
  · rcases high with below | zero | above
    · linarith [low.1]
    · linarith [low.1]
    · exact above
  · norm_num
  · rcases high with below | zero | above
    · linarith [low.1]
    · linarith
    · linarith
  · rcases low with below | zero | above
    · linarith
    · linarith
    · linarith [high.2]
  · rcases low with below | zero | above
    · exact below
    · linarith [high.2]
    · linarith [high.2]
  · exact ordered

theorem rounded_mono {first second : Rat} (ordered : first ≤ second) :
    rounded first ≤ rounded second := by
  apply Int.floor_le_floor
  linarith [bump_mono ordered]

@[simp]
theorem rounded_intCast (n : Int) : rounded n = n := by
  rw [rounded, bump_of_whole ⟨n, rfl⟩, Int.floor_eq_iff]
  constructor <;> linarith

theorem le_rounded {n : Int} {total : Rat} (atLeast : (n : Rat) ≤ total) :
    n ≤ rounded total := by
  calc n = rounded n := (rounded_intCast n).symm
    _ ≤ rounded total := rounded_mono atLeast

theorem rounded_le {n : Int} {total : Rat} (atMost : total ≤ n) :
    rounded total ≤ n := by
  calc rounded total ≤ rounded n := rounded_mono atMost
    _ = n := rounded_intCast n

/-- Bumping and rounding move a total by less than one. -/
theorem abs_rounded_sub_lt (total : Rat) : |(rounded total : Rat) - total| < 1 := by
  have below := Int.floor_le (bump total + 1 / 2)
  have above := Int.lt_floor_add_one (bump total + 1 / 2)
  rw [abs_lt]
  rcases bump_cases total with ⟨small, raised⟩ | ⟨small, lowered⟩ | ⟨_, same⟩
  · have one : rounded total = 1 := by
      rw [rounded, raised, Int.floor_eq_iff]
      norm_num
    rw [one]
    push_cast
    constructor <;> linarith [small.1, small.2]
  · have minusOne : rounded total = -1 := by
      rw [rounded, lowered, Int.floor_eq_iff]
      norm_num
    rw [minusOne]
    push_cast
    constructor <;> linarith [small.1, small.2]
  · rw [same] at below above
    rw [rounded, same]
    constructor <;> linarith

theorem rounded_pos {total : Rat} (positive : 0 < total) : 0 < rounded total := by
  have atLeast : 1 ≤ bump total := by
    rcases bump_cases total with ⟨_, raised⟩ | ⟨small, _⟩ | ⟨large, same⟩
    · exact raised.ge
    · linarith [small.2]
    · rw [same]
      rcases large with below | zero | above
      · linarith
      · linarith
      · exact above
  apply Int.lt_iff_add_one_le.mpr
  apply Int.le_floor.mpr
  push_cast
  linarith

theorem rounded_neg {total : Rat} (negative : total < 0) : rounded total < 0 := by
  have atMost : bump total ≤ -1 := by
    rcases bump_cases total with ⟨small, _⟩ | ⟨_, lowered⟩ | ⟨large, same⟩
    · linarith [small.1]
    · exact lowered.le
    · rw [same]
      rcases large with below | zero | above
      · exact below
      · linarith
      · linarith
  apply Int.floor_lt.mpr
  push_cast
  linarith

/-- The rounded total has the sign of the total. -/
theorem rounded_sign (total : Rat) :
    (total < 0 ∧ rounded total < 0) ∨ (total = 0 ∧ rounded total = 0) ∨
      (0 < total ∧ 0 < rounded total) := by
  rcases lt_trichotomy total 0 with below | equal | above
  · exact Or.inl ⟨below, rounded_neg below⟩
  · refine Or.inr (Or.inl ⟨equal, ?_⟩)
    rw [equal]
    exact rounded_intCast 0
  · exact Or.inr (Or.inr ⟨above, rounded_pos above⟩)

end Rounding

section Narrowing

/-- The `int` that is narrowed to a byte. -/
def beforeNarrowing (total : Rat) : Int :=
  negInt (clampVel (negInt (javaRound (bump total))))

/-- Narrowing never wraps, whatever the total. -/
theorem toInt_velByte_bump (total : Rat) :
    (velByte (bump total)).toInt = beforeNarrowing total := by
  have bounds := clampVel_bounds (negInt (javaRound (bump total)))
  rw [toInt_velByte, beforeNarrowing]
  exact (negInt_of_gt (by omega)).symm

/-- In the range of an `int`, the two negations cancel. -/
theorem beforeNarrowing_eq {total : Rat} (bounded : |total| < 2 ^ 31 - 1) :
    beforeNarrowing total = max (-127) (min 127 (rounded total)) := by
  obtain ⟨above, below⟩ := abs_lt.mp bounded
  have least : -2147483647 ≤ rounded total := by
    apply le_rounded
    push_cast
    linarith
  have greatest : rounded total ≤ 2147483647 := by
    apply rounded_le
    push_cast
    linarith
  have isRounded : javaRound (bump total) = rounded total := by
    change max (-2 ^ 31) (min (2 ^ 31 - 1) (rounded total)) = _
    omega
  rw [beforeNarrowing, isRounded]
  unfold clampVel negInt
  split_ifs <;> omega

end Narrowing

/-- The value sent for a total is in range, vanishes with it, has its sign,
and differs from it by less than one unless the total is out of range. -/
structure FaithfulDelta (total : Rat) (sent : Int) : Prop where
  inRange : -127 ≤ sent ∧ sent ≤ 127
  zero : sent = 0 ↔ total = 0
  positive : 0 < sent ↔ 0 < total
  negative : sent < 0 ↔ total < 0
  whole : ∀ n : Int, -127 ≤ n → n ≤ 127 → total = n → sent = n
  near : -127 ≤ total → total ≤ 127 → |(sent : Rat) - total| < 1

theorem faithfulDelta_clamp (total : Rat) :
    FaithfulDelta total (max (-127) (min 127 (rounded total))) where
  inRange := by omega
  zero := by
    rcases rounded_sign total with ⟨below, sign⟩ | ⟨equal, sign⟩ | ⟨above, sign⟩
    · exact iff_of_false (by omega) below.ne
    · exact iff_of_true (by omega) equal
    · exact iff_of_false (by omega) above.ne'
  positive := by
    rcases rounded_sign total with ⟨below, sign⟩ | ⟨equal, sign⟩ | ⟨above, sign⟩
    · exact iff_of_false (by omega) below.not_gt
    · exact iff_of_false (by omega) equal.not_gt
    · exact iff_of_true (by omega) above
  negative := by
    rcases rounded_sign total with ⟨below, sign⟩ | ⟨equal, sign⟩ | ⟨above, sign⟩
    · exact iff_of_true (by omega) below
    · exact iff_of_false (by omega) equal.not_lt
    · exact iff_of_false (by omega) above.not_gt
  whole := by
    rintro n atLeast atMost rfl
    rw [rounded_intCast]
    omega
  near := by
    intro atLeast atMost
    have low : -127 ≤ rounded total := le_rounded (by exact_mod_cast atLeast)
    have high : rounded total ≤ 127 := rounded_le (by exact_mod_cast atMost)
    have unclamped : max (-127) (min 127 (rounded total)) = rounded total := by
      omega
    rw [unclamped]
    exact abs_rounded_sub_lt total

section Tick

variable (fl : Rat → Rat) (service : Service)

/-- The sender reads the totals, and hands them over after any number of
touch events have been handled. -/
def readAndSend (events : List MotionEvent) : List Step :=
  .read :: (events.map Step.touch ++ [.send])

theorem follow_touches (events : List MotionEvent) (system : System) :
    ∃ pad, follow (step fl service) system (events.map Step.touch) =
      some { system with pad := pad } := by
  induction events generalizing system with
  | nil => exact ⟨system.pad, rfl⟩
  | cons event events ih =>
      obtain ⟨pad, touched⟩ :=
        ih { system with pad := onTouchEvent fl system.pad event }
      exact ⟨pad, touched⟩

theorem mouseBytes_relay (pad : Pad) (dispatcher : Dispatcher)
    (info : Vector Byte numMouseBytes) :
    (relay service pad dispatcher info).mouseBytes = info := by
  have copied : (setMouseBytes dispatcher info).mouseBytes = info :=
    copyBytes_eq info dispatcher.mouseBytes
  unfold relay
  split
  · rw [sendMouse, sendFrame_eq]
    exact copied
  · exact copied

/-- The dispatcher ends up with what the sender read. -/
theorem readAndSend_mouseBytes (events : List MotionEvent) {system : System}
    (reading : system.sender = .reading) :
    ∃ next, follow (step fl service) system (readAndSend events) = some next ∧
      next.dispatcher.mouseBytes = mouseInfo (readTotals system.pad) := by
  have read : step fl service system .read = some { system with
      pad := readTotals system.pad
      sender := .sending (mouseInfo (readTotals system.pad)) } := by
    simp only [step, reading, if_true]
  obtain ⟨pad, touched⟩ := follow_touches fl service events { system with
    pad := readTotals system.pad
    sender := .sending (mouseInfo (readTotals system.pad)) }
  refine ⟨{ system with
    pad := pad
    sender := .resetting
    dispatcher := relay service pad system.dispatcher
      (mouseInfo (readTotals system.pad)) }, ?_, mouseBytes_relay _ _ _ _⟩
  rw [readAndSend, follow_cons_eq_some]
  refine ⟨_, read, ?_⟩
  rw [follow_append, touched]
  rfl

/-- The sender is about to read totals of magnitude below the greatest `int`.
The loop test has found that they are not both zero, but this is not needed. -/
structure AboutToRead (system : System) : Prop where
  reading : system.sender = .reading
  bounded : ∀ axis, |system.pad.total axis| < 2 ^ 31 - 1

/-- The bytes that a tick copies for sending are faithful to the totals it
read: they are the values computed before the narrowing, in range, of the same
sign, near to the totals, and monotone in them. -/
theorem tick_delta_faithful {system : System} (ready : AboutToRead system)
    (events : List MotionEvent) :
    ∃ next, follow (step fl service) system (readAndSend events) = some next ∧
      (∀ axis, delta axis next.dispatcher.mouseBytes.toList =
          beforeNarrowing (system.pad.total axis) ∧
        FaithfulDelta (system.pad.total axis)
          (delta axis next.dispatcher.mouseBytes.toList)) ∧
      ∀ (later laterNext : System) (laterEvents : List MotionEvent),
        AboutToRead later →
        follow (step fl service) later (readAndSend laterEvents) =
          some laterNext →
        ∀ axis, system.pad.total axis ≤ later.pad.total axis →
          delta axis next.dispatcher.mouseBytes.toList ≤
            delta axis laterNext.dispatcher.mouseBytes.toList := by
  obtain ⟨next, run, bytes⟩ :=
    readAndSend_mouseBytes fl service events ready.reading
  refine ⟨next, run, ?_, ?_⟩
  · intro axis
    rw [bytes, delta_readTotals, toInt_velByte_bump]
    refine ⟨rfl, ?_⟩
    rw [beforeNarrowing_eq (ready.bounded axis)]
    exact faithfulDelta_clamp _
  · intro later laterNext laterEvents laterReady laterRun axis ordered
    obtain ⟨reached, reachedRun, laterBytes⟩ :=
      readAndSend_mouseBytes fl service laterEvents laterReady.reading
    have same : reached = laterNext :=
      Option.some.inj (reachedRun.symm.trans laterRun)
    subst same
    rw [bytes, laterBytes, delta_readTotals, delta_readTotals,
      toInt_velByte_bump, toInt_velByte_bump,
      beforeNarrowing_eq (ready.bounded axis),
      beforeNarrowing_eq (laterReady.bounded axis)]
    have mono := rounded_mono ordered
    omega

/-- A small movement to the left and a long one down. -/
theorem tick_delta_faithful_at_drag :
    AboutToRead ⟨{ Pad.initial true with
        mRunningTotalX := -1 / 4, mRunningTotalY := 300 }, .reading, true,
      Dispatcher.initial⟩ ∧
    ∃ next, follow (step id alwaysConnected) ⟨{ Pad.initial true with
          mRunningTotalX := -1 / 4, mRunningTotalY := 300 }, .reading, true,
        Dispatcher.initial⟩ (readAndSend [.actionUp]) = some next ∧
      next.dispatcher.mouseBytes = #v[255#8, 127#8, 0#8] ∧
      FaithfulDelta (-1 / 4) (delta .x next.dispatcher.mouseBytes.toList) := by
  have ready : AboutToRead ⟨{ Pad.initial true with
        mRunningTotalX := -1 / 4, mRunningTotalY := 300 }, .reading, true,
      Dispatcher.initial⟩ := by
    refine ⟨rfl, ?_⟩
    intro axis
    cases axis <;> norm_num [Pad.total, abs_lt]
  obtain ⟨next, run, faithful, _⟩ :=
    tick_delta_faithful id alwaysConnected ready [.actionUp]
  refine ⟨ready, next, run, ?_, (faithful .x).2⟩
  obtain ⟨reached, reachedRun, bytes⟩ :=
    readAndSend_mouseBytes id alwaysConnected [.actionUp] ready.reading
  have same : reached = next := Option.some.inj (reachedRun.symm.trans run)
  rw [← same, bytes]
  decide +kernel

end Tick

end TrackPad

end MightyMouse

import MightyMouse.MovementLedger

/-!
# Batched touch events

Android delivers several positions of the finger in one `ACTION_MOVE` event:
the historical ones, and the current one.  `onTouchEvent` has one copy of its
update for each kind.  This file shows that batching makes no difference, and
that the totals grow by the way from the first to the last position of each
gesture.
-/

namespace MightyMouse

namespace TrackPad

section Batching

variable (fl : Rat → Rat)

/-- Handle touch events one after the other. -/
def touchAll (pad : Pad) (events : List MotionEvent) : Pad :=
  events.foldl (onTouchEvent fl) pad

/-- One event without history for each of the samples. -/
def singleMoves (samples : List Sample) : List MotionEvent :=
  samples.map (MotionEvent.actionMove [])

/-- A historical sample leaves `mTimeOfLastToSend` alone, but the event that
carries it overwrites the field anyway. -/
theorem actionMove_cons (pad : Pad) (earlier : Sample) (history : List Sample)
    (sample : Sample) :
    onTouchEvent fl pad (.actionMove (earlier :: history) sample) =
      onTouchEvent fl (onTouchEvent fl pad (.actionMove [] earlier))
        (.actionMove history sample) := by
  have overwritten : ∀ (samples : List Sample) (start : Pad) (time : Int),
      { samples.foldl (addSample fl) { start with mTimeOfLastToSend := time }
        with mTimeOfLastToSend := sample.time } =
      { samples.foldl (addSample fl) start
        with mTimeOfLastToSend := sample.time } := by
    intro samples
    induction samples with
    | nil =>
        intro start time
        rfl
    | cons first samples ih =>
        intro start time
        exact ih (addSample fl start first) time
  have atEnd := overwritten (history ++ [sample]) (addSample fl pad earlier)
    earlier.time
  rw [List.foldl_append, List.foldl_append] at atEnd
  exact atEnd.symm

/-- An event with a history does what one event per sample would do. -/
theorem actionMove_eq_singleMoves (pad : Pad) (history : List Sample)
    (sample : Sample) :
    onTouchEvent fl pad (.actionMove history sample) =
      touchAll fl pad (singleMoves (history ++ [sample])) := by
  induction history generalizing pad with
  | nil => rfl
  | cons earlier history ih =>
      rw [actionMove_cons, ih]
      rfl

end Batching

/-- One `ACTION_DOWN`, and the `ACTION_MOVE` events up to the next: each has
a history and a current sample. -/
structure Gesture where
  down : Sample
  moves : List (List Sample × Sample)

def Gesture.events (gesture : Gesture) : List MotionEvent :=
  .actionDown gesture.down ::
    gesture.moves.map fun move => .actionMove move.1 move.2

/-- From the `ACTION_DOWN` to the current position of the last `ACTION_MOVE`. -/
def Gesture.displacement (axis : Axis) (gesture : Gesture) : Rat :=
  match gesture.moves.getLast? with
  | none => 0
  | some move => move.2.coord axis - gesture.down.coord axis

/-- The events of a sequence of gestures. -/
def gestureEvents (gestures : List Gesture) : List MotionEvent :=
  gestures.flatMap Gesture.events

section Telescope

/-- The steps between consecutive samples add up to the whole way. -/
theorem sampleDisplacement_concat (axis : Axis) (last : Rat)
    (samples : List Sample) (sample : Sample) :
    sampleDisplacement axis last (samples ++ [sample]) =
      sample.coord axis - last := by
  induction samples generalizing last with
  | nil => exact add_zero _
  | cons first samples ih =>
      rw [List.cons_append, sampleDisplacement, ih]
      ring

theorem touchAll_moves_total (axis : Axis) (pad : Pad)
    (moves : List (List Sample × Sample)) :
    (touchAll id pad
        (moves.map fun move => .actionMove move.1 move.2)).total axis =
      pad.total axis + ((moves.getLast?.map fun move =>
        move.2.coord axis - pad.last axis).getD 0) := by
  induction moves generalizing pad with
  | nil => exact (add_zero _).symm
  | cons move moves ih =>
      have first : (onTouchEvent id pad (.actionMove move.1 move.2)).total axis =
          pad.total axis + (move.2.coord axis - pad.last axis) := by
        rw [touch_total, MotionEvent.displacement, sampleDisplacement_concat]
      have position :
          (onTouchEvent id pad (.actionMove move.1 move.2)).last axis =
            move.2.coord axis :=
        touch_last axis pad _
      have rest := ih (onTouchEvent id pad (.actionMove move.1 move.2))
      rw [first, position] at rest
      refine rest.trans ?_
      cases moves with
      | nil => exact add_zero _
      | cons second moves =>
          rw [List.getLast?_cons_cons, List.getLast?_cons]
          simp only [Option.map_some, Option.getD_some]
          ring

theorem touchAll_gesture_total (axis : Axis) (pad : Pad) (gesture : Gesture) :
    (touchAll id pad gesture.events).total axis =
      pad.total axis + gesture.displacement axis := by
  have start : (onTouchEvent id pad (.actionDown gesture.down)).total axis =
      pad.total axis := by
    cases axis <;> rfl
  have position : (onTouchEvent id pad (.actionDown gesture.down)).last axis =
      gesture.down.coord axis :=
    touch_last axis pad _
  have moved := touchAll_moves_total axis
    (onTouchEvent id pad (.actionDown gesture.down)) gesture.moves
  rw [start, position] at moved
  refine moved.trans ?_
  rw [Gesture.displacement]
  cases gesture.moves.getLast? <;> rfl

theorem touchAll_gestures_total (axis : Axis) (gestures : List Gesture)
    (pad : Pad) :
    (touchAll id pad (gestureEvents gestures)).total axis =
      pad.total axis + (gestures.map (Gesture.displacement axis)).sum := by
  induction gestures generalizing pad with
  | nil => exact (add_zero _).symm
  | cons gesture gestures ih =>
      have split : touchAll id pad (gestureEvents (gesture :: gestures)) =
          touchAll id (touchAll id pad gesture.events)
            (gestureEvents gestures) :=
        List.foldl_append
      rw [split, ih, touchAll_gesture_total, List.map_cons,
        List.sum_cons, add_assoc]

end Telescope

section Parsing

def MotionEvent.DownOrMove : MotionEvent → Prop
  | .actionDown _ | .actionMove _ _ => True
  | .actionUp | .actionCancel | .other => False

/-- Moves that follow a gesture are part of it. -/
theorem exists_gestures (down : Sample) (moves : List (List Sample × Sample))
    (events : List MotionEvent)
    (handled : ∀ event ∈ events, event.DownOrMove) :
    ∃ gestures, (Gesture.mk down moves).events ++ events =
      gestureEvents gestures := by
  induction events generalizing down moves with
  | nil =>
      refine ⟨[⟨down, moves⟩], ?_⟩
      rw [gestureEvents, List.flatMap_singleton, List.append_nil]
  | cons event events ih =>
      have later : ∀ event ∈ events, event.DownOrMove := fun next member =>
        handled next (List.mem_cons_of_mem event member)
      have here := handled event List.mem_cons_self
      cases event with
      | actionDown sample =>
          obtain ⟨gestures, split⟩ := ih sample [] later
          refine ⟨⟨down, moves⟩ :: gestures, ?_⟩
          rw [gestureEvents, List.flatMap_cons]
          exact congrArg ((Gesture.mk down moves).events ++ ·) split
      | actionMove history sample =>
          obtain ⟨gestures, split⟩ :=
            ih down (moves ++ [(history, sample)]) later
          refine ⟨gestures, ?_⟩
          rw [← split]
          simp only [Gesture.events, List.map_append, List.map_cons,
            List.map_nil, List.cons_append, List.append_assoc, List.nil_append]
      | actionUp => exact here.elim
      | actionCancel => exact here.elim
      | other => exact here.elim

end Parsing

/-- A batched event leaves the view as one event per sample would, and over
any sequence of `ACTION_DOWN` and `ACTION_MOVE` events that starts with an
`ACTION_DOWN`, the totals grow by the displacements of its gestures. -/
theorem batching_is_immaterial :
    (∀ (pad : Pad) (history : List Sample) (sample : Sample),
      onTouchEvent id pad (.actionMove history sample) =
        touchAll id pad (singleMoves (history ++ [sample]))) ∧
    ∀ (pad : Pad) (down : Sample) (events : List MotionEvent),
      (∀ event ∈ events, event.DownOrMove) →
      ∃ gestures, .actionDown down :: events = gestureEvents gestures ∧
        ∀ axis, (touchAll id pad (.actionDown down :: events)).total axis =
          pad.total axis + (gestures.map (Gesture.displacement axis)).sum := by
  refine ⟨actionMove_eq_singleMoves id, ?_⟩
  intro pad down events handled
  obtain ⟨gestures, split⟩ := exists_gestures down [] events handled
  refine ⟨gestures, split, ?_⟩
  intro axis
  have asGestures : MotionEvent.actionDown down :: events =
      gestureEvents gestures := split
  rw [asGestures]
  exact touchAll_gestures_total axis gestures pad

/-- Two gestures, the first with a batch of two positions. -/
theorem two_gestures_add_up :
    (∀ event ∈ [MotionEvent.actionMove [⟨3, 4, 11⟩] ⟨6, 2, 12⟩,
        .actionDown ⟨50, 50, 20⟩, .actionMove [] ⟨49, 51, 21⟩],
      event.DownOrMove) ∧
    ∃ gestures, [MotionEvent.actionDown ⟨1, 1, 10⟩,
        .actionMove [⟨3, 4, 11⟩] ⟨6, 2, 12⟩, .actionDown ⟨50, 50, 20⟩,
        .actionMove [] ⟨49, 51, 21⟩] = gestureEvents gestures ∧
      ∀ axis, (touchAll id (Pad.initial true)
          [.actionDown ⟨1, 1, 10⟩, .actionMove [⟨3, 4, 11⟩] ⟨6, 2, 12⟩,
            .actionDown ⟨50, 50, 20⟩, .actionMove [] ⟨49, 51, 21⟩]).total axis =
        (Pad.initial true).total axis +
          (gestures.map (Gesture.displacement axis)).sum := by
  have handled : ∀ event ∈ [MotionEvent.actionMove [⟨3, 4, 11⟩] ⟨6, 2, 12⟩,
      .actionDown ⟨50, 50, 20⟩, .actionMove [] ⟨49, 51, 21⟩],
      event.DownOrMove := by
    simp [MotionEvent.DownOrMove]
  exact ⟨handled, batching_is_immaterial.2 _ _ _ handled⟩

end TrackPad

end MightyMouse

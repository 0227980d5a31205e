import MightyMouse.ServiceCustody

/-!
# The sender thread and the lifecycle of its activity

The sender thread of the track pad is started when the layout is inflated, and
stopped in `onStop`.  Nothing starts it again, so that an activity that comes
back to the front after having been stopped has a dead track pad.
-/

namespace MightyMouse.ActivityLifecycle

/-- The phase of an activity, whether it has found its track pad, and the
sender thread of the latter. -/
structure PadView where
  phase : Phase
  mTrackPadView : Bool
  sender : SenderThread
  deriving DecidableEq, Repr

def MouseAndKeyboard.padView (activity : MouseAndKeyboard) : PadView :=
  ⟨activity.phase, activity.mTrackPadView, activity.sender⟩

def Process.padViews (process : Process) : List PadView :=
  process.activities.map MouseAndKeyboard.padView

theorem padViews_of_found {process : Process} {id : ActivityId}
    {activity : MouseAndKeyboard}
    (found : process.activities[id]? = some activity) :
    process.padViews[id]? = some activity.padView := by
  rw [Process.padViews, List.getElem?_map, found]
  rfl

section Handlers

/-- What a handler does to the track pad of its activity. -/
def Handler.Changes (handler : Handler) (change : PadView → PadView) :
    Prop :=
  ∀ activity process after next,
    handler activity process = some (after, next) →
    next.activities = process.activities ∧
      after.padView = change activity.padView

/-- The track pad with its sender thread stopped. -/
def PadView.silenced (view : PadView) : PadView :=
  { view with sender := ⟨false, false⟩ }

theorem onStart_changes (isEnabled : Bool) :
    (onStart isEnabled).Changes id := by
  intro activity process after next returned
  unfold onStart at returned
  split at returned
  · cases returned
  · split at returned
    · cases returned
      exact ⟨rfl, rfl⟩
    · split at returned
      · cases returned
        exact ⟨rfl, rfl⟩
      · cases returned
        exact ⟨rfl, rfl⟩

theorem onResume_changes (id : ActivityId) (listens : WorkerClass.Listens) :
    (onResume id listens).Changes fun view =>
      { view with mTrackPadView := true } := by
  intro activity process after next returned
  cases returned
  exact ⟨callService_activities _ _ _, rfl⟩

theorem onPause_changes : onPause.Changes id := by
  intro activity process after next returned
  cases returned
  exact ⟨rfl, rfl⟩

theorem stopSender_padView {activity silent : MouseAndKeyboard}
    (stopped : stopSender activity = some silent) :
    silent.padView = activity.padView.silenced := by
  unfold stopSender at stopped
  split at stopped
  · cases stopped
    rfl
  · cases stopped

theorem onStop_changes : onStop.Changes PadView.silenced := by
  intro activity process after next returned
  obtain ⟨silent, stopped, same⟩ := Option.map_eq_some_iff.mp returned
  cases same
  exact ⟨rfl, stopSender_padView stopped⟩

theorem onDestroy_changes : onDestroy.Changes PadView.silenced := by
  intro activity process after next returned
  obtain ⟨silent, stopped, same⟩ := Option.map_eq_some_iff.mp returned
  cases same
  exact ⟨callService_activities _ _ _, stopSender_padView stopped⟩

theorem onEnableResult_changes (resultOk : Bool) :
    (onEnableResult resultOk).Changes id := by
  intro activity process after next returned
  cases resultOk with
  | false =>
      cases returned
      exact ⟨rfl, rfl⟩
  | true =>
      cases returned
      exact ⟨rfl, rfl⟩

variable {process next : Process} {id : ActivityId} {handler : Handler}
variable {change : PadView → PadView}

theorem padViews_handle {activity : MouseAndKeyboard}
    (changes : handler.Changes change) :
    (handle process id activity handler).crashed = true ∨
      (handle process id activity handler).padViews =
        process.padViews.set id (change activity.padView) := by
  unfold handle
  cases result : handler activity process with
  | none => exact .inl rfl
  | some pair =>
      obtain ⟨kept, changed⟩ :=
        changes activity process pair.1 pair.2 result
      right
      change (pair.2.activities.set id pair.1).map _ = _
      rw [kept, List.map_set, changed]
      rfl

theorem padViews_lifecycle {callback : Callback}
    (changes : handler.Changes change)
    (taken : lifecycle process id callback handler = some next) :
    next.crashed = true ∨ ∃ view phase, process.padViews[id]? = some view ∧
      view.phase.after callback = some phase ∧
      next.padViews =
        process.padViews.set id (change { view with phase := phase }) := by
  obtain ⟨activity, found, moved⟩ := Option.bind_eq_some_iff.mp taken
  obtain ⟨phase, admitted, handled⟩ := Option.bind_eq_some_iff.mp moved
  cases handled
  exact (padViews_handle changes).imp_right fun changed =>
    ⟨activity.padView, phase, padViews_of_found found, admitted, changed⟩

end Handlers

section History

/-- What the events so far tell about the track pad of an activity. -/
structure PadView.Known (past : List Event) (id : ActivityId)
    (view : PadView) : Prop where
  found : view.phase = .resumed → view.mTrackPadView = true
  running : .onStop id ∉ past →
    view.sender = ⟨true, true⟩ ∨ view.phase = .destroyed
  halted : .onStop id ∈ past → view.sender = ⟨false, false⟩
  stopped : view.phase = .stopped → .onStop id ∈ past

/-- The same for all activities.  Those not yet created have not been
stopped. -/
structure KnownViews (past : List Event) (views : List PadView) : Prop where
  known : ∀ id (view : PadView), views[id]? = some view → view.Known past id
  fresh : ∀ id, views.length ≤ id → .onStop id ∉ past

variable {past : List Event} {views : List PadView} {event : Event}
variable {id : ActivityId} {view : PadView}

theorem mem_snoc_of_ne (other : event ≠ .onStop id) :
    .onStop id ∈ past ++ [event] ↔ .onStop id ∈ past := by
  simp [Ne.symm other]

theorem PadView.Known.snoc (known : view.Known past id)
    (other : event ≠ .onStop id) : view.Known (past ++ [event]) id where
  found := known.found
  running := by
    rw [mem_snoc_of_ne other]
    exact known.running
  halted := by
    rw [mem_snoc_of_ne other]
    exact known.halted
  stopped := by
    rw [mem_snoc_of_ne other]
    exact known.stopped

theorem KnownViews.snoc (known : KnownViews past views)
    (other : ∀ id, event ≠ .onStop id) : KnownViews (past ++ [event]) views where
  known := fun id view found => (known.known id view found).snoc (other id)
  fresh := by
    intro id beyond
    rw [mem_snoc_of_ne (other id)]
    exact known.fresh id beyond

/-- An event that concerns one activity only. -/
theorem KnownViews.set (known : KnownViews past views)
    (found : views[id]? = some view) {after : PadView}
    (other : ∀ elsewhere, elsewhere ≠ id → event ≠ .onStop elsewhere)
    (knownAfter : after.Known (past ++ [event]) id) :
    KnownViews (past ++ [event]) (views.set id after) where
  known := by
    intro elsewhere seen present
    by_cases same : elsewhere = id
    · subst same
      have inRange := (List.getElem?_eq_some_iff.mp found).1
      rw [List.getElem?_set_self inRange] at present
      cases present
      exact knownAfter
    · rw [List.getElem?_set_ne (Ne.symm same)] at present
      exact (known.known elsewhere seen present).snoc (other elsewhere same)
  fresh := by
    intro elsewhere beyond
    rw [List.length_set] at beyond
    have inRange := (List.getElem?_eq_some_iff.mp found).1
    have different : elsewhere ≠ id := by
      rintro rfl
      exact absurd inRange (Nat.not_lt.mpr beyond)
    rw [mem_snoc_of_ne (other elsewhere different)]
    exact known.fresh elsewhere beyond

theorem KnownViews.create (known : KnownViews past views) (adapter : Bool) :
    KnownViews (past ++ [.onCreate adapter])
      (views ++ [(newMouseAndKeyboard adapter).padView]) where
  known := by
    intro id view present
    rw [List.getElem?_append] at present
    split at present
    · exact (known.known id view present).snoc (by simp)
    · next beyond =>
        have notStopped := known.fresh id (Nat.le_of_not_lt beyond)
        have created : view = (newMouseAndKeyboard adapter).padView := by
          have member := List.mem_of_getElem? present
          simpa using member
        subst created
        refine ⟨fun resumed => ?_, fun _ => .inl rfl, fun stopped => ?_,
          fun stopped => ?_⟩
        · cases resumed
        · rw [mem_snoc_of_ne (by simp)] at stopped
          exact absurd stopped notStopped
        · cases stopped
  fresh := by
    intro id beyond
    rw [List.length_append] at beyond
    rw [mem_snoc_of_ne (by simp)]
    exact known.fresh id (Nat.le_of_succ_le beyond)

/-- The phase that a callback leads to. -/
def Callback.target : Callback → Phase
  | .onStart => .started
  | .onResume => .resumed
  | .onPause => .paused
  | .onStop => .stopped
  | .onDestroy => .destroyed

theorem after_eq_some {before phase : Phase} {callback : Callback}
    (admitted : before.after callback = some phase) :
    phase = callback.target ∧ before ≠ .destroyed := by
  cases before <;> cases callback <;> cases admitted <;>
    exact ⟨rfl, by simp⟩

/-- A callback that leaves the sender thread alone. -/
theorem PadView.Known.move (known : view.Known past id)
    {callback : Callback} {phase : Phase}
    (admitted : view.phase.after callback = some phase)
    (other : event ≠ .onStop id) (notStop : callback ≠ .onStop)
    {found : Bool} (finds : callback = .onResume → found = true) :
    PadView.Known (past ++ [event]) id ⟨phase, found, view.sender⟩ := by
  obtain ⟨rfl, alive⟩ := after_eq_some admitted
  refine ⟨fun resumed => ?_, fun notStopped => ?_, fun stopped => ?_,
    fun stopped => ?_⟩
  · apply finds
    cases callback <;> cases resumed
    rfl
  · rw [mem_snoc_of_ne other] at notStopped
    exact .inl ((known.running notStopped).resolve_right alive)
  · rw [mem_snoc_of_ne other] at stopped
    exact known.halted stopped
  · cases callback <;> cases stopped
    exact absurd rfl notStop

end History

section Runs

variable {process next : Process}

/-- The events that neither create an activity nor call it back. -/
theorem padViews_elsewhere {event : Event}
    (performed : perform process event = some next)
    (elsewhere : event = .createTenKey ∨
      (∃ id callback, event = .tenKey id callback) ∨
      ∃ id label, event = .service id label) :
    next.padViews = process.padViews := by
  rcases elsewhere with rfl | ⟨id, callback, rfl⟩ | ⟨id, label, rfl⟩
  · cases performed
    rfl
  · obtain ⟨before, _, moved⟩ := Option.bind_eq_some_iff.mp performed
    obtain ⟨phase, _, same⟩ := Option.bind_eq_some_iff.mp moved
    cases same
    cases callback <;> rfl
  · obtain ⟨worker, _, same⟩ := Option.map_eq_some_iff.mp performed
    cases same
    rfl

/-- A callback of one activity, given what it makes of the track pad. -/
theorem KnownViews.called {past : List Event} {event : Event}
    (known : KnownViews past process.padViews) {id : ActivityId}
    {callback : Callback} {handler : Handler} {change : PadView → PadView}
    (performed : lifecycle process id callback handler = some next)
    (changes : handler.Changes change)
    (other : ∀ elsewhere, elsewhere ≠ id → event ≠ .onStop elsewhere)
    (knownAfter : ∀ (view : PadView) phase, view.Known past id →
      view.phase.after callback = some phase →
      (change { view with phase := phase }).Known (past ++ [event]) id) :
    next.crashed = true ∨ KnownViews (past ++ [event]) next.padViews := by
  refine (padViews_lifecycle changes performed).imp_right ?_
  rintro ⟨view, phase, found, admitted, changed⟩
  rw [changed]
  exact known.set found other
    (knownAfter view phase (known.known id view found) admitted)

theorem knownViews_step {past : List Event} {event : Event}
    (known : KnownViews past process.padViews)
    (taken : step process event = some next) :
    next.crashed = true ∨ KnownViews (past ++ [event]) next.padViews := by
  have performed := perform_of_step taken
  cases event with
  | onCreate adapter =>
      cases performed
      right
      rw [Process.padViews, List.map_append]
      exact known.create adapter
  | onStart id isEnabled =>
      apply known.called performed (onStart_changes isEnabled) (by simp)
      intro view phase knownView admitted
      exact knownView.move admitted (by simp) (by simp) (by simp)
  | onResume id listens =>
      apply known.called performed (onResume_changes id listens) (by simp)
      intro view phase knownView admitted
      exact knownView.move admitted (by simp) (by simp) (fun _ => rfl)
  | onPause id =>
      apply known.called performed onPause_changes (by simp)
      intro view phase knownView admitted
      exact knownView.move admitted (by simp) (by simp) (by simp)
  | onStop id =>
      apply known.called performed onStop_changes
      · intro elsewhere different
        simpa using Ne.symm different
      · intro view phase _ admitted
        obtain ⟨rfl, _⟩ := after_eq_some admitted
        refine ⟨fun resumed => ?_, fun notStopped => ?_, fun _ => rfl,
          fun _ => ?_⟩
        · cases resumed
        · exact absurd (by simp) notStopped
        · simp
  | onDestroy id =>
      apply known.called performed onDestroy_changes (by simp)
      intro view phase _ admitted
      obtain ⟨rfl, _⟩ := after_eq_some admitted
      refine ⟨fun resumed => ?_, fun _ => .inr rfl, fun _ => rfl,
        fun stopped => ?_⟩
      · cases resumed
      · cases stopped
  | onEnableResult id resultOk =>
      obtain ⟨activity, found, handled⟩ := Option.map_eq_some_iff.mp performed
      cases handled
      have present := padViews_of_found found
      refine (padViews_handle (onEnableResult_changes resultOk)).imp_right ?_
      intro changed
      rw [changed]
      exact known.set present (by simp)
        ((known.known id _ present).snoc (by simp))
  | createTenKey =>
      rw [padViews_elsewhere performed (.inl rfl)]
      exact .inr (known.snoc (by simp))
  | tenKey id callback =>
      rw [padViews_elsewhere performed (.inr (.inl ⟨id, callback, rfl⟩))]
      exact .inr (known.snoc (by simp))
  | service id label =>
      rw [padViews_elsewhere performed (.inr (.inr ⟨id, label, rfl⟩))]
      exact .inr (known.snoc (by simp))

/-- The track pads of a process that has not died are as its events tell. -/
theorem knownViews_of_follow {events : List Event}
    (run : LabelledRun.follow step Process.initial events = some process) :
    process.crashed = true ∨ KnownViews events process.padViews := by
  have start : Process.initial.crashed = true ∨
      KnownViews [] Process.initial.padViews := by
    right
    exact ⟨by simp [Process.initial, Process.padViews], by simp⟩
  refine LabelledRun.history_of_follow step (fun past process =>
    process.crashed = true ∨ KnownViews past process.padViews) ?_ start run
  intro past before event next known taken
  rcases known with crashed | known
  · rw [step_of_crashed crashed] at taken
    cases taken
  · exact knownViews_step known taken

/-- The activity has found its track pad, whose sender thread is running. -/
def MouseAndKeyboard.TrackPadWorks (activity : MouseAndKeyboard) : Prop :=
  activity.mTrackPadView = true ∧ activity.sender.alive = true ∧
    activity.sender.mKeepRunning = true

instance (activity : MouseAndKeyboard) : Decidable activity.TrackPadWorks :=
  inferInstanceAs (Decidable (_ ∧ _ ∧ _))

/-- The track pad of an activity in front works exactly if the activity has
never been stopped.  An activity that is stopped has no sender thread. -/
theorem trackPadWorks_iff_never_stopped {events : List Event}
    (run : LabelledRun.follow step Process.initial events = some process)
    (alive : process.crashed = false) {id : ActivityId}
    {activity : MouseAndKeyboard}
    (found : process.activities[id]? = some activity) :
    (activity.phase = .resumed →
        (activity.TrackPadWorks ↔ .onStop id ∉ events)) ∧
      (activity.phase = .stopped → activity.sender.alive = false) := by
  have views : KnownViews events process.padViews := by
    rcases knownViews_of_follow run with crashed | known
    · rw [alive] at crashed
      cases crashed
    · exact known
  have known := views.known id _ (padViews_of_found found)
  constructor
  · intro resumed
    constructor
    · rintro ⟨_, runs, _⟩ stopped
      have halted : activity.sender = _ := known.halted stopped
      rw [halted] at runs
      cases runs
    · intro notStopped
      have notDestroyed : activity.phase ≠ .destroyed := by simp [resumed]
      have running : activity.sender = _ :=
        (known.running notStopped).resolve_right notDestroyed
      exact ⟨known.found resumed, by rw [running], by rw [running]⟩
  · intro stopped
    have halted : activity.sender = _ := known.halted (known.stopped stopped)
    rw [halted]

/-- The first time that the activity comes to the front its track pad
works. -/
theorem trackPadWorks_at_first :
    ∃ process activity, LabelledRun.follow step Process.initial
        [.onCreate true, .onStart 0 true, .onResume 0 ⟨true, true⟩] =
          some process ∧
      process.activities[0]? = some activity ∧ activity.phase = .resumed ∧
      activity.TrackPadWorks := by
  have computed : (LabelledRun.follow step Process.initial
      [.onCreate true, .onStart 0 true, .onResume 0 ⟨true, true⟩]).map
        (fun process => (process.crashed,
          process.activities.map MouseAndKeyboard.phase)) =
      some (false, [.resumed]) := by
    decide
  obtain ⟨process, run, same⟩ := Option.map_eq_some_iff.mp computed
  obtain ⟨alive, phases⟩ := Prod.mk.inj same
  obtain ⟨activity, only, resumed⟩ := List.map_eq_singleton_iff.mp phases
  have found : process.activities[0]? = some activity := by rw [only]; rfl
  exact ⟨process, activity, run, found, resumed,
    ((trackPadWorks_iff_never_stopped run alive found).1 resumed).mpr
      (by decide)⟩

/-- After a visit to the ten-key pad the activity is in front with a dead
track pad. -/
theorem trackPad_dead_after_visit :
    (LabelledRun.follow step Process.initial
        (visitTenKey ++ [.onResume 0 ⟨true, true⟩])).map
          (fun process => (process.crashed,
            process.activities.map fun activity =>
              (activity.phase, activity.mTrackPadView, activity.sender.alive,
                decide activity.TrackPadWorks))) =
      some (false, [(.resumed, true, false, false)]) := by
  decide

end Runs

end MightyMouse.ActivityLifecycle

import MightyMouse.WorkerClassInvariant

/-!
# Steps of cancelled threads

`cancel()` only closes a socket.  A connect or connected thread that was
blocked on it takes its failure path, and one that had just got past
`connect()` goes on as if nothing had happened; neither looks at whether it is
still the current one.  This file says exactly which of these late steps leave
the service alone.
-/

namespace MightyMouse

namespace WorkerClass

/-- The connect or connected thread that takes the step. -/
def Step.thread? : Step → Option ThreadName
  | .connectReturns id | .connectThrows id | .failedToast id
  | .failedStart id _ | .resetConnectThread id | .handOver id _ =>
      some (.connect id)
  | .readReturns id _ | .readThrows id | .lostToast id | .lostStart id _
  | .restart id _ => some (.connected id)
  | .start _ | .connect _ _ _ | .stop | .lockWrite _ | .performWrite _ _
  | .acceptTest _ | .acceptReturns _ _ | .acceptThrows _
  | .acceptHandle _ _ => none

/-- A step leaves `mState` and the four thread fields as they were and calls
`cancel()` on no further thread. -/
structure Inert (worker next : Worker) : Prop where
  mState : next.mState = worker.mState
  mSecureAcceptThread : next.mSecureAcceptThread = worker.mSecureAcceptThread
  mInsecureAcceptThread :
    next.mInsecureAcceptThread = worker.mInsecureAcceptThread
  mConnectThread : next.mConnectThread = worker.mConnectThread
  mConnectedThread : next.mConnectedThread = worker.mConnectedThread
  cancelled : ∀ name, next.IsCancelled name → worker.IsCancelled name

/-- When a step of a connect or connected thread does no harm: a call of
`start()` in `STATE_LISTEN` only, the block that resets `mConnectThread` only
if that field is null already, and the call of `connected()` never. -/
def Harmless (worker : Worker) : Step → Prop
  | .failedStart _ _ | .lostStart _ _ | .restart _ _ =>
      worker.mState = .stateListen
  | .resetConnectThread _ => worker.mConnectThread = none
  | .handOver _ _ => False
  | _ => True

namespace View

variable {view : View}

/-- The abstract counterpart of `Inert`. -/
structure Undisturbed (view next : View) : Prop where
  mState : next.mState = view.mState
  acceptThread : next.acceptThread = view.acceptThread
  mConnectThread : next.mConnectThread = view.mConnectThread
  mConnectedThread : next.mConnectedThread = view.mConnectedThread
  cancelled : next.cancelled ⊆ view.cancelled

theorem undisturbed_rfl : Undisturbed view view :=
  ⟨rfl, rfl, rfl, rfl, subset_rfl⟩

theorem undisturbed_start_iff (invariant : view.Invariant) :
    Undisturbed view view.start ↔ view.mState = .stateListen := by
  constructor
  · intro undisturbed
    exact undisturbed.mState.symm
  · intro listening
    have noConnect : view.mConnectThread = none := by
      by_contra present
      simp [invariant.connecting present] at listening
    have noConnected : view.mConnectedThread = none := by
      by_contra present
      simp [invariant.connected_iff.mpr present] at listening
    have waits : (view.dropConnect.dropConnected.setState .stateListen) =
        view := by
      ext <;> simp [setState, dropConnected, dropConnect, noConnect,
        noConnected, listening]
    have kept (secure : Bool) : view.ensureAccept secure = view := by
      obtain ⟨id, stored⟩ := Option.ne_none_iff_exists'.mp
        (invariant.listening listening secure)
      exact ensureAccept_of_stored stored
    have same : view.start = view := by
      rw [View.start, waits, kept, kept]
    rw [same]
    exact undisturbed_rfl

theorem undisturbed_reset_iff :
    Undisturbed view view.reset ↔ view.mConnectThread = none := by
  constructor
  · intro undisturbed
    exact undisturbed.mConnectThread.symm
  · intro absent
    exact ⟨rfl, rfl, absent.symm, rfl, subset_rfl⟩

/-- `connected()` always stores a thread that did not exist before. -/
theorem not_undisturbed_connected (tracked : view.Tracked) :
    ¬ Undisturbed view view.connected := by
  intro undisturbed
  have stored : view.mConnectedThread = some view.connectedCount :=
    undisturbed.mConnectedThread.symm
  have created : view.connectedCount < view.connectedCount :=
    tracked.created (.connected view.connectedCount) (by simpa using stored)
  exact lt_irrefl _ created

end View

variable {worker next : Worker} {label : Step}

theorem undisturbed_after_iff (invariant : worker.view.Invariant)
    {name : ThreadName} (mover : label.thread? = some name) :
    View.Undisturbed worker.view (worker.view.after label) ↔
      Harmless worker label := by
  cases label with
  | failedStart | lostStart | restart =>
      exact View.undisturbed_start_iff invariant
  | resetConnectThread => exact View.undisturbed_reset_iff
  | handOver =>
      exact iff_of_false (View.not_undisturbed_connected invariant.toTracked)
        not_false
  | connectReturns | connectThrows | failedToast | readReturns | readThrows
  | lostToast => exact iff_of_true View.undisturbed_rfl trivial
  | _ => cases mover

theorem inert_of_view (undisturbed : View.Undisturbed worker.view next.view) :
    Inert worker next :=
  ⟨undisturbed.mState, congrFun undisturbed.acceptThread true,
    congrFun undisturbed.acceptThread false, undisturbed.mConnectThread,
    undisturbed.mConnectedThread, fun _ isCancelled =>
      undisturbed.cancelled isCancelled⟩

theorem Inert.view (inert : Inert worker next) :
    View.Undisturbed worker.view next.view where
  mState := inert.mState
  acceptThread := by
    funext secure
    cases secure with
    | true => exact inert.mSecureAcceptThread
    | false => exact inert.mInsecureAcceptThread
  mConnectThread := inert.mConnectThread
  mConnectedThread := inert.mConnectedThread
  cancelled := inert.cancelled

/-- A step is inert exactly if its abstract effect is, also when it throws:
`cancel()` has then been called on a thread of a field. -/
theorem inert_iff_undisturbed_after (valid : Valid False worker)
    (taken : step worker label = some next) :
    Inert worker next ↔
      View.Undisturbed worker.view (worker.view.after label) := by
  have invariant := valid.invariant (Or.inr (crashed_of_step taken))
  obtain ⟨_, same | ⟨_, name, ⟨isHeld, cancels⟩, failed⟩⟩ :=
    step_performs valid.sound invariant False.elim taken
  · rw [← same]
    exact ⟨Inert.view, inert_of_view⟩
  · have alive : name ∉ worker.view.cancelled := invariant.alive name isHeld
    constructor
    · intro inert
      exact absurd (inert.cancelled name failed.isCancelled) alive
    · intro undisturbed
      exact absurd (undisturbed.cancelled cancels) alive

/-- The step is taken by a connect or connected thread on which `cancel()` has
been called. -/
def ByCancelled (worker : Worker) (label : Step) : Prop :=
  ∃ name, label.thread? = some name ∧ worker.IsCancelled name

/-- Along every run, the steps of cancelled threads are inert exactly if they
are harmless. -/
theorem cancelled_steps_inert_iff_harmless (labels : List Step) :
    LabelledRun.EveryStep step
        (fun worker label next =>
          ByCancelled worker label → Inert worker next)
        Worker.initial labels ↔
      LabelledRun.EveryStep step
        (fun worker label _ =>
          ByCancelled worker label → Harmless worker label)
        Worker.initial labels := by
  apply LabelledRun.everyStep_congr step (Valid False)
  · intro worker label next valid taken
    exact valid_step valid False.elim taken
  · intro worker label next valid taken
    refine forall_congr' fun byCancelled => ?_
    obtain ⟨name, mover, _⟩ := byCancelled
    have invariant := valid.invariant (Or.inr (crashed_of_step taken))
    rw [inert_iff_undisturbed_after valid taken,
      undisturbed_after_iff invariant mover]
  · exact valid_initial

/-- A second `connect` cancels the first attempt.  When the first attempt then
fails, its call of `start()` cancels the second one; and after `stop()` the
failure of a closed connection sets the service listening again. -/
theorem cancelled_steps_disturb :
    (∃ worker next,
      LabelledRun.follow step Worker.initial
        [.connect (.unnamed 49) true true, .connect (.unnamed 50) true true,
          .connectThrows 0, .failedToast 0] = some worker ∧
      step worker (.failedStart 0 ⟨true, true⟩) = some next ∧
      ByCancelled worker (.failedStart 0 ⟨true, true⟩) ∧
      ¬ worker.IsCancelled (.connect 1) ∧ next.IsCancelled (.connect 1) ∧
      worker.mState = .stateConnecting ∧ next.mState = .stateListen ∧
      worker.mConnectThread = some 1 ∧ next.mConnectThread = none ∧
      ¬ Inert worker next) ∧
    ∃ worker next,
      LabelledRun.follow step Worker.initial
        [.connect (.unnamed 49) true true, .connectReturns 0,
          .resetConnectThread 0, .handOver 0 ⟨true, true⟩, .stop,
          .readThrows 0, .lostToast 0] = some worker ∧
      step worker (.lostStart 0 ⟨true, true⟩) = some next ∧
      ByCancelled worker (.lostStart 0 ⟨true, true⟩) ∧
      worker.mState = .stateNone ∧ next.mState = .stateListen ∧
      ¬ Inert worker next := by
  refine ⟨⟨_, _, rfl, rfl, ?_, ?_, ?_, rfl, rfl, rfl, rfl, ?_⟩,
    ⟨_, _, rfl, rfl, ?_, rfl, rfl, ?_⟩⟩
  · exact ⟨.connect 0, rfl, _, rfl, rfl⟩
  · rintro ⟨thread, found, isCancelled⟩
    cases found
    cases isCancelled
  · exact ⟨_, rfl, rfl⟩
  · intro inert
    cases inert.mState
  · exact ⟨.connected 0, rfl, _, rfl, rfl⟩
  · intro inert
    cases inert.mState

end WorkerClass

end MightyMouse

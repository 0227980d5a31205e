import MightyMouse.ServiceView
import MightyMouse.StatefulBody

/-!
# The method bodies refine the abstract service

Every body that returns changes the view of the service as the abstract
method says.  A body that throws does so in a call of `cancel()` on one of the
threads that the abstract method cancels.
-/

namespace MightyMouse

namespace WorkerClass

open StatefulBody

/-- `cancel()` has been called on the thread. -/
def Worker.IsCancelled (worker : Worker) : ThreadName → Prop
  | .accept id => ∃ thread, worker.acceptThreads[id]? = some thread ∧
      thread.cancelled = true
  | .connect id => ∃ thread, worker.connectThreads[id]? = some thread ∧
      thread.cancelled = true
  | .connected id => ∃ thread, worker.connectedThreads[id]? = some thread ∧
      thread.cancelled = true

/-- The abstraction function. -/
def Worker.view (worker : Worker) : View where
  mState := worker.mState
  acceptThread := worker.acceptThread
  mConnectThread := worker.mConnectThread
  mConnectedThread := worker.mConnectedThread
  acceptCount := worker.acceptThreads.length
  connectCount := worker.connectThreads.length
  connectedCount := worker.connectedThreads.length
  cancelled := { name | worker.IsCancelled name }

theorem view_initial : Worker.initial.view = View.initial := by
  ext name
  all_goals try simp [Worker.view, Worker.acceptThread, Worker.initial,
    View.initial]
  cases name <;> simp [Worker.IsCancelled]

theorem accept_mem_view_held {worker : Worker} {id : ThreadId} :
    ThreadName.accept id ∈ worker.view.held ↔
      worker.mSecureAcceptThread = some id ∨
        worker.mInsecureAcceptThread = some id := by
  rw [View.accept_mem_held, Bool.exists_bool, or_comm]
  rfl

section Tables

variable {Thread : Type} {threads : List Thread} (flag : Thread → Bool)

/-- Setting the flag of one thread of a table flags that thread only. -/
theorem flagged_modify_set (update : Thread → Thread)
    (sets : ∀ thread, flag (update thread) = true) {id : Nat}
    (bound : id < threads.length) (other : Nat) :
    (∃ thread, (threads.modify id update)[other]? = some thread ∧
        flag thread = true) ↔
      other = id ∨
        ∃ thread, threads[other]? = some thread ∧ flag thread = true := by
  by_cases same : id = other
  · subst other
    simp [bound, sets]
  · have ne : ¬ other = id := fun equal => same equal.symm
    simp [List.getElem?_modify_ne _ _ same, ne]

theorem flagged_modify_keep {update : Thread → Thread}
    (keeps : ∀ thread, flag (update thread) = flag thread) (id : Nat)
    (other : Nat) :
    (∃ thread, (threads.modify id update)[other]? = some thread ∧
        flag thread = true) ↔
      ∃ thread, threads[other]? = some thread ∧ flag thread = true := by
  by_cases same : id = other
  · subst other
    cases found : threads[id]? with
    | none => simp [found]
    | some thread => simp [found, keeps]
  · simp [List.getElem?_modify_ne _ _ same]

theorem flagged_append_clear {added : Thread} (clear : flag added = false)
    (other : Nat) :
    (∃ thread, (threads ++ [added])[other]? = some thread ∧
        flag thread = true) ↔
      ∃ thread, threads[other]? = some thread ∧ flag thread = true := by
  rcases lt_trichotomy other threads.length with before | rfl | beyond
  · rw [List.getElem?_append_left before]
  · simp [clear]
  · rw [List.getElem?_eq_none (by simp; omega),
      List.getElem?_eq_none (by omega)]

end Tables

/-- `cancel()` has been called on the thread and found a null socket. -/
def Worker.FailedCancel (worker : Worker) : ThreadName → Prop
  | .accept id => ∃ thread, worker.acceptThreads[id]? = some thread ∧
      thread.cancelled = true ∧ thread.mmServerSocket = none
  | .connect id => ∃ thread, worker.connectThreads[id]? = some thread ∧
      thread.cancelled = true ∧ thread.mmSocket = none
  | .connected _ => False

theorem Worker.FailedCancel.isCancelled {worker : Worker} {name : ThreadName}
    (failed : worker.FailedCancel name) : worker.IsCancelled name := by
  cases name with
  | accept id =>
      obtain ⟨thread, found, cancelled, _⟩ := failed
      exact ⟨thread, found, cancelled⟩
  | connect id =>
      obtain ⟨thread, found, cancelled, _⟩ := failed
      exact ⟨thread, found, cancelled⟩
  | connected id => exact failed.elim

/-- A call of `cancel()` on one of the targets has thrown. -/
def Struck (targets : Set ThreadName) (worker : Worker) : Prop :=
  ∃ name ∈ targets, worker.FailedCancel name

/-- The body does to the view what the abstract method does; if it throws, it
has struck a target. -/
def Refines (targets : Set ThreadName) (view next : View)
    (body : Body Unit) : Prop :=
  Triple (fun worker => worker.view = view) body
    (fun _ worker => worker.view = next) (Struck targets)

variable {targets : Set ThreadName} {view next : View}

theorem Refines.andThen {last : View} {first second : Body Unit}
    (firstRefines : Refines targets view next first)
    (secondRefines : Refines targets next last second) :
    Refines targets view last (do first; second) :=
  triple_bind firstRefines fun _ => secondRefines

theorem refines_modify {update : Worker → Worker}
    (maps : ∀ worker, worker.view = view → (update worker).view = next) :
    Refines targets view next (modify update) :=
  triple_modify maps

theorem refines_post (message : Message) :
    Refines targets view view (post message) :=
  refines_modify fun _ same => same

theorem refines_setState (state : ServiceState) :
    Refines targets view (view.setState state) (setState state) := by
  apply Refines.andThen _ (refines_post _)
  apply refines_modify
  intro worker same
  subst same
  rfl

theorem refines_closeSocket (socket : SocketId) :
    Refines targets view view (closeSocket socket) :=
  refines_modify fun _ same => same

theorem view_moveAccept (worker : Worker) (id : ThreadId)
    (update : AcceptThread → AcceptThread)
    (keeps : ∀ thread, (update thread).cancelled = thread.cancelled) :
    { worker with
      acceptThreads := worker.acceptThreads.modify id update }.view =
      worker.view := by
  ext name
  all_goals try simp [Worker.view, Worker.acceptThread]
  cases name with
  | accept other => exact flagged_modify_keep _ keeps id other
  | connect other => rfl
  | connected other => rfl

theorem view_moveConnect (worker : Worker) (id : ThreadId)
    (update : ConnectThread → ConnectThread)
    (keeps : ∀ thread, (update thread).cancelled = thread.cancelled) :
    { worker with
      connectThreads := worker.connectThreads.modify id update }.view =
      worker.view := by
  ext name
  all_goals try simp [Worker.view, Worker.acceptThread]
  cases name with
  | accept other => rfl
  | connect other => exact flagged_modify_keep _ keeps id other
  | connected other => rfl

theorem view_moveConnected (worker : Worker) (id : ThreadId)
    (update : ConnectedThread → ConnectedThread)
    (keeps : ∀ thread, (update thread).cancelled = thread.cancelled) :
    { worker with
      connectedThreads := worker.connectedThreads.modify id update }.view =
      worker.view := by
  ext name
  all_goals try simp [Worker.view, Worker.acceptThread]
  cases name with
  | accept other => rfl
  | connect other => rfl
  | connected other => exact flagged_modify_keep _ keeps id other

/-- The view after `cancel()` has been called on one more thread. -/
def View.cancel (view : View) (name : ThreadName) : View :=
  { view with cancelled := view.cancelled ∪ {name} }

theorem view_flagAccept {worker : Worker} {id : ThreadId}
    (bound : id < worker.acceptThreads.length) :
    { worker with
      acceptThreads := worker.acceptThreads.modify id fun old =>
        { old with cancelled := true } }.view =
      worker.view.cancel (.accept id) := by
  ext name
  all_goals try simp [Worker.view, Worker.acceptThread, View.cancel]
  cases name with
  | accept other =>
      simpa [Worker.IsCancelled] using
        flagged_modify_set AcceptThread.cancelled
          (fun old => { old with cancelled := true }) (fun _ => rfl) bound other
  | connect other => simp [Worker.IsCancelled]
  | connected other => simp [Worker.IsCancelled]

theorem view_flagConnect {worker : Worker} {id : ThreadId}
    (bound : id < worker.connectThreads.length) :
    { worker with
      connectThreads := worker.connectThreads.modify id fun old =>
        { old with cancelled := true } }.view =
      worker.view.cancel (.connect id) := by
  ext name
  all_goals try simp [Worker.view, Worker.acceptThread, View.cancel]
  cases name with
  | accept other => simp [Worker.IsCancelled]
  | connect other =>
      simpa [Worker.IsCancelled] using
        flagged_modify_set ConnectThread.cancelled
          (fun old => { old with cancelled := true }) (fun _ => rfl) bound other
  | connected other => simp [Worker.IsCancelled]

theorem view_flagConnected {worker : Worker} {id : ThreadId}
    (bound : id < worker.connectedThreads.length) :
    { worker with
      connectedThreads := worker.connectedThreads.modify id fun old =>
        { old with cancelled := true } }.view =
      worker.view.cancel (.connected id) := by
  ext name
  all_goals try simp [Worker.view, Worker.acceptThread, View.cancel]
  cases name with
  | accept other => simp [Worker.IsCancelled]
  | connect other => simp [Worker.IsCancelled]
  | connected other =>
      simpa [Worker.IsCancelled] using
        flagged_modify_set ConnectedThread.cancelled
          (fun old => { old with cancelled := true }) (fun _ => rfl) bound other

/-- `cancel()` sets the flag of its thread and then looks at its socket. -/
theorem refines_flagged {flag : Worker → Worker} {rest : Worker → Body Unit}
    (refines : ∀ worker, worker.view = view →
      Triple (fun state => state = flag worker) (rest (flag worker))
        (fun _ state => state.view = next) (Struck targets)) :
    Refines targets view next
      (do modify flag; let worker ← get; rest worker) := by
  refine triple_modify_bind fun worker same => triple_get_bind ?_
  intro flagged isFlagged
  subst isFlagged
  exact refines worker same

theorem refines_cancelAccept (tracked : view.Tracked) {id : ThreadId}
    (isHeld : ThreadName.accept id ∈ view.held)
    (targeted : ThreadName.accept id ∈ targets) :
    Refines targets view (view.cancel (.accept id)) (cancelAccept id) := by
  refine refines_flagged fun worker same => ?_
  subst view
  have bound : id < worker.acceptThreads.length :=
    tracked.created (.accept id) isHeld
  have found := List.getElem?_eq_getElem bound
  split
  · next missing =>
      apply triple_throw
      intro state same
      subst same
      simp only [List.getElem?_modify_eq, found] at missing
      refine ⟨.accept id, targeted, _, ?_, ?_, missing⟩
      · simp [found]
      · rfl
  · apply triple_modify
    intro state same
    subst same
    refine Eq.trans ?_ (view_flagAccept bound)
    exact view_moveAccept _ id
      (fun old => { old with mmServerSocket := some ⟨true⟩ }) fun _ => rfl

theorem refines_cancelConnect (tracked : view.Tracked) {id : ThreadId}
    (isHeld : ThreadName.connect id ∈ view.held)
    (targeted : ThreadName.connect id ∈ targets) :
    Refines targets view (view.cancel (.connect id)) (cancelConnect id) := by
  refine refines_flagged fun worker same => ?_
  subst view
  have bound : id < worker.connectThreads.length :=
    tracked.created (.connect id) isHeld
  have found := List.getElem?_eq_getElem bound
  split
  · next missing =>
      apply triple_throw
      intro state same
      subst same
      simp only [List.getElem?_modify_eq, found] at missing
      refine ⟨.connect id, targeted, _, ?_, ?_, missing⟩
      · simp [found]
      · rfl
  · apply triple_modify
    intro state same
    subst same
    exact view_flagConnect bound

theorem refines_cancelConnected (tracked : view.Tracked) {id : ThreadId}
    (isHeld : ThreadName.connected id ∈ view.held) :
    Refines targets view (view.cancel (.connected id)) (cancelConnected id) := by
  refine refines_flagged fun worker same => ?_
  subst view
  have bound : id < worker.connectedThreads.length :=
    tracked.created (.connected id) isHeld
  have found := List.getElem?_eq_getElem bound
  split
  · next missing => simp [found] at missing
  · apply triple_modify
    intro state same
    subst same
    exact view_flagConnected bound

theorem refines_dropThread {field : Worker → Option ThreadId}
    {cancel : ThreadId → Body Unit} {clear : Worker → Worker}
    (stored : Option ThreadId)
    (reads : ∀ worker, worker.view = view → field worker = stored)
    (absent : stored = none → view = next)
    (present : ∀ id, stored = some id → ∃ middle,
      Refines targets view middle (cancel id) ∧
        ∀ worker, worker.view = middle → (clear worker).view = next) :
    Refines targets view next (dropThread field cancel clear) := by
  refine triple_get_bind fun worker same => ?_
  rw [reads worker same]
  cases stored with
  | none =>
      apply triple_pure
      intro state same
      subst same
      exact same.trans (absent rfl)
  | some id =>
      obtain ⟨middle, cancels, clears⟩ := present id rfl
      exact triple_bind (cancels.atState same) fun _ => triple_modify clears

theorem refines_dropConnectThread (tracked : view.Tracked)
    (targeted : fieldNames .connect view.mConnectThread ⊆ targets) :
    Refines targets view view.dropConnect dropConnectThread := by
  apply refines_dropThread view.mConnectThread
  · intro worker same
    subst same
    rfl
  · intro absent
    ext <;> simp [View.dropConnect, absent]
  · intro id stored
    refine ⟨_, refines_cancelConnect tracked (by simpa using stored)
      (targeted (by simp [stored])), ?_⟩
    intro worker same
    change { worker.view with mConnectThread := none } = view.dropConnect
    rw [same]
    simp [View.dropConnect, View.cancel, stored]

theorem refines_dropConnectedThread (tracked : view.Tracked) :
    Refines targets view view.dropConnected dropConnectedThread := by
  apply refines_dropThread view.mConnectedThread
  · intro worker same
    subst same
    rfl
  · intro absent
    ext <;> simp [View.dropConnected, absent]
  · intro id stored
    refine ⟨_, refines_cancelConnected tracked (by simpa using stored), ?_⟩
    intro worker same
    change { worker.view with mConnectedThread := none } = view.dropConnected
    rw [same]
    simp [View.dropConnected, View.cancel, stored]

theorem view_setAcceptThread (worker : Worker) (secure : Bool)
    (thread : Option ThreadId) :
    (worker.setAcceptThread secure thread).view =
      { worker.view with
        acceptThread := Function.update worker.view.acceptThread secure
          thread } := by
  have fields : (worker.setAcceptThread secure thread).acceptThread =
      Function.update worker.acceptThread secure thread := by
    funext other
    cases secure <;> cases other <;> rfl
  cases secure <;> exact congrArg (fun accepts =>
    { worker.view with acceptThread := accepts }) fields

theorem refines_dropAcceptThread (tracked : view.Tracked) (secure : Bool)
    (targeted : fieldNames .accept (view.acceptThread secure) ⊆ targets) :
    Refines targets view (view.dropAccept secure) (dropAcceptThread secure) := by
  apply refines_dropThread (view.acceptThread secure)
  · intro worker same
    subst same
    rfl
  · intro absent
    exact (View.dropAccept_of_absent absent).symm
  · intro id stored
    have isHeld := View.accept_mem_held.mpr ⟨secure, stored⟩
    refine ⟨_, refines_cancelAccept tracked isHeld
      (targeted (by simp [stored])), ?_⟩
    intro worker same
    rw [view_setAcceptThread, same]
    simp [View.dropAccept, View.cancel, stored]

theorem view_newAccept (worker : Worker) (secure listens : Bool) :
    { worker with
      acceptThreads := worker.acceptThreads ++
        [newAcceptThread secure listens] }.view =
      { worker.view with acceptCount := worker.view.acceptCount + 1 } := by
  ext name
  all_goals try simp [Worker.view, Worker.acceptThread]
  cases name with
  | accept other => exact flagged_append_clear AcceptThread.cancelled rfl other
  | connect other => rfl
  | connected other => rfl

theorem refines_startAcceptThread (secure listens : Bool) :
    Refines targets view (view.ensureAccept secure)
      (startAcceptThread secure listens) := by
  apply refines_modify
  intro worker same
  subst same
  split
  · next absent =>
      have stores : { worker with acceptThreads := worker.acceptThreads ++
            [newAcceptThread secure listens] }.setAcceptThread secure
              (some worker.acceptThreads.length) =
          { worker.setAcceptThread secure
              (some worker.acceptThreads.length) with
            acceptThreads := worker.acceptThreads ++
              [newAcceptThread secure listens] } := by
        cases secure <;> rfl
      have empty : worker.view.acceptThread secure = none := absent
      rw [← stores, view_setAcceptThread, view_newAccept]
      simp [View.ensureAccept, empty]
      rfl
  · next present =>
      obtain ⟨id, stored⟩ := Option.ne_none_iff_exists'.mp present
      exact (View.ensureAccept_of_stored stored).symm

theorem refines_newConnectThread (device : BluetoothDevice)
    (secure creates : Bool) :
    Refines targets view view.newConnect
      (modify (newConnectThread device secure creates)) := by
  apply refines_modify
  intro worker same
  subst same
  ext name
  all_goals try simp [Worker.view, Worker.acceptThread, newConnectThread,
    View.newConnect]
  cases name with
  | accept other => rfl
  | connect other =>
      exact flagged_append_clear ConnectThread.cancelled rfl other
  | connected other => rfl

theorem refines_newConnectedThread (socket : SocketId) (streams : Streams) :
    Refines targets view view.newConnected
      (modify (newConnectedThread socket streams)) := by
  apply refines_modify
  intro worker same
  subst same
  ext name
  all_goals try simp [Worker.view, Worker.acceptThread, newConnectedThread,
    View.newConnected]
  cases name with
  | accept other => rfl
  | connect other => rfl
  | connected other =>
      exact flagged_append_clear ConnectedThread.cancelled rfl other

section Methods

variable (tracked : view.Tracked)
include tracked

/-- The threads that the abstract method leading to `next` cancels. -/
def View.newlyCancelled (view next : View) : Set ThreadName :=
  view.held ∩ next.cancelled

theorem refines_dropPendingConnectThread
    (targeted : view.mState = .stateConnecting →
      fieldNames .connect view.mConnectThread ⊆ targets) :
    Refines targets view
      (if view.mState = .stateConnecting then view.dropConnect else view)
      dropPendingConnectThread := by
  refine triple_get_bind ?_
  intro worker same
  subst same
  change Triple _ (if worker.view.mState = _ then _ else _) _ _
  split
  · next connecting =>
      have drops := refines_dropConnectThread tracked (targeted connecting)
      exact drops.atState rfl
  · exact triple_pure fun _ same => congrArg Worker.view same

theorem refines_dropAllThreads :
    Refines (view.newlyCancelled view.dropAll) view view.dropAll
      dropAllThreads := by
  have connects := tracked.dropConnect.dropConnected
  refine (refines_dropConnectThread tracked ?_).andThen
    ((refines_dropConnectedThread tracked.dropConnect).andThen
      ((refines_dropAcceptThread connects true ?_).andThen
        (refines_dropAcceptThread (connects.dropAccept true) false ?_)))
  · rintro _ ⟨id, stored, rfl⟩
    simp [View.newlyCancelled, View.dropAll, View.dropConnect, View.dropConnected,
      View.dropAccept, stored]
  · rintro _ ⟨id, stored, rfl⟩
    simp [View.dropConnect, View.dropConnected] at stored
    simp [View.newlyCancelled, View.dropAll, View.dropConnect, View.dropConnected,
      View.dropAccept, stored]
  · rintro _ ⟨id, stored, rfl⟩
    simp [View.dropConnect, View.dropConnected, View.dropAccept] at stored
    simp [View.newlyCancelled, View.dropAll, View.dropConnect, View.dropConnected,
      View.dropAccept, stored]

theorem refines_start (listens : Listens) :
    Refines (view.newlyCancelled view.start) view view.start (start listens) := by
  refine (refines_dropConnectThread tracked ?_).andThen
    ((refines_dropConnectedThread tracked.dropConnect).andThen
      ((refines_setState _).andThen
        ((refines_startAcceptThread true _).andThen
          (refines_startAcceptThread false _))))
  rintro _ ⟨id, stored, rfl⟩
  simp [View.newlyCancelled, View.start, View.ensureAccept, View.setState,
    View.dropConnected, View.dropConnect, stored]

theorem refines_connect (device : BluetoothDevice) (secure creates : Bool) :
    Refines (view.newlyCancelled view.connect) view view.connect
      (connect device secure creates) := by
  have pending : View.Tracked
      (if view.mState = .stateConnecting then view.dropConnect else view) := by
    split
    · exact tracked.dropConnect
    · exact tracked
  refine (refines_dropPendingConnectThread tracked ?_).andThen
    ((refines_dropConnectedThread pending).andThen
      ((refines_newConnectThread device secure creates).andThen
        (refines_setState _)))
  rintro connecting _ ⟨id, stored, rfl⟩
  simp [View.newlyCancelled, View.connect, View.setState, View.newConnect,
    View.dropConnected, View.dropConnect, connecting, stored]

theorem refines_connected (socket : SocketId) (device : BluetoothDevice)
    (streams : Streams) :
    Refines (view.newlyCancelled view.connected) view view.connected
      (connected socket device streams) :=
  (refines_dropAllThreads tracked).andThen
    ((refines_newConnectedThread socket streams).andThen
      ((refines_post _).andThen (refines_setState _)))

theorem refines_stop :
    Refines (view.newlyCancelled view.stop) view view.stop stop :=
  (refines_dropAllThreads tracked).andThen (refines_setState _)

end Methods

/-- The effect of the synchronized block of an accept thread. -/
def View.handleAccepted (view : View) : View :=
  if view.mState = .stateListen ∨ view.mState = .stateConnecting then
    view.connected
  else view

theorem refines_handleAccepted (tracked : view.Tracked) (socket : SocketId)
    (device : BluetoothDevice) (streams : Streams) :
    Refines (view.newlyCancelled view.handleAccepted) view view.handleAccepted
      (handleAccepted socket device streams) := by
  refine triple_get_bind ?_
  intro worker same
  subst same
  have connects := refines_connected tracked socket device streams
  have closes : Refines (worker.view.newlyCancelled worker.view) worker.view
      worker.view (closeSocket socket) := refines_closeSocket socket
  have sameState : worker.view.mState = worker.mState := rfl
  unfold View.handleAccepted
  cases state : worker.mState with
  | stateNone =>
      simp only [sameState, state]
      exact closes.atState rfl
  | stateListen =>
      simp only [sameState, state]
      exact connects.atState rfl
  | stateConnecting =>
      simp only [sameState, state]
      exact connects.atState rfl
  | stateConnected =>
      simp only [sameState, state]
      exact closes.atState rfl

end WorkerClass

end MightyMouse

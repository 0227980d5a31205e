import MightyMouse.WorkerClassSockets

/-!
# Stopping the service and connecting again

`stop()` cancels the threads that the fields refer to, and the threads end by
themselves when their blocking calls throw.  Connect and connected threads call
`start()` on their way out, so that `stop()` is final exactly if none of them
is left.  If it is, the accept threads run out and all sockets are closed.  In
the other direction, no state of the service is a dead end: a new connection
can always be made.
-/

namespace MightyMouse

namespace WorkerClass

open StatefulBody LabelledRun

section Points

variable {worker next : Worker} {label : Step} {body : Body Unit}

/-- The connected thread exists and stands at the point. -/
def Worker.ConnectedAt (worker : Worker) (id : ThreadId)
    (point : ConnectedPoint) : Prop :=
  ∃ thread, worker.connectedThreads[id]? = some thread ∧ thread.point = point

theorem stable_connectedAt {admits : Bool → Prop} (id : ThreadId)
    (point : ConnectedPoint) :
    Stable admits (Worker.ConnectedAt · id point) := by
  intro worker next update isAt
  cases update with
  | fields same =>
      unfold Worker.ConnectedAt
      rwa [same.connectedThreads]
  | flagConnected other =>
      apply exists_getElem?_modify isAt
      exact fun _ stays => stays
  | newConnected => exact exists_getElem?_append isAt _
  | _ => exact isAt

/-- Setting the point of one thread of a table. -/
theorem exists_getElem?_modify_self {Entry : Type} {entries : List Entry}
    {property after : Entry → Prop} {update : Entry → Entry} {id : Nat}
    (holds : ∃ entry, entries[id]? = some entry ∧ property entry)
    (reaches : ∀ entry, property entry → after (update entry)) :
    ∃ entry, (entries.modify id update)[id]? = some entry ∧ after entry := by
  obtain ⟨entry, found, holdsHere⟩ := holds
  refine ⟨update entry, ?_, reaches entry holdsHere⟩
  rw [List.getElem?_modify_eq, found]
  rfl

/-- A step of a connect thread leaves it at its next point. -/
theorem connectAt_of_move {id : ThreadId} {socket : Option SocketId}
    {old point : ConnectPoint} (isAt : worker.ConnectAt id socket old)
    (own : label.connectMove = some (id, point))
    (taken : step worker label = some next) (running : next.crashed = false) :
    next.ConnectAt id socket point := by
  obtain ⟨_, body, runs, rfl⟩ := step_runs taken
  have moves {first : Body Unit}
      (keeps : Preserves (Worker.ConnectAt · id socket old) first) :
      Triple (fun state => state = worker) (do first; moveConnect id point)
        (fun _ state => state.ConnectAt id socket point) fun _ => True := by
    refine triple_bind (keeps.weaken (fun _ same => same ▸ isAt)
      (fun _ _ stays => stays) fun _ _ => trivial) fun _ => triple_modify ?_
    intro state stays
    apply exists_getElem?_modify_self stays
    exact fun _ here => ⟨here.1, rfl⟩
  have lasting : Lasting (fun _ => True)
      (Worker.ConnectAt · id socket old) := (stable_connectAt _ _ _).lasting
  suffices reaches : Triple (fun state => state = worker) body
      (fun _ state => state.ConnectAt id socket point) fun _ => True from
    returned_of_running reaches running
  cases runs with
  | nullUse => exact triple_throw fun _ _ => trivial
  | connectReturns =>
      obtain ⟨rfl, rfl⟩ := Prod.mk.inj (Option.some.inj own)
      refine triple_modify fun state same => ?_
      subst state
      apply exists_getElem?_modify_self isAt
      exact fun _ here => ⟨here.1, rfl⟩
  | connectThrows =>
      obtain ⟨rfl, rfl⟩ := Prod.mk.inj (Option.some.inj own)
      exact moves (lasting.closing _)
  | failedToast =>
      obtain ⟨rfl, rfl⟩ := Prod.mk.inj (Option.some.inj own)
      exact moves (lasting.post _)
  | failedStart =>
      obtain ⟨rfl, rfl⟩ := Prod.mk.inj (Option.some.inj own)
      exact moves (lasting.start trivial trivial)
  | resetConnectThread =>
      obtain ⟨rfl, rfl⟩ := Prod.mk.inj (Option.some.inj own)
      exact moves (lasting.modifyFields (fun _ => by constructor <;> rfl)
        fun _ => by rfl)
  | handOver =>
      obtain ⟨rfl, rfl⟩ := Prod.mk.inj (Option.some.inj own)
      exact moves (lasting.connected _ _ _)
  | _ => cases own

theorem connectedAt_of_move {id : ThreadId} {old point : ConnectedPoint}
    (isAt : worker.ConnectedAt id old)
    (own : label.connectedMove = some (id, point))
    (taken : step worker label = some next) (running : next.crashed = false) :
    next.ConnectedAt id point := by
  obtain ⟨_, body, runs, rfl⟩ := step_runs taken
  have moves {first : Body Unit}
      (keeps : Preserves (Worker.ConnectedAt · id old) first) :
      Triple (fun state => state = worker) (do first; moveConnected id point)
        (fun _ state => state.ConnectedAt id point) fun _ => True := by
    refine triple_bind (keeps.weaken (fun _ same => same ▸ isAt)
      (fun _ _ stays => stays) fun _ _ => trivial) fun _ => triple_modify ?_
    intro state stays
    apply exists_getElem?_modify_self stays
    exact fun _ _ => rfl
  have lasting : Lasting (fun _ => True) (Worker.ConnectedAt · id old) :=
    (stable_connectedAt _ _).lasting
  suffices reaches : Triple (fun state => state = worker) body
      (fun _ state => state.ConnectedAt id point) fun _ => True from
    returned_of_running reaches running
  cases runs with
  | nullUse => exact triple_throw fun _ _ => trivial
  | readThrows =>
      obtain ⟨rfl, rfl⟩ := Prod.mk.inj (Option.some.inj own)
      refine triple_modify fun state same => ?_
      subst state
      apply exists_getElem?_modify_self isAt
      exact fun _ _ => rfl
  | lostToast =>
      obtain ⟨rfl, rfl⟩ := Prod.mk.inj (Option.some.inj own)
      exact moves (lasting.post _)
  | lostStart | restart =>
      obtain ⟨rfl, rfl⟩ := Prod.mk.inj (Option.some.inj own)
      exact moves (lasting.start trivial trivial)
  | _ => cases own

end Points

section Final

variable {worker next : Worker} {label : Step}

/-- The calls with which the activity sets the service to work. -/
def Step.begins : Step → Bool
  | .start _ | .connect _ _ _ => true
  | _ => false

/-- The threads of the service, left to themselves, take it out of
`STATE_NONE`. -/
def Revives (worker : Worker) : Prop :=
  ∃ labels last, (∀ label ∈ labels, label.begins = false) ∧
    follow step worker labels = some last ∧ last.mState ≠ .stateNone

theorem revives_of_step (quiet : label.begins = false)
    (taken : step worker label = some next) (revives : Revives next) :
    Revives worker := by
  obtain ⟨labels, last, allQuiet, run, awake⟩ := revives
  refine ⟨label :: labels, last, ?_, ?_, awake⟩
  · exact List.forall_mem_cons.mpr ⟨quiet, allQuiet⟩
  · rw [follow_cons_eq_some]
    exact ⟨next, taken, run⟩

theorem revives_of_awake (awake : worker.mState ≠ .stateNone) :
    Revives worker :=
  ⟨[], worker, by simp, rfl, awake⟩

/-- Validity without the promise that all sockets are there. -/
theorem Intact.anyValid (intact : Intact worker) : Valid False worker :=
  ⟨⟨intact.valid.sound.attempted, intact.valid.sound.accounted,
    intact.valid.sound.writing, False.elim, False.elim⟩,
    fun _ => intact.invariant⟩

/-- An enabled step of an intact service whose calls succeed. -/
theorem Intact.exists_step (intact : Intact worker) (label : Step)
    {body : Body Unit} (enabled : bodyOf worker label = some body)
    (succeeds : CallsSucceed worker label) :
    ∃ next, step worker label = some next ∧ Intact next ∧
      next.view = worker.view.after label := by
  have taken : step worker label = some (execute body worker) := by
    unfold step
    rw [if_neg (by simp [intact.running]), enabled]
    rfl
  have nextIntact := intact_step intact succeeds taken
  exact ⟨_, taken, nextIntact,
    view_of_step intact.anyValid False.elim taken nextIntact.running⟩

section Threads

variable (intact : Intact worker) {id : ThreadId}
include intact

theorem revives_of_start (label : Step) {body : Body Unit}
    (enabled : bodyOf worker label = some body)
    (succeeds : CallsSucceed worker label) (quiet : label.begins = false)
    (starts : worker.view.after label = worker.view.start ∨
      worker.view.after label = worker.view.connected) : Revives worker := by
  obtain ⟨next, taken, _, view⟩ := intact.exists_step label enabled succeeds
  refine revives_of_step quiet taken (revives_of_awake ?_)
  have state : next.mState = _ := congrArg View.mState view
  rw [state]
  rcases starts with starts | connects
  · rw [starts]
    exact nofun
  · rw [connects]
    exact nofun

/-- Every connect thread that has not returned calls `start()` or
`connected()` in the end. -/
theorem revives_of_connectAt {socket : SocketId} {point : ConnectPoint}
    (isAt : worker.ConnectAt id (some socket) point)
    (unfinished : point ≠ .finished) : Revives worker := by
  have restarting {worker : Worker} (intact : Intact worker)
      (isAt : worker.ConnectAt id (some socket) .restarting) :
      Revives worker := by
    obtain ⟨thread, found, _, stands⟩ := isAt
    exact revives_of_start intact (.failedStart id ⟨true, true⟩)
      (by simp [bodyOf, connectBody, found, stands]; rfl)
      (by simp [CallsSucceed]) rfl (Or.inl rfl)
  have failed {worker : Worker} (intact : Intact worker)
      (isAt : worker.ConnectAt id (some socket) .failed) :
      Revives worker := by
    obtain ⟨thread, found, stored, stands⟩ := isAt
    obtain ⟨next, taken, nextIntact, _⟩ := intact.exists_step
      (.failedToast id) (by simp [bodyOf, connectBody, found, stands]; rfl)
      trivial
    exact revives_of_step rfl taken (restarting nextIntact (connectAt_of_move
      ⟨thread, found, stored, stands⟩ rfl taken nextIntact.running))
  have handingOver {worker : Worker} (intact : Intact worker)
      (isAt : worker.ConnectAt id (some socket) .handingOver) :
      Revives worker := by
    obtain ⟨thread, found, stored, stands⟩ := isAt
    exact revives_of_start intact (.handOver id ⟨true, true⟩)
      (by simp [bodyOf, connectBody, found, stands, stored]; rfl) rfl rfl
      (Or.inr rfl)
  obtain ⟨thread, found, stored, stands⟩ := isAt
  cases point with
  | finished => exact absurd rfl unfinished
  | restarting => exact restarting intact ⟨thread, found, stored, stands⟩
  | failed => exact failed intact ⟨thread, found, stored, stands⟩
  | handingOver => exact handingOver intact ⟨thread, found, stored, stands⟩
  | connecting =>
      obtain ⟨next, taken, nextIntact, _⟩ := intact.exists_step
        (.connectThrows id)
        (by simp [bodyOf, connectBody, found, stands, stored]; rfl) trivial
      exact revives_of_step rfl taken (failed nextIntact (connectAt_of_move
        ⟨thread, found, stored, stands⟩ rfl taken nextIntact.running))
  | resetting =>
      obtain ⟨next, taken, nextIntact, _⟩ := intact.exists_step
        (.resetConnectThread id)
        (by simp [bodyOf, connectBody, found, stands]; rfl) trivial
      exact revives_of_step rfl taken (handingOver nextIntact
        (connectAt_of_move ⟨thread, found, stored, stands⟩ rfl taken
          nextIntact.running))

/-- Every connected thread that has not returned calls `start()` when its
connection is lost. -/
theorem revives_of_connectedAt {point : ConnectedPoint}
    (isAt : worker.ConnectedAt id point) (unfinished : point ≠ .finished) :
    Revives worker := by
  have restarting {worker : Worker} (intact : Intact worker)
      (isAt : worker.ConnectedAt id .restarting) : Revives worker := by
    obtain ⟨thread, found, stands⟩ := isAt
    exact revives_of_start intact (.lostStart id ⟨true, true⟩)
      (by simp [bodyOf, connectedBody, found, stands]; rfl)
      (by simp [CallsSucceed]) rfl (Or.inl rfl)
  have lost {worker : Worker} (intact : Intact worker)
      (isAt : worker.ConnectedAt id .lost) : Revives worker := by
    obtain ⟨thread, found, stands⟩ := isAt
    obtain ⟨next, taken, nextIntact, _⟩ := intact.exists_step (.lostToast id)
      (by simp [bodyOf, connectedBody, found, stands]; rfl) trivial
    exact revives_of_step rfl taken (restarting nextIntact
      (connectedAt_of_move ⟨thread, found, stands⟩ rfl taken
        nextIntact.running))
  obtain ⟨thread, found, stands⟩ := isAt
  cases point with
  | finished => exact absurd rfl unfinished
  | restarting => exact restarting intact ⟨thread, found, stands⟩
  | lost => exact lost intact ⟨thread, found, stands⟩
  | restartingAgain =>
      exact revives_of_start intact (.restart id ⟨true, true⟩)
        (by simp [bodyOf, connectedBody, found, stands]; rfl)
        (by simp [CallsSucceed]) rfl (Or.inl rfl)
  | reading =>
      obtain ⟨thread', found', streams⟩ :=
        intact.streams id (List.getElem?_eq_some_iff.mp found).1
      rw [found] at found'
      cases found'
      obtain ⟨next, taken, nextIntact, _⟩ := intact.exists_step
        (.readThrows id)
        (by simp [bodyOf, connectedBody, found, stands, streams.1]; rfl) trivial
      exact revives_of_step rfl taken (lost nextIntact (connectedAt_of_move
        ⟨thread, found, stands⟩ rfl taken nextIntact.running))

end Threads

/-- Every connect and connected thread has returned. -/
def Worker.Unattended (worker : Worker) : Prop :=
  (∀ thread ∈ worker.connectThreads, thread.point = .finished) ∧
    ∀ thread ∈ worker.connectedThreads, thread.point = .finished

/-- The service after a final `stop()`: only accept threads and callers of
`write` are still at work. -/
structure Halted (worker : Worker) : Prop where
  intact : Intact worker
  keeping : Housekeeping worker
  idle : worker.mState = .stateNone
  unattended : worker.Unattended

section Halted

variable (halted : Halted worker)
include halted

theorem Halted.fields : worker.mSecureAcceptThread = none ∧
    worker.mInsecureAcceptThread = none ∧ worker.mConnectThread = none ∧
      worker.mConnectedThread = none := by
  obtain ⟨accepts, connect, connected⟩ :=
    halted.intact.invariant.idle halted.idle
  exact ⟨accepts true, accepts false, connect, connected⟩

/-- All server sockets are closed, so that no further connection can be
accepted. -/
theorem Halted.serverClosed {id : ThreadId} {thread : AcceptThread}
    (found : worker.acceptThreads[id]? = some thread) :
    thread.mmServerSocket = some ⟨true⟩ := by
  obtain ⟨secure, insecure, _, _⟩ := halted.fields
  have bound := (List.getElem?_eq_some_iff.mp found).1
  have notHeld : ThreadName.accept id ∉ worker.view.held := by
    rw [accept_mem_view_held, secure, insecure]
    simp
  rcases halted.intact.invariant.givenUp (.accept id) bound notHeld with
    cancelled | ⟨_, same⟩
  · obtain ⟨thread', found', closed⟩ :=
      (halted.keeping.tidy halted.intact.running).released _ cancelled
    rw [found] at found'
    cases found'
    exact closed
  · cases same

end Halted

/-- What the steps of a halted service do. -/
inductive Winds (worker : Worker) : Step → Worker → Prop
  | stop : Winds worker .stop { worker with
      posted := worker.posted ++ [.stateChange .stateNone] }
  | lockWrite (out : List Byte) : Winds worker (.lockWrite out) worker
  | write {index : Nat} {writer : Writer} (succeeds : Bool)
      (posted : List Message) (waiting : worker.writers[index]? = some writer) :
      Winds worker (.performWrite index succeeds) { worker with
        writers := worker.writers.eraseIdx index, posted := posted }
  | block {id : ThreadId} {thread : AcceptThread}
      (found : worker.acceptThreads[id]? = some thread)
      (stands : thread.point = .testing) :
      Winds worker (.acceptTest id) { worker with
        acceptThreads := worker.acceptThreads.modify id fun old =>
          { old with point := .accepting } }
  | acceptThrows {id : ThreadId} {thread : AcceptThread}
      (found : worker.acceptThreads[id]? = some thread)
      (stands : thread.point = .accepting) :
      Winds worker (.acceptThrows id) { worker with
        acceptThreads := worker.acceptThreads.modify id fun old =>
          { old with point := .finished } }
  | acceptHandle {id : ThreadId} {thread : AcceptThread} {socket : SocketId}
      {device : BluetoothDevice} (streams : Streams)
      (sockets : List BluetoothSocket)
      (found : worker.acceptThreads[id]? = some thread)
      (stands : thread.point = .accepted socket device) :
      Winds worker (.acceptHandle id streams) { worker with
        sockets := sockets
        acceptThreads := worker.acceptThreads.modify id fun old =>
          { old with point := .testing } }

theorem Halted.execute_stop (halted : Halted worker) :
    execute stop worker = { worker with
      posted := worker.posted ++ [.stateChange .stateNone] } := by
  obtain ⟨secure, insecure, noConnect, noConnected⟩ := halted.fields
  have idle := halted.idle
  cases worker
  simp only at secure insecure noConnect noConnected idle
  subst secure insecure noConnect noConnected idle
  rfl

theorem Halted.winds (halted : Halted worker) (quiet : label.begins = false)
    (taken : step worker label = some next) : Winds worker label next := by
  obtain ⟨connects, connecteds⟩ := halted.unattended
  have noConnect {id : ThreadId} {thread : ConnectThread}
      (found : worker.connectThreads[id]? = some thread) :
      thread.point = .finished :=
    connects thread (List.mem_of_getElem? found)
  have noConnected {id : ThreadId} {thread : ConnectedThread}
      (found : worker.connectedThreads[id]? = some thread) :
      thread.point = .finished :=
    connecteds thread (List.mem_of_getElem? found)
  obtain ⟨_, body, runs, rfl⟩ := step_runs taken
  cases runs with
  | nullUse null => exact absurd null halted.intact.not_nullUse
  | start | connect => cases quiet
  | stop =>
      rw [halted.execute_stop]
      exact .stop
  | lockWrite out =>
      have same : execute (lockWrite out) worker = worker := by
        change (if worker.mState = .stateConnected then _ else worker) = worker
        rw [if_neg (by simp [halted.idle])]
      rw [same]
      exact .lockWrite out
  | @write index writer id thread succeeds waiting =>
      cases succeeds with
      | false => exact .write false worker.posted waiting
      | true => exact .write true _ waiting
  | leaveLoop _ _ ends => simp [halted.idle] at ends
  | block found stands => exact .block found stands
  | acceptReturns device found stands opened =>
      simp [halted.serverClosed found] at opened
  | acceptThrows found stands => exact .acceptThrows found stands
  | @acceptHandle id thread socket device streams found stands =>
      have same : execute (do
            handleAccepted socket device streams
            moveAccept id .testing) worker =
          execute (do
            closeSocket socket
            moveAccept id .testing) worker := by
        have idle := halted.idle
        cases worker
        simp only at idle
        subst idle
        rfl
      rw [same]
      exact .acceptHandle streams _ found stands
  | connectReturns found stands | connectThrows found stands
  | failedToast found stands | failedStart _ found stands
  | resetConnectThread found stands | handOver _ found stands =>
      simp [noConnect found] at stands
  | readReturns _ found stands | readThrows found stands
  | lostToast found stands | lostStart _ found stands
  | restart _ found stands =>
      simp [noConnected found] at stands

/-- Without `start()` and `connect()` a halted service stays halted. -/
theorem halted_step (halted : Halted worker) (quiet : label.begins = false)
    (taken : step worker label = some next) : Halted next := by
  have winds := halted.winds quiet taken
  have succeeds : CallsSucceed worker label := by
    cases winds with
    | acceptHandle => simp [CallsSucceed, halted.idle]
    | _ => trivial
  refine ⟨intact_step halted.intact succeeds taken,
    housekeeping_step halted.keeping taken, ?_, ?_⟩
  · cases winds <;> exact halted.idle
  · cases winds <;> exact halted.unattended

theorem halted_of_follow (halted : Halted worker) {labels : List Step}
    (quiet : ∀ label ∈ labels, label.begins = false)
    (run : follow step worker labels = some next) : Halted next :=
  invariant_of_follow step
    (fun _ _ _ halted quiet taken => halted_step halted quiet taken)
    halted quiet run

section Stopping

variable (intact : Intact worker) (taken : step worker .stop = some next)
include intact taken

theorem intact_stop : Intact next := by
  have succeeds : CallsSucceed worker .stop := trivial
  exact intact_step intact succeeds taken

/-- `stop()` moves no thread. -/
theorem Stable.stop {property : Worker → Prop}
    (stable : Stable (fun _ => True) property) (holds : property worker) :
    property next := by
  have running := (intact_stop intact taken).running
  obtain ⟨_, body, runs, rfl⟩ := step_runs taken
  cases runs with
  | nullUse null => exact absurd null intact.not_nullUse
  | stop =>
      exact returned_of_running (stable.lasting.stop.atState holds) running

theorem view_stop : next.view = worker.view.stop :=
  view_of_step intact.anyValid False.elim taken
    (intact_stop intact taken).running

end Stopping

theorem halted_stop (intact : Intact worker) (keeping : Housekeeping worker)
    (unattended : worker.Unattended)
    (taken : step worker .stop = some next) : Halted next := by
  have view := view_stop intact taken
  refine ⟨intact_stop intact taken, housekeeping_step keeping taken,
    congrArg View.mState view, ?_, ?_⟩
  · intro thread mem
    obtain ⟨id, found⟩ := List.mem_iff_getElem?.mp mem
    have count : next.connectThreads.length = worker.connectThreads.length :=
      congrArg View.connectCount view
    have bound := count ▸ (List.getElem?_eq_some_iff.mp found).1
    have before := List.getElem?_eq_getElem bound
    obtain ⟨thread', found', _, stands⟩ := Stable.stop intact taken
      (stable_connectAt id _ .finished)
      ⟨_, before, rfl, unattended.1 _ (List.mem_of_getElem? before)⟩
    rw [found] at found'
    cases found'
    exact stands
  · intro thread mem
    obtain ⟨id, found⟩ := List.mem_iff_getElem?.mp mem
    have count :
        next.connectedThreads.length = worker.connectedThreads.length :=
      congrArg View.connectedCount view
    have bound := count ▸ (List.getElem?_eq_some_iff.mp found).1
    have before := List.getElem?_eq_getElem bound
    obtain ⟨thread', found', stands⟩ := Stable.stop intact taken
      (stable_connectedAt id .finished)
      ⟨_, before, unattended.2 _ (List.mem_of_getElem? before)⟩
    rw [found] at found'
    cases found'
    exact stands

theorem intact_of_follow {labels : List Step}
    (succeeds : EveryStep step (fun before label _ => CallsSucceed before label)
      Worker.initial labels)
    (run : follow step Worker.initial labels = some worker) : Intact worker :=
  invariant_of_everyStep step
    (fun _ _ _ intact calls taken => intact_step intact calls taken)
    intact_initial succeeds run

/-- If all sockets and streams asked for could be created, `stop()` is final
exactly if no connect or connected thread is left: otherwise the threads of the
service, without another call by the activity, can take it back to work. -/
theorem stop_final_iff {labels : List Step}
    (succeeds : EveryStep step (fun before label _ => CallsSucceed before label)
      Worker.initial labels)
    (run : follow step Worker.initial labels = some worker)
    (taken : step worker .stop = some next) :
    ¬ Revives next ↔ worker.Unattended := by
  have intact := intact_of_follow succeeds run
  have nextIntact := intact_stop intact taken
  constructor
  · intro final
    constructor
    · intro thread mem
      by_contra unfinished
      obtain ⟨id, found⟩ := List.mem_iff_getElem?.mp mem
      obtain ⟨socket, stored⟩ := Option.ne_none_iff_exists'.mp
        (intact.valid.sound.outgoing trivial thread mem)
      have isAt := Stable.stop intact taken (stable_connectAt id _ _)
        ⟨thread, found, stored, rfl⟩
      exact final (revives_of_connectAt nextIntact isAt unfinished)
    · intro thread mem
      by_contra unfinished
      obtain ⟨id, found⟩ := List.mem_iff_getElem?.mp mem
      have isAt := Stable.stop intact taken (stable_connectedAt id _)
        ⟨thread, found, rfl⟩
      exact final (revives_of_connectedAt nextIntact isAt unfinished)
  · rintro unattended ⟨more, last, quiet, rest, awake⟩
    have halted := halted_stop intact (housekeeping_of_follow run) unattended
      taken
    exact awake (halted_of_follow halted quiet rest).idle

/-- After `stop()` the thread of a lost connection still calls `start()`. -/
theorem stop_final_iff_lost :
    ∃ worker next, follow step Worker.initial
        [.start ⟨true, true⟩, .acceptTest 0, .acceptReturns 0 (.unnamed 49),
          .acceptHandle 0 ⟨true, true⟩, .readThrows 0] = some worker ∧
      step worker .stop = some next ∧
      (¬ Revives next ↔ worker.Unattended) := by
  have run : follow step Worker.initial
      [.start ⟨true, true⟩, .acceptTest 0, .acceptReturns 0 (.unnamed 49),
        .acceptHandle 0 ⟨true, true⟩, .readThrows 0] = some _ := rfl
  refine ⟨_, _, run, rfl, stop_final_iff ?_ run rfl⟩
  simp [EveryStep, CallsSucceed]

end Final

section WindingDown

variable {worker next : Worker} {label : Step}

/-- The calls made from outside the service. -/
def Step.isCall : Step → Bool
  | .start _ | .connect _ _ _ | .stop | .lockWrite _ => true
  | _ => false

theorem Step.begins_of_isCall (own : label.isCall = false) :
    label.begins = false := by
  cases label with
  | start | connect => cases own
  | _ => rfl

/-- The steps an accept thread of a halted service still takes. -/
def AcceptPoint.remaining : AcceptPoint → Nat
  | .accepted _ _ => 3
  | .testing => 2
  | .accepting => 1
  | .finished => 0

/-- The steps still taken by the threads of a halted service. -/
def Worker.remaining (worker : Worker) : Nat :=
  (worker.acceptThreads.map (·.point.remaining)).sum + worker.writers.length

theorem sum_map_modify {Entry : Type} {entries : List Entry}
    (weight : Entry → Nat) (update : Entry → Entry) {index : Nat}
    {entry : Entry} (found : entries[index]? = some entry) :
    ((entries.modify index update).map weight).sum + weight entry =
      (entries.map weight).sum + weight (update entry) := by
  induction entries generalizing index with
  | nil => simp at found
  | cons first rest ih =>
      cases index with
      | zero =>
          obtain rfl : first = entry := by simpa using found
          simp
          omega
      | succ index =>
          have later := ih (by simpa using found)
          simp
          omega

/-- Moving one accept thread changes the remaining steps by its own. -/
theorem remaining_moveAccept {id : ThreadId} {thread : AcceptThread}
    (found : worker.acceptThreads[id]? = some thread) (point : AcceptPoint)
    (nearer : point.remaining < thread.point.remaining) :
    ((worker.acceptThreads.modify id fun old =>
        { old with point := point }).map (·.point.remaining)).sum +
      worker.writers.length < worker.remaining := by
  have changes := sum_map_modify (fun thread : AcceptThread =>
    thread.point.remaining) (fun old => { old with point := point }) found
  simp only at changes
  unfold Worker.remaining
  omega

theorem Winds.remaining_lt (winds : Winds worker label next)
    (own : label.isCall = false) : next.remaining < worker.remaining := by
  cases winds with
  | stop | lockWrite => cases own
  | write succeeds posted waiting =>
      have bound := (List.getElem?_eq_some_iff.mp waiting).1
      simp only [Worker.remaining, List.length_eraseIdx_of_lt bound]
      omega
  | block found stands =>
      exact remaining_moveAccept found .accepting
        (by simp [stands, AcceptPoint.remaining])
  | acceptThrows found stands =>
      exact remaining_moveAccept found .finished
        (by simp [stands, AcceptPoint.remaining])
  | acceptHandle streams sockets found stands =>
      exact remaining_moveAccept found .testing
        (by simp [stands, AcceptPoint.remaining])

theorem remaining_le (worker : Worker) :
    worker.remaining ≤ 3 * worker.acceptThreads.length +
      worker.writers.length := by
  have each (thread : AcceptThread) : thread.point.remaining ≤ 3 := by
    cases thread.point <;> simp [AcceptPoint.remaining]
  have all (threads : List AcceptThread) :
      (threads.map (·.point.remaining)).sum ≤ 3 * threads.length := by
    induction threads with
    | nil => simp
    | cons thread threads ih =>
        have first := each thread
        simp only [List.map_cons, List.sum_cons, List.length_cons]
        omega
  have accepts := all worker.acceptThreads
  unfold Worker.remaining
  omega

/-- In a halted service no accept thread and no caller of `write` is stuck. -/
theorem Halted.exists_step (halted : Halted worker)
    (left : (∃ thread ∈ worker.acceptThreads, thread.point ≠ .finished) ∨
      worker.writers ≠ []) :
    ∃ label, label.isCall = false ∧ (step worker label).isSome := by
  have running := halted.intact.running
  rcases left with ⟨thread, mem, unfinished⟩ | waiting
  · obtain ⟨id, found⟩ := List.mem_iff_getElem?.mp mem
    cases stands : thread.point with
    | finished => exact absurd stands unfinished
    | testing =>
        refine ⟨.acceptTest id, rfl, ?_⟩
        simp [step, bodyOf, acceptBody, found, stands, halted.idle,
          halted.serverClosed found, running]
    | accepting =>
        refine ⟨.acceptThrows id, rfl, ?_⟩
        simp [step, bodyOf, acceptBody, found, stands, running]
    | accepted socket device =>
        refine ⟨.acceptHandle id ⟨true, true⟩, rfl, ?_⟩
        simp [step, bodyOf, acceptBody, found, stands, running]
  · obtain ⟨writer, rest, same⟩ := List.exists_cons_of_ne_nil waiting
    refine ⟨.performWrite 0 true, rfl, ?_⟩
    simp [step, bodyOf, same, running]

/-- Once the threads of a halted service have ended, all sockets are
closed. -/
theorem Halted.closed (halted : Halted worker)
    (ended : ∀ thread ∈ worker.acceptThreads, thread.point = .finished)
    {socket : SocketId} (created : socket < worker.sockets.length) :
    worker.Closed socket := by
  rcases halted.keeping.accounted halted.intact.running socket created with
    closed | ⟨id, device, thread, found, stands⟩ |
    ⟨id, point, ⟨thread, found, _, stands⟩, holds⟩ | ⟨id, owned⟩
  · exact closed
  · rw [ended thread (List.mem_of_getElem? found)] at stands
    cases stands
  · rw [halted.unattended.1 thread (List.mem_of_getElem? found)] at stands
    rw [← stands] at holds
    cases holds
  · refine halted.keeping.closed_of_not_current halted.intact.running owned ?_
    rw [halted.fields.2.2.2]
    exact nofun

/-- If all sockets and streams asked for could be created, the threads of the
service end by themselves after a final `stop()`: each accept thread takes at
most three more steps and each caller of `write` one.  When no step is left,
all threads have returned and all sockets are closed. -/
theorem threads_end_after_stop {labels more : List Step} {last : Worker}
    (succeeds : EveryStep step (fun before label _ => CallsSucceed before label)
      Worker.initial labels)
    (run : follow step Worker.initial labels = some worker)
    (unattended : worker.Unattended)
    (taken : step worker .stop = some next)
    (own : ∀ label ∈ more, label.isCall = false)
    (rest : follow step next more = some last) :
    more.length ≤ 3 * worker.acceptThreads.length + worker.writers.length ∧
      ((∀ label, label.isCall = false → step last label = none) →
        (∀ thread ∈ last.acceptThreads, thread.point = .finished) ∧
          last.Unattended ∧ last.writers = [] ∧
          ∀ socket < last.sockets.length, last.Closed socket) := by
  have intact := intact_of_follow succeeds run
  have halted := halted_stop intact (housekeeping_of_follow run) unattended
    taken
  have lastHalted := halted_of_follow halted
    (fun label mem => Step.begins_of_isCall (own label mem)) rest
  constructor
  · have accepts : next.acceptThreads.length = worker.acceptThreads.length :=
      congrArg View.acceptCount (view_stop intact taken)
    have writers : next.writers = worker.writers :=
      writers_of_step rfl taken
    rw [← accepts, ← writers]
    refine le_trans ?_ (remaining_le next)
    refine length_le_of_follow step ?_ halted own rest
    intro state label after halted own taken
    have quiet := Step.begins_of_isCall own
    exact ⟨halted_step halted quiet taken,
      (halted.winds quiet taken).remaining_lt own⟩
  · intro stuck
    have ended : ¬ ((∃ thread ∈ last.acceptThreads, thread.point ≠ .finished) ∨
        last.writers ≠ []) := by
      intro left
      obtain ⟨label, own, enabled⟩ := lastHalted.exists_step left
      simp [stuck label own] at enabled
    push Not at ended
    exact ⟨ended.1, lastHalted.unattended, ended.2,
      fun socket => lastHalted.closed ended.1⟩

/-- A connection accepted before `stop()` is closed after it, and the accept
thread returns from its next `accept()`. -/
theorem threads_end_after_stop_accepted :
    ∃ worker next last, follow step Worker.initial
        [.start ⟨true, true⟩, .acceptTest 0,
          .acceptReturns 0 (.unnamed 49)] = some worker ∧
      step worker .stop = some next ∧
      follow step next [.acceptHandle 0 ⟨true, true⟩, .acceptTest 0,
        .acceptThrows 0, .acceptTest 1, .acceptThrows 1] = some last ∧
      5 ≤ 3 * worker.acceptThreads.length + worker.writers.length ∧
      ((∀ label, label.isCall = false → step last label = none) →
        (∀ thread ∈ last.acceptThreads, thread.point = .finished) ∧
          last.Unattended ∧ last.writers = [] ∧
          ∀ socket < last.sockets.length, last.Closed socket) := by
  have run : follow step Worker.initial
      [.start ⟨true, true⟩, .acceptTest 0, .acceptReturns 0 (.unnamed 49)] =
      some _ := rfl
  refine ⟨_, _, _, run, rfl, rfl, @threads_end_after_stop _ _ _
    [.acceptHandle 0 ⟨true, true⟩, .acceptTest 0, .acceptThrows 0,
      .acceptTest 1, .acceptThrows 1] _ ?_ run ?_ rfl ?_ rfl⟩
  · simp [EveryStep, CallsSucceed]
  · constructor <;> (intro thread mem; cases mem)
  · simp [Step.isCall]

end WindingDown

section Recovery

variable {worker next : Worker} {id : ThreadId} {socket : SocketId}

/-- The socket exists and is open. -/
def Worker.Usable (worker : Worker) (socket : SocketId) : Prop :=
  ∃ found, worker.sockets[socket]? = some found ∧ found.closed = false

theorem Worker.Usable.not_closed (usable : worker.Usable socket) :
    ¬ worker.Closed socket := by
  rintro ⟨found, here, closed⟩
  obtain ⟨found', here', opened⟩ := usable
  rw [here] at here'
  cases here'
  rw [closed] at opened
  cases opened

/-- `connect()` gives its thread a socket that is new and open. -/
theorem connect_usable (device : BluetoothDevice) (secure : Bool) :
    Triple (fun state => state = worker) (connect device secure true)
      (fun _ next => ∃ id socket, worker.sockets.length ≤ socket ∧
        next.ConnectAt id (some socket) .connecting ∧ next.Usable socket)
      fun _ => True := by
  have lasting : Lasting (fun _ => True) fun state =>
      worker.sockets.length ≤ state.sockets.length :=
    (stable_socketCount _).lasting
  have dropPending : Preserves (fun state =>
      worker.sockets.length ≤ state.sockets.length)
      dropPendingConnectThread := by
    refine triple_get_keep fun _ => ?_
    split
    · exact lasting.dropConnectThread
    · exact preserves_pure
  refine triple_bind (dropPending.weaken (fun _ same => same ▸ le_rfl)
    (fun _ _ enough => enough) fun _ _ => trivial) fun _ => ?_
  refine triple_bind (lasting.dropConnectedThread.weaken (fun _ here => here)
    (fun _ _ enough => enough) fun _ _ => trivial) fun _ => ?_
  refine triple_modify_bind fun state enough => triple_modify_bind ?_
  rintro _ rfl
  refine triple_modify ?_
  rintro _ rfl
  exact ⟨state.connectThreads.length, state.sockets.length, enough,
    ⟨_, List.getElem?_concat_length, rfl, rfl⟩,
    ⟨_, List.getElem?_concat_length, rfl⟩⟩

/-- Dropping an accept thread closes no connection. -/
theorem dropAccept_usable {field : Worker → Option ThreadId}
    {clear : Worker → Worker}
    (clears : ∀ state, (clear state).sockets = state.sockets) :
    Triple (Worker.Usable · socket) (dropThread field cancelAccept clear)
      (fun _ => (Worker.Usable · socket)) fun _ => True := by
  refine triple_get_bind fun state usable => ?_
  split
  · refine triple_pure ?_
    rintro _ rfl
    exact usable
  · next id _ =>
      have cancels : Triple (fun now => now = state) (cancelAccept id)
          (fun _ => (Worker.Usable · socket)) fun _ => True := by
        refine triple_modify_bind ?_
        rintro _ rfl
        refine triple_get_bind ?_
        rintro _ rfl
        split
        · exact triple_throw fun _ _ => trivial
        · refine triple_modify ?_
          rintro _ rfl
          exact usable
      refine triple_bind cancels fun _ => triple_modify fun now usable => ?_
      unfold Worker.Usable
      rw [clears]
      exact usable

theorem dropThread_absent {property : Worker → Prop}
    {field : Worker → Option ThreadId} {cancel : ThreadId → Body Unit}
    {clear : Worker → Worker}
    (absent : ∀ state, property state → field state = none) :
    Triple property (dropThread field cancel clear) (fun _ => property)
      fun _ => True := by
  refine triple_get_bind fun state holds => ?_
  rw [absent state holds]
  refine triple_pure ?_
  rintro _ rfl
  exact holds

/-- `connected()` closes no socket if there is no attempt and no connection
to drop. -/
theorem connected_usable (noConnect : worker.mConnectThread = none)
    (noConnected : worker.mConnectedThread = none)
    (usable : worker.Usable socket) (handed : SocketId)
    (device : BluetoothDevice) (streams : Streams) :
    Triple (fun state => state = worker) (connected handed device streams)
      (fun _ => (Worker.Usable · socket)) fun _ => True := by
  have dropsConnect : Triple (fun state => state = worker) dropConnectThread
      (fun _ state => state = worker) fun _ => True :=
    dropThread_absent fun state same => same ▸ noConnect
  have dropsConnected : Triple (fun state => state = worker)
      dropConnectedThread (fun _ state => state = worker) fun _ => True :=
    dropThread_absent fun state same => same ▸ noConnected
  have drops : Triple (fun state => state = worker) dropAllThreads
      (fun _ => (Worker.Usable · socket)) fun _ => True := by
    refine triple_bind dropsConnect fun _ =>
      triple_bind dropsConnected fun _ => ?_
    refine triple_bind ((dropAccept_usable fun _ => by rfl).atState usable)
      fun _ => ?_
    exact dropAccept_usable fun _ => by rfl
  refine triple_bind drops fun _ => triple_modify_bind fun state usable => ?_
  refine triple_modify_bind ?_
  rintro _ rfl
  refine triple_modify_bind ?_
  rintro _ rfl
  refine triple_modify ?_
  rintro _ rfl
  exact usable

theorem sockets_connectReturns
    (taken : step worker (.connectReturns id) = some next) :
    next.sockets = worker.sockets := by
  obtain ⟨_, body, runs, rfl⟩ := step_runs taken
  cases runs <;> rfl

theorem sockets_resetConnectThread
    (taken : step worker (.resetConnectThread id) = some next) :
    next.sockets = worker.sockets := by
  obtain ⟨_, body, runs, rfl⟩ := step_runs taken
  cases runs <;> rfl

/-- Handing over an open socket while there is no connection. -/
theorem handOver_usable {streams : Streams} (intact : Intact worker)
    (noConnect : worker.mConnectThread = none)
    (noConnected : worker.mConnectedThread = none)
    (isAt : worker.ConnectAt id (some socket) .handingOver)
    (usable : worker.Usable socket)
    (taken : step worker (.handOver id streams) = some next)
    (running : next.crashed = false) :
    next.ConnectionOn worker.connectedThreads.length socket ∧
      next.Usable socket := by
  obtain ⟨thread, found, stored, _⟩ := isAt
  obtain ⟨_, body, runs, rfl⟩ := step_runs taken
  cases runs with
  | nullUse null => exact absurd null intact.not_nullUse
  | handOver streams found' _ stored' =>
      rw [found] at found'
      cases found'
      rw [stored] at stored'
      cases stored'
      suffices reaches : Triple (fun state => state = worker) (do
            connected socket thread.mmDevice streams
            moveConnect id .finished)
          (fun _ next =>
            next.ConnectionOn worker.connectedThreads.length socket ∧
              next.Usable socket) fun _ => True from
        returned_of_running reaches running
      have adds := connected_adds intact.invariant.toTracked socket
        thread.mmDevice streams
      have keeps := connected_usable noConnect noConnected usable socket
        thread.mmDevice streams
      refine triple_bind ((adds.and keeps).weaken (fun _ same => same)
        (fun _ _ both => both) fun _ _ => trivial) fun _ => triple_modify ?_
      rintro state ⟨record, stillUsable⟩
      exact ⟨⟨_, record, rfl⟩, stillUsable⟩

/-- No state reached while all sockets and streams asked for could be created
is a dead end.  Whatever the threads of earlier attempts and connections are
at, a call of `connect` and the next steps of its thread lead to a connection
on a new, open socket. -/
theorem can_connect_again {labels : List Step}
    (succeeds : EveryStep step (fun before label _ => CallsSucceed before label)
      Worker.initial labels)
    (run : follow step Worker.initial labels = some worker)
    (device : BluetoothDevice) (secure : Bool) :
    ∃ id socket last,
      follow step worker [.connect device secure true, .connectReturns id,
        .resetConnectThread id, .handOver id ⟨true, true⟩] = some last ∧
      last.mState = .stateConnected ∧ worker.sockets.length ≤ socket ∧
      last.Serving socket ∧ ¬ last.Closed socket := by
  have intact := intact_of_follow succeeds run
  -- `connect` creates the thread and its socket
  obtain ⟨first, called, firstIntact, firstView⟩ :=
    intact.exists_step (.connect device secure true) rfl rfl
  obtain ⟨id, socket, fresh, isConnecting, usable⟩ :
      ∃ id socket, worker.sockets.length ≤ socket ∧
        first.ConnectAt id (some socket) .connecting ∧
        first.Usable socket := by
    have running := firstIntact.running
    obtain ⟨_, body, runs, rfl⟩ := step_runs called
    cases runs with
    | nullUse null => cases null
    | connect => exact returned_of_running (connect_usable device secure) running
  -- the socket is open, so that its `connect()` may return
  obtain ⟨second, returned, secondIntact, secondView⟩ :=
    firstIntact.exists_step (.connectReturns id) (by
      obtain ⟨thread, found, stored, stands⟩ := isConnecting
      obtain ⟨entry, there, opened⟩ := usable
      simp [bodyOf, connectBody, found, stands, stored, there, opened]
      rfl) trivial
  have isResetting : second.ConnectAt id (some socket) .resetting :=
    connectAt_of_move isConnecting rfl returned secondIntact.running
  obtain ⟨third, reset, thirdIntact, thirdView⟩ :=
    secondIntact.exists_step (.resetConnectThread id) (by
      obtain ⟨thread, found, stored, stands⟩ := isResetting
      simp [bodyOf, connectBody, found, stands]
      rfl) trivial
  have isHandingOver : third.ConnectAt id (some socket) .handingOver :=
    connectAt_of_move isResetting rfl reset thirdIntact.running
  have stillUsable : third.Usable socket := by
    unfold Worker.Usable
    rw [sockets_resetConnectThread reset, sockets_connectReturns returned]
    exact usable
  -- the earlier connection has been dropped by `connect`
  have noConnect : third.mConnectThread = none :=
    congrArg View.mConnectThread thirdView
  have noConnected : third.mConnectedThread = none := by
    have same : third.mConnectedThread = second.mConnectedThread :=
      congrArg View.mConnectedThread thirdView
    have before : second.mConnectedThread = first.mConnectedThread :=
      congrArg View.mConnectedThread secondView
    rw [same, before]
    exact congrArg View.mConnectedThread firstView
  have stays := isHandingOver
  obtain ⟨thread, found, stored, stands⟩ := stays
  obtain ⟨last, handed, lastIntact, lastView⟩ :=
    thirdIntact.exists_step (.handOver id ⟨true, true⟩)
      (by simp [bodyOf, connectBody, found, stands, stored]; rfl) rfl
  obtain ⟨owned, lastUsable⟩ := handOver_usable thirdIntact noConnect
    noConnected isHandingOver stillUsable handed lastIntact.running
  refine ⟨id, socket, last, ?_, congrArg View.mState lastView, fresh,
    ⟨third.connectedThreads.length, ?_, owned⟩, lastUsable.not_closed⟩
  · simp [follow, called, returned, reset, handed]
  · exact congrArg View.mConnectedThread lastView

/-- The connection of an accepted device can be replaced, here after its
thread has noticed the loss. -/
theorem can_connect_again_after_loss :
    ∃ worker, follow step Worker.initial
        [.start ⟨true, true⟩, .acceptTest 0, .acceptReturns 0 (.unnamed 49),
          .acceptHandle 0 ⟨true, true⟩, .readThrows 0] = some worker ∧
      ∃ id socket last,
        follow step worker [.connect (.unnamed 50) true true,
          .connectReturns id, .resetConnectThread id,
          .handOver id ⟨true, true⟩] = some last ∧
        last.mState = .stateConnected ∧ worker.sockets.length ≤ socket ∧
        last.Serving socket ∧ ¬ last.Closed socket := by
  have run : follow step Worker.initial
      [.start ⟨true, true⟩, .acceptTest 0, .acceptReturns 0 (.unnamed 49),
        .acceptHandle 0 ⟨true, true⟩, .readThrows 0] = some _ := rfl
  refine ⟨_, run, can_connect_again ?_ run (.unnamed 50) true⟩
  simp [EveryStep, CallsSucceed]

end Recovery

end WorkerClass

end MightyMouse

import MightyMouse.WorkerClassInvariant

/-!
# Failed socket-creating calls

The constructors of the thread objects catch the `IOException` of a
socket-creating call and go on with a null socket or stream.  This file shows
that the service survives such a failure in no case: whenever one of the calls
has failed, some later step dereferences the null, and it does not take
another failure to get there.  If no call fails, nothing is ever null.
-/

namespace MightyMouse

namespace WorkerClass

open StatefulBody LabelledRun

/-- The socket-creating calls that the step really makes all succeed.
`start()` makes one for each accept field that is null, and `connected()` is
called by an accept thread in two states only. -/
def CallsSucceed (worker : Worker) : Step → Prop
  | .start listens | .failedStart _ listens | .lostStart _ listens
  | .restart _ listens =>
      (worker.mSecureAcceptThread = none → listens.secure = true) ∧
        (worker.mInsecureAcceptThread = none → listens.insecure = true)
  | .connect _ _ creates => creates = true
  | .acceptHandle _ streams =>
      worker.mState = .stateListen ∨ worker.mState = .stateConnecting →
        streams = ⟨true, true⟩
  | .handOver _ streams => streams = ⟨true, true⟩
  | _ => True

section Answers

/-- The step with all its answers positive. -/
def Step.succeeding : Step → Step
  | .start _ => .start ⟨true, true⟩
  | .failedStart id _ => .failedStart id ⟨true, true⟩
  | .lostStart id _ => .lostStart id ⟨true, true⟩
  | .restart id _ => .restart id ⟨true, true⟩
  | .connect device secure _ => .connect device secure true
  | .acceptHandle id _ => .acceptHandle id ⟨true, true⟩
  | .handOver id _ => .handOver id ⟨true, true⟩
  | label => label

theorem creates_succeeding (label : Step) : label.succeeding.Creates := by
  cases label <;> simp [Step.succeeding, Step.Creates]

variable {worker : Worker} {label : Step}

theorem startAcceptThread_congr {secure answer other : Bool}
    (same : worker.acceptThread secure = none → answer = other) :
    startAcceptThread secure answer worker =
      startAcceptThread secure other worker := by
  by_cases absent : worker.acceptThread secure = none
  · rw [same absent]
  · change EStateM.Result.ok PUnit.unit _ = EStateM.Result.ok PUnit.unit _
    simp only [absent, if_false]

/-- The statements of `start()` before it creates accept threads. -/
def listenAgain : Body Unit := do
  dropConnectThread
  dropConnectedThread
  setState .stateListen

theorem start_eq_listenAgain (listens : Listens) :
    start listens = (do
      listenAgain
      startSecureAcceptThread listens.secure
      startInsecureAcceptThread listens.insecure) := by
  simp only [start, listenAgain, bind_assoc]

theorem listenAgain_keeps (tracked : worker.view.Tracked) :
    Triple (fun state => state = worker) listenAgain
      (fun _ state => state.acceptThread = worker.acceptThread)
      fun _ => True := by
  have refines : Refines Set.univ worker.view _ listenAgain :=
    (refines_dropConnectThread tracked (Set.subset_univ _)).andThen
      ((refines_dropConnectedThread tracked.dropConnect).andThen
        (refines_setState .stateListen))
  apply (refines.atState rfl).weaken
  · exact fun _ same => same
  · exact fun _ _ view => congrArg View.acceptThread view
  · exact fun _ _ => trivial

/-- The answers of calls that are not made do not matter. -/
theorem start_congr (tracked : worker.view.Tracked) {listens other : Listens}
    (secure : worker.mSecureAcceptThread = none →
      listens.secure = other.secure)
    (insecure : worker.mInsecureAcceptThread = none →
      listens.insecure = other.insecure) :
    start listens worker = start other worker := by
  rw [start_eq_listenAgain, start_eq_listenAgain]
  apply bind_congr_of_triple (listenAgain_keeps tracked) rfl
  intro _ waiting same
  have first : waiting.acceptThread true = none →
      listens.secure = other.secure := by
    rw [same]
    exact secure
  rw [startSecureAcceptThread, startSecureAcceptThread,
    bind_congr_left (startAcceptThread_congr first)]
  have starts : Refines Set.univ waiting.view _
      (startAcceptThread true other.secure) :=
    refines_startAcceptThread true other.secure
  apply bind_congr_of_triple starts rfl
  intro _ next view
  apply startAcceptThread_congr
  have still : next.acceptThread false = waiting.acceptThread false :=
    congrFun (congrArg View.acceptThread view) false
  rw [still, same]
  exact insecure

/-- An accept thread asks for streams only if it calls `connected()`. -/
theorem handleAccepted_congr {socket : SocketId} {device : BluetoothDevice}
    {streams other : Streams}
    (same : worker.mState = .stateListen ∨ worker.mState = .stateConnecting →
      streams = other) :
    handleAccepted socket device streams worker =
      handleAccepted socket device other worker := by
  by_cases ready : worker.mState = .stateListen ∨
      worker.mState = .stateConnecting
  · rw [same ready]
  have reads : Triple (fun state : Worker => state = worker)
      (get : Body Worker) (fun seen _ => seen = worker) fun _ => False := by
    intro state here
    exact here
  apply bind_congr_of_triple reads rfl
  intro seen state isSeen
  subst isSeen
  cases here : seen.mState with
  | stateListen => exact absurd (Or.inl here) ready
  | stateConnecting => exact absurd (Or.inr here) ready
  | stateNone => rfl
  | stateConnected => rfl

theorem execute_congr {body other : Body Unit} (same : body worker = other worker) :
    execute body worker = execute other worker := by
  unfold execute
  rw [same]

/-- The body of a step of a connect thread that calls `start()`, and of two
steps of a connected thread. -/
theorem startThen_congr (tracked : worker.view.Tracked) {listens : Listens}
    (called : (worker.mSecureAcceptThread = none → listens.secure = true) ∧
      (worker.mInsecureAcceptThread = none → listens.insecure = true))
    (update : Worker → Worker) :
    execute (do start ⟨true, true⟩; modify update) worker =
      execute (do start listens; modify update) worker := by
  apply execute_congr
  apply bind_congr_left
  apply start_congr tracked
  · exact fun absent => (called.1 absent).symm
  · exact fun absent => (called.2 absent).symm

/-- If all calls that a step makes succeed, its answers may be taken to be
positive. -/
theorem step_succeeding (tracked : worker.view.Tracked)
    (succeeds : CallsSucceed worker label) :
    step worker label.succeeding = step worker label := by
  have bodies : (bodyOf worker label.succeeding).map (execute · worker) =
      (bodyOf worker label).map (execute · worker) := by
    cases label with
    | start listens =>
        apply congrArg some
        apply execute_congr
        apply start_congr tracked
        · exact fun absent => (succeeds.1 absent).symm
        · exact fun absent => (succeeds.2 absent).symm
    | connect device secure creates =>
        obtain rfl : creates = true := succeeds
        rfl
    | handOver id streams =>
        obtain rfl : streams = ⟨true, true⟩ := succeeds
        rfl
    | acceptHandle id streams =>
        simp only [Step.succeeding, bodyOf]
        cases worker.acceptThreads[id]? with
        | none => rfl
        | some thread =>
            simp only [Option.bind_some, acceptBody]
            split
            · apply congrArg some
              apply execute_congr
              apply bind_congr_left
              exact handleAccepted_congr fun ready => (succeeds ready).symm
            · rfl
    | failedStart id listens =>
        simp only [Step.succeeding, bodyOf]
        cases worker.connectThreads[id]? with
        | none => rfl
        | some thread =>
            simp only [Option.bind_some, connectBody]
            split
            · exact congrArg some (startThen_congr tracked succeeds _)
            · rfl
    | lostStart id listens | restart id listens =>
        simp only [Step.succeeding, bodyOf]
        cases worker.connectedThreads[id]? with
        | none => rfl
        | some thread =>
            simp only [Option.bind_some, connectedBody]
            split
            · exact congrArg some (startThen_congr tracked succeeds _)
            · rfl
    | _ => rfl
  unfold step
  rw [bodies]

end Answers

section Enduring

variable {worker next : Worker} {label : Step} {body : Body Unit}

/-- The flag is only set by an exception. -/
theorem runs_running (runs : Runs worker label body) :
    Preserves (fun state => state.crashed = false) body := by
  apply preserves_of_runs lasting_running _ runs
  rintro state next (_ | _ | _ | _ | _) running <;> exact running

/-- The connected thread has got both streams. -/
def Worker.OpenAt (worker : Worker) (id : ThreadId) : Prop :=
  ∃ thread, worker.connectedThreads[id]? = some thread ∧
    (thread.mmInStream = true ∧ thread.mmOutStream = true)

theorem lasting_openAt {admits : Bool → Prop} (id : ThreadId) :
    Lasting admits fun worker => worker.OpenAt id := by
  intro worker next update _ isOpen
  cases update with
  | fields same =>
      unfold Worker.OpenAt
      rwa [same.connectedThreads]
  | flagConnected other =>
      apply exists_getElem?_modify isOpen
      exact fun _ streams => streams
  | newConnected => exact exists_getElem?_append isOpen _
  | _ => exact isOpen

/-- The streams of a thread stay what its constructor has made them. -/
theorem openAt_step {id : ThreadId} (isOpen : worker.OpenAt id)
    (taken : step worker label = some next) : next.OpenAt id := by
  obtain ⟨_, body, runs, rfl⟩ := step_runs taken
  have keeps : Preserves (fun state => state.OpenAt id) body := by
    apply preserves_of_runs (lasting_openAt id) _ runs
    intro state moved move isOpen
    cases move with
    | connected other point =>
        apply exists_getElem?_modify isOpen
        exact fun _ streams => streams
    | _ => exact isOpen
  rcases execute_cases (keeps.atState isOpen) with kept | ⟨after, kept, result⟩
  · exact kept
  · rw [result]
    exact kept

end Enduring

section Throwing

variable {worker : Worker} {label : Step} {body : Body Unit}

/-- The body can only throw where it uses a null, or in a `cancel()` that
finds one. -/
def ThrowsOnNull (worker : Worker) (label : Step) (body : Body Unit) : Prop :=
  Triple (fun state => state = worker) body (fun _ _ => True)
    (fun state => NullUse worker label ∨ Struck Set.univ state)

theorem throwsOnNull_of_refines {targets : Set ThreadName} {next : View}
    (refines : Refines targets worker.view next body) :
    ThrowsOnNull worker label body := by
  apply (refines.atState rfl).weaken
  · exact fun _ same => same
  · exact fun _ _ _ => trivial
  · rintro state ⟨name, _, failed⟩
    exact Or.inr ⟨name, trivial, failed⟩

theorem ThrowsOnNull.thenModify (throws : ThrowsOnNull worker label body)
    (update : Worker → Worker) :
    ThrowsOnNull worker label (do body; modify update) :=
  triple_bind throws fun _ => triple_modify fun _ _ => trivial

theorem throwsOnNull_modify (update : Worker → Worker) :
    ThrowsOnNull worker label (modify update) :=
  triple_modify fun _ _ => trivial

theorem runs_throwsOnNull (tracked : worker.view.Tracked)
    (runs : Runs worker label body) : ThrowsOnNull worker label body := by
  cases runs with
  | nullUse null => exact triple_throw fun _ _ => Or.inl null
  | start listens => exact throwsOnNull_of_refines (refines_start tracked listens)
  | connect device secure creates =>
      exact throwsOnNull_of_refines (refines_connect tracked _ _ _)
  | stop => exact throwsOnNull_of_refines (refines_stop tracked)
  | write succeeds =>
      apply ThrowsOnNull.thenModify
      unfold shareWritten
      split
      · exact throwsOnNull_modify _
      · exact triple_pure fun _ _ => trivial
  | acceptHandle streams =>
      exact (throwsOnNull_of_refines
        (refines_handleAccepted tracked _ _ _)).thenModify _
  | failedStart listens | lostStart listens | restart listens =>
      exact (throwsOnNull_of_refines (refines_start tracked listens)).thenModify _
  | handOver streams =>
      exact (throwsOnNull_of_refines
        (refines_connected tracked _ _ _)).thenModify _
  | acceptReturns | connectThrows | failedToast | resetConnectThread
  | lostToast => exact (throwsOnNull_modify _).thenModify _
  | lockWrite | leaveLoop | block | acceptThrows | connectReturns
  | readReturns | readThrows => exact throwsOnNull_modify _

end Throwing

section Creation

variable {worker next : Worker} {label : Step} {body : Body Unit}

/-- The streams asked for by the call of `connected()` that a step makes. -/
def connectingStreams (worker : Worker) : Step → Option Streams
  | .handOver _ streams => some streams
  | .acceptHandle _ streams =>
      if worker.mState = .stateListen ∨ worker.mState = .stateConnecting then
        some streams
      else none
  | _ => none

/-- A new connected thread stands in the table after those of before. -/
def NewConnected (worker : Worker) (streams : Streams) (next : Worker) : Prop :=
  ∃ thread,
    next.connectedThreads[worker.connectedThreads.length]? = some thread ∧
      thread.mmInStream = streams.input ∧
      thread.mmOutStream = (streams.input && streams.output) ∧
      thread.point = .reading

/-- An update that leaves the table alone. -/
theorem preserves_newConnected {streams : Streams} {update : Worker → Worker}
    (same : ∀ state, (update state).connectedThreads = state.connectedThreads) :
    Preserves (NewConnected worker streams) (modify update) := by
  apply preserves_modify
  intro state created
  unfold NewConnected
  rw [same]
  exact created

/-- The record that `connected()` adds to the table. -/
theorem connected_adds (tracked : worker.view.Tracked) (socket : SocketId)
    (device : BluetoothDevice) (streams : Streams) :
    Triple (fun state => state = worker) (connected socket device streams)
      (fun _ next => next.connectedThreads[worker.connectedThreads.length]? =
        some ⟨socket, streams.input, streams.input && streams.output, false,
          .reading⟩) fun _ => True := by
  have drops : Triple (fun state => state = worker) dropAllThreads
      (fun _ state => state.connectedThreads.length =
        worker.connectedThreads.length) fun _ => True :=
    ((refines_dropAllThreads tracked).atState rfl).weaken (fun _ same => same)
      (fun _ _ view => congrArg View.connectedCount view) fun _ _ => trivial
  refine triple_bind drops fun _ => triple_modify_bind fun state sameLength => ?_
  refine triple_modify_bind ?_
  rintro _ rfl
  refine triple_modify_bind ?_
  rintro _ rfl
  refine triple_modify ?_
  rintro _ rfl
  rw [← sameLength]
  exact List.getElem?_concat_length

theorem connected_creates (tracked : worker.view.Tracked) (socket : SocketId)
    (device : BluetoothDevice) (streams : Streams) :
    Triple (fun state => state = worker) (connected socket device streams)
      (fun _ => NewConnected worker streams) fun _ => True :=
  (connected_adds tracked socket device streams).weaken (fun _ same => same)
    (fun _ _ found => ⟨_, found, rfl, rfl, rfl⟩) fun _ _ => trivial

theorem handleAccepted_creates (tracked : worker.view.Tracked)
    (ready : worker.mState = .stateListen ∨ worker.mState = .stateConnecting)
    (socket : SocketId) (device : BluetoothDevice) (streams : Streams) :
    Triple (fun state => state = worker)
      (handleAccepted socket device streams)
      (fun _ => NewConnected worker streams) fun _ => True := by
  have connects := connected_creates tracked socket device streams
  apply triple_get_bind
  intro state same
  subst same
  rcases ready with listening | connecting
  · rw [listening]
    exact connects
  · rw [connecting]
    exact connects

theorem runs_creates (tracked : worker.view.Tracked) {streams : Streams}
    (connects : connectingStreams worker label = some streams)
    (runs : Runs worker label body) :
    Triple (fun state => state = worker) body
      (fun _ => NewConnected worker streams) fun _ => True := by
  have moves {update : Worker → Worker}
      (same : ∀ state, (update state).connectedThreads = state.connectedThreads) :
      Triple (NewConnected worker streams) (modify update : Body Unit)
        (fun _ => NewConnected worker streams) fun _ => True :=
    (preserves_newConnected same).weaken (fun _ created => created)
      (fun _ _ created => created) fun _ _ => trivial
  cases runs with
  | nullUse => exact triple_throw fun _ _ => trivial
  | handOver asked =>
      obtain rfl : asked = streams := Option.some.inj connects
      exact triple_bind (connected_creates tracked _ _ _) fun _ =>
        moves fun _ => rfl
  | acceptHandle asked =>
      obtain ⟨ready, same⟩ := Option.ite_none_right_eq_some.mp connects
      obtain rfl : asked = streams := Option.some.inj same
      exact triple_bind (handleAccepted_creates tracked ready _ _ _)
        fun _ => moves fun _ => rfl
  | _ => cases connects

/-- A step adds a connected thread exactly if it calls `connected()`. -/
theorem connectedCount_after (worker : Worker) (label : Step) :
    (worker.view.after label).connectedCount =
      worker.connectedThreads.length +
        if (connectingStreams worker label).isSome then 1 else 0 := by
  cases label with
  | acceptHandle id streams =>
      have sameState : worker.view.mState = worker.mState := rfl
      dsimp only [View.after, View.handleAccepted, connectingStreams]
      rw [sameState]
      split <;> rfl
  | connect device secure creates =>
      dsimp only [View.after, View.connect]
      split <;> rfl
  | _ => rfl

end Creation

section Intact

variable {worker next : Worker} {label : Step}

/-- All sockets and streams are there, and the process runs. -/
structure Intact (worker : Worker) : Prop where
  valid : Valid True worker
  running : worker.crashed = false
  streams : ∀ id < worker.connectedThreads.length, worker.OpenAt id

theorem intact_initial : Intact Worker.initial where
  valid := valid_initial
  running := rfl
  streams := by simp [Worker.initial]

theorem Intact.invariant (intact : Intact worker) : worker.view.Invariant :=
  intact.valid.invariant (Or.inl trivial)

/-- In an intact service no step finds a null. -/
theorem Intact.not_nullUse (intact : Intact worker) :
    ¬ NullUse worker label := by
  have opened {id : ThreadId} {thread : ConnectedThread}
      (found : worker.connectedThreads[id]? = some thread) :
      thread.mmInStream = true ∧ thread.mmOutStream = true := by
    obtain ⟨thread', found', streams⟩ :=
      intact.streams id (List.getElem?_eq_some_iff.mp found).1
    rw [found] at found'
    cases found'
    exact streams
  have stored {id : ThreadId} {thread : ConnectThread}
      (found : worker.connectThreads[id]? = some thread) :
      thread.mmSocket ≠ none :=
    intact.valid.sound.outgoing trivial thread (List.mem_of_getElem? found)
  intro null
  cases null with
  | accept found _ _ missing =>
      exact intact.valid.sound.serving trivial _ (List.mem_of_getElem? found)
        missing
  | connectReturns found _ missing => exact stored found missing
  | connectThrows found _ missing => exact stored found missing
  | handOver _ found _ missing => exact stored found missing
  | readReturns _ found _ missing => simp [(opened found).1] at missing
  | readThrows found _ missing => simp [(opened found).1] at missing
  | write _ waiting missing =>
      obtain ⟨id, copied, bound⟩ :=
        intact.valid.sound.writing _ (List.mem_of_getElem? waiting)
      have found := List.getElem?_eq_getElem bound
      have closed := missing id _ copied found
      simp [(opened found).2] at closed

theorem connectingStreams_succeeding {streams : Streams}
    (connects : connectingStreams worker label.succeeding = some streams) :
    streams = ⟨true, true⟩ := by
  cases label with
  | handOver => exact (Option.some.inj connects).symm
  | acceptHandle =>
      obtain ⟨_, same⟩ := Option.ite_none_right_eq_some.mp connects
      exact (Option.some.inj same).symm
  | _ => cases connects

theorem Intact.valid_step (intact : Intact worker)
    (taken : step worker label.succeeding = some next) : Valid True next :=
  WorkerClass.valid_step intact.valid (fun _ => creates_succeeding label) taken

/-- Nothing throws in an intact service. -/
theorem Intact.running_step (intact : Intact worker)
    (taken : step worker label.succeeding = some next) :
    next.crashed = false := by
  have sound := (intact.valid_step taken).sound
  have tracked := intact.invariant.toTracked
  obtain ⟨_, body, runs, rfl⟩ := step_runs taken
  have keeps := (runs_running runs).atState intact.running
  rcases execute_cases (keeps.and (runs_throwsOnNull tracked runs)) with
    ⟨running, _⟩ | ⟨after, ⟨_, null | ⟨name, _, failed⟩⟩, result⟩
  · exact running
  · exact absurd null intact.not_nullUse
  · rw [result] at sound
    exact absurd failed (not_failedCancel sound name)

theorem Intact.streams_step (intact : Intact worker)
    (taken : step worker label.succeeding = some next)
    (id : ThreadId) (bound : id < next.connectedThreads.length) :
    next.OpenAt id := by
  have running := intact.running_step taken
  have count : next.connectedThreads.length = _ :=
    (congrArg View.connectedCount
      (view_of_step intact.valid (fun _ => creates_succeeding label) taken
        running)).trans (connectedCount_after worker label.succeeding)
  by_cases before : id < worker.connectedThreads.length
  · exact openAt_step (intact.streams id before) taken
  -- The only other thread is the one made by `connected()`.
  cases connects : connectingStreams worker label.succeeding with
  | none =>
      rw [connects] at count
      have same : next.connectedThreads.length =
          worker.connectedThreads.length := count
      exact absurd (same ▸ bound) before
  | some streams =>
      rw [connects] at count
      have upTo : id < worker.connectedThreads.length + 1 := count ▸ bound
      have last : id = worker.connectedThreads.length :=
        le_antisymm (Nat.lt_succ_iff.mp upTo) (not_lt.mp before)
      obtain rfl := connectingStreams_succeeding connects
      obtain ⟨_, body, runs, rfl⟩ := step_runs taken
      obtain ⟨thread, found, input, output, _⟩ := returned_of_running
        (runs_creates intact.invariant.toTracked connects runs) running
      rw [last]
      exact ⟨thread, found, input, output⟩

/-- A step whose calls succeed leaves the service intact. -/
theorem intact_step (intact : Intact worker)
    (succeeds : CallsSucceed worker label)
    (taken : step worker label = some next) : Intact next := by
  have positive : step worker label.succeeding = some next :=
    (step_succeeding intact.invariant.toTracked succeeds).trans taken
  exact ⟨intact.valid_step positive, intact.running_step positive,
    intact.streams_step positive⟩

end Intact

section Failure

variable {worker next : Worker} {label : Step} {body : Body Unit}

/-- Without any further failure, the process can still die. -/
def Doomed (worker : Worker) : Prop :=
  ∃ more last,
    EveryStep step (fun before label _ => CallsSucceed before label) worker
      more ∧
    follow step worker more = some last ∧ last.crashed = true

theorem step_of_nullUse (running : worker.crashed = false)
    (null : NullUse worker label) :
    step worker label = some { worker with crashed := true } := by
  have crashes : bodyOf worker label = some crash := by
    cases null with
    | accept found stands waits missing =>
        simp [bodyOf, acceptBody, found, stands, waits, missing]
    | connectReturns found stands missing
    | connectThrows found stands missing
    | handOver streams found stands missing =>
        simp [bodyOf, connectBody, found, stands, missing]
    | readReturns bytes found stands missing
    | readThrows found stands missing =>
        simp [bodyOf, connectedBody, found, stands, missing]
    | write succeeds waiting missing =>
        simp only [bodyOf, waiting, Option.map_some, writeBody]
        split
        · rfl
        · next thread here =>
            obtain ⟨id, copied, found⟩ := Option.bind_eq_some_iff.mp here
            simp [missing id thread copied found]
  simp only [step, running, crashes, Option.map_some]
  rfl

theorem doomed_of_nullUse (running : worker.crashed = false)
    (null : NullUse worker label) (succeeds : CallsSucceed worker label) :
    Doomed worker := by
  have dies := step_of_nullUse running null
  refine ⟨[label], { worker with crashed := true }, ?_, ?_, rfl⟩
  · exact fun _ _ => ⟨succeeds, trivial⟩
  · rw [follow_cons_eq_some]
    exact ⟨_, dies, rfl⟩

/-- A thread without an output stream dies of the next `write`. -/
theorem doomed_of_write (running : worker.crashed = false)
    (isConnected : worker.mState = .stateConnected) {id : ThreadId}
    {thread : ConnectedThread} (current : worker.mConnectedThread = some id)
    (found : worker.connectedThreads[id]? = some thread)
    (missing : thread.mmOutStream = false) : Doomed worker := by
  have locks : step worker (.lockWrite []) = some { worker with
      writers := worker.writers ++ [⟨worker.mConnectedThread, []⟩] } := by
    have locked : execute (lockWrite []) worker = if
        worker.mState = .stateConnected then { worker with
          writers := worker.writers ++ [⟨worker.mConnectedThread, []⟩] }
        else worker := rfl
    rw [if_pos isConnected] at locked
    simp only [step, running, bodyOf, Option.map_some, locked]
    rfl
  have null : NullUse { worker with
      writers := worker.writers ++ [⟨worker.mConnectedThread, []⟩] }
      (.performWrite worker.writers.length true) := by
    apply NullUse.write true List.getElem?_concat_length
    intro other otherThread copied otherFound
    obtain rfl : id = other := Option.some.inj (current.symm.trans copied)
    have same : thread = otherThread :=
      Option.some.inj (found.symm.trans otherFound)
    exact same ▸ missing
  have stillRunning : Worker.crashed { worker with
      writers := worker.writers ++ [⟨worker.mConnectedThread, []⟩] } = false :=
    running
  obtain ⟨more, last, succeed, run, crashed⟩ :=
    doomed_of_nullUse stillRunning null trivial
  refine ⟨.lockWrite [] :: more, last, ?_, ?_, crashed⟩
  · intro next taken
    obtain rfl := Option.some.inj (locks.symm.trans taken)
    exact ⟨trivial, succeed⟩
  · rw [follow_cons_eq_some]
    exact ⟨_, locks, run⟩

/-- An accept thread that has just been created has no server socket. -/
def Worker.LacksServer (worker : Worker) : Prop :=
  ∃ id : ThreadId, ∃ thread, worker.acceptThreads[id]? = some thread ∧
    thread.point = .testing ∧ thread.mmServerSocket = none

/-- A connect thread that has just been created has no socket. -/
def Worker.LacksSocket (worker : Worker) : Prop :=
  ∃ id : ThreadId, ∃ thread, worker.connectThreads[id]? = some thread ∧
    thread.point = .connecting ∧ thread.mmSocket = none

/-- The answers with which a step calls `start()`. -/
def startListens : Step → Option Listens
  | .start listens | .failedStart _ listens | .lostStart _ listens
  | .restart _ listens => some listens
  | _ => none

theorem lacksServer_startAcceptThread {state : Worker} {secure : Bool}
    (absent : state.acceptThread secure = none) :
    Worker.LacksServer (if state.acceptThread secure = none then
      { state.setAcceptThread secure (some state.acceptThreads.length) with
        acceptThreads := state.acceptThreads ++
          [newAcceptThread secure false] }
      else state) := by
  rw [if_pos absent]
  exact ⟨_, _, List.getElem?_concat_length, rfl, rfl⟩

/-- The last two statements of `start()`. -/
theorem startAccepts_lacksServer {listens : Listens}
    (thrown : Worker → Prop) :
    Triple
      (fun state =>
        state.acceptThread true = none ∧ listens.secure = false ∨
          state.acceptThread false = none ∧ listens.insecure = false)
      (do
        startSecureAcceptThread listens.secure
        startInsecureAcceptThread listens.insecure)
      (fun _ => Worker.LacksServer) thrown := by
  have secures : Triple
      (fun state =>
        state.acceptThread true = none ∧ listens.secure = false ∨
          state.acceptThread false = none ∧ listens.insecure = false)
      (startSecureAcceptThread listens.secure)
      (fun _ state => state.LacksServer ∨
        state.acceptThread false = none ∧ listens.insecure = false)
      thrown := by
    apply triple_modify
    rintro state (⟨absent, refused⟩ | later)
    · rw [refused]
      exact Or.inl (lacksServer_startAcceptThread absent)
    · right
      split
      · exact later
      · exact later
  refine triple_bind secures fun _ => ?_
  apply triple_modify
  rintro state (⟨id, lacks⟩ | ⟨absent, refused⟩)
  · split
    · exact ⟨id, exists_getElem?_append lacks _⟩
    · exact ⟨id, lacks⟩
  · rw [refused]
    exact lacksServer_startAcceptThread absent

theorem start_lacksServer (tracked : worker.view.Tracked) {listens : Listens}
    (fails : worker.mSecureAcceptThread = none ∧ listens.secure = false ∨
      worker.mInsecureAcceptThread = none ∧ listens.insecure = false) :
    Triple (fun state => state = worker) (start listens)
      (fun _ => Worker.LacksServer) fun _ => True := by
  rw [start_eq_listenAgain]
  refine triple_bind (listenAgain_keeps tracked) fun _ => ?_
  apply (startAccepts_lacksServer fun _ => True).weaken
  · intro state same
    rw [same]
    exact fails
  · exact fun _ _ lacks => lacks
  · exact fun _ _ => trivial

theorem runs_lacksServer (tracked : worker.view.Tracked) {listens : Listens}
    (starts : startListens label = some listens)
    (fails : worker.mSecureAcceptThread = none ∧ listens.secure = false ∨
      worker.mInsecureAcceptThread = none ∧ listens.insecure = false)
    (runs : Runs worker label body) :
    Triple (fun state => state = worker) body
      (fun _ => Worker.LacksServer) fun _ => True := by
  have started := start_lacksServer tracked fails
  cases runs with
  | nullUse => exact triple_throw fun _ _ => trivial
  | start =>
      cases starts
      exact started
  | failedStart | lostStart | restart =>
      cases starts
      exact triple_bind started fun _ => triple_modify fun _ lacks => lacks
  | _ => cases starts

theorem connect_lacksSocket (before : Worker → Prop) (device : BluetoothDevice)
    (secure : Bool) :
    Triple before (connect device secure false)
      (fun _ => Worker.LacksSocket) fun _ => True := by
  have creates : Triple (fun _ => True)
      (modify (newConnectThread device secure false) : Body Unit)
      (fun _ => Worker.LacksSocket) fun _ => True :=
    triple_modify fun state _ => ⟨state.connectThreads.length, _,
      List.getElem?_concat_length, rfl, rfl⟩
  have tells : Triple Worker.LacksSocket (setState .stateConnecting)
      (fun _ => Worker.LacksSocket) fun _ => True :=
    triple_bind (triple_modify fun _ lacks => lacks) fun _ =>
      triple_modify fun _ lacks => lacks
  exact triple_bind triple_true fun _ => triple_bind triple_true fun _ =>
    triple_bind creates fun _ => tells

theorem doomed_of_start (valid : Valid False worker)
    (taken : step worker label = some next) (running : next.crashed = false)
    {listens : Listens} (starts : startListens label = some listens)
    (fails : ¬ ((worker.mSecureAcceptThread = none → listens.secure = true) ∧
      (worker.mInsecureAcceptThread = none → listens.insecure = true))) :
    Doomed next := by
  have invariant := valid.invariant (Or.inr (crashed_of_step taken))
  have view : next.view = worker.view.start := by
    rw [view_of_step valid False.elim taken running]
    cases label <;> first | rfl | cases starts
  have listening : next.mState = .stateListen := congrArg View.mState view
  have failed : worker.mSecureAcceptThread = none ∧ listens.secure = false ∨
      worker.mInsecureAcceptThread = none ∧ listens.insecure = false := by
    simpa only [not_and_or, Classical.not_imp, Bool.not_eq_true] using fails
  obtain ⟨_, body, runs, rfl⟩ := step_runs taken
  obtain ⟨id, thread, found, stands, missing⟩ := returned_of_running
    (runs_lacksServer invariant.toTracked starts failed runs) running
  exact doomed_of_nullUse running
    (.accept found stands (by simp [listening]) missing) trivial

theorem doomed_of_connected (valid : Valid False worker)
    (taken : step worker label = some next) (running : next.crashed = false)
    {streams : Streams}
    (connects : connectingStreams worker label = some streams)
    (fails : streams ≠ ⟨true, true⟩) : Doomed next := by
  have invariant := valid.invariant (Or.inr (crashed_of_step taken))
  have view : next.view = worker.view.connected := by
    rw [view_of_step valid False.elim taken running]
    cases label with
    | handOver => rfl
    | acceptHandle =>
        exact if_pos (Option.ite_none_right_eq_some.mp connects).1
    | _ => cases connects
  obtain ⟨_, body, runs, rfl⟩ := step_runs taken
  obtain ⟨thread, found, input, output, stands⟩ := returned_of_running
    (runs_creates invariant.toTracked connects runs) running
  cases answer : streams.input with
  | false =>
      exact doomed_of_nullUse running
        (.readThrows found stands (input.trans answer)) trivial
  | true =>
      have failed : streams.output = false := by
        rw [← Bool.not_eq_true]
        intro succeeds
        exact fails (congrArg₂ Streams.mk answer succeeds)
      have missing : thread.mmOutStream = false := by
        rw [output, failed, Bool.and_false]
      exact doomed_of_write running (congrArg View.mState view)
        (congrArg View.mConnectedThread view) found missing

/-- Whichever socket-creating call has failed, a null is left behind that
kills the process. -/
theorem doomed_of_failure (valid : Valid False worker)
    (taken : step worker label = some next) (running : next.crashed = false)
    (fails : ¬ CallsSucceed worker label) : Doomed next := by
  cases label with
  | start | failedStart | lostStart | restart =>
      exact doomed_of_start valid taken running rfl fails
  | connect device secure creates =>
      obtain rfl : creates = false := eq_false_of_ne_true fails
      obtain ⟨_, body, runs, rfl⟩ := step_runs taken
      cases runs with
      | nullUse null => cases null
      | connect =>
          obtain ⟨id, thread, found, stands, missing⟩ := returned_of_running
            (connect_lacksSocket _ device secure) running
          exact doomed_of_nullUse running
            (.connectThrows found stands missing) trivial
  | handOver id streams =>
      exact doomed_of_connected valid taken running rfl fails
  | acceptHandle id streams =>
      obtain ⟨ready, failed⟩ := Classical.not_imp.mp fails
      exact doomed_of_connected valid taken running (if_pos ready) failed
  | _ => exact absurd trivial fails

end Failure

/-- After every beginning of the run, the process neither dies nor ends up
with fields that disagree unless another call fails, exactly if every
socket-creating call that the run makes succeeds. -/
theorem failures_survived_iff (labels : List Step) :
    (∀ done more last, done <+: labels →
        (∀ middle, follow step Worker.initial done = some middle →
          EveryStep step (fun before label _ => CallsSucceed before label)
            middle more) →
        follow step Worker.initial (done ++ more) = some last →
        last.crashed = false ∧ last.view.Invariant) ↔
      EveryStep step (fun before label _ => CallsSucceed before label)
        Worker.initial labels := by
  constructor
  · intro survives
    rw [everyStep_iff]
    intro early label before next begins reached taken
    have run : follow step Worker.initial (early ++ [label]) = some next :=
      (follow_concat_eq_some step).mpr ⟨before, reached, taken⟩
    have running : next.crashed = false := by
      have here := survives (early ++ [label]) [] next begins
        (fun _ _ => trivial) (by rwa [List.append_nil])
      exact here.1
    have valid : Valid False before :=
      valid_of_follow (fun _ _ => False.elim) reached
    by_contra fails
    obtain ⟨more, last, succeed, rest, crashed⟩ :=
      doomed_of_failure valid taken running fails
    have survived := survives (early ++ [label]) more last begins
      (fun middle reachedMiddle => by
        obtain rfl := Option.some.inj (run.symm.trans reachedMiddle)
        exact succeed)
      (by rw [follow_append, run]; exact rest)
    rw [survived.1] at crashed
    cases crashed
  · intro succeed done more last begins later run
    obtain ⟨rest, rfl⟩ := begins
    have every : EveryStep step
        (fun before label _ => CallsSucceed before label) Worker.initial
        (done ++ more) :=
      (everyStep_append step).mpr ⟨((everyStep_append step).mp succeed).1, later⟩
    have intact : Intact last :=
      invariant_of_everyStep step
        (fun _ _ _ before succeeds taken => intact_step before succeeds taken)
        intact_initial every run
    exact ⟨intact.running, intact.invariant⟩

/-- Without the insecure server socket, `stop()` aborts between the two accept
threads: the service is said to listen, and its secure thread is gone.  The
other calls fail in the threads that use their results. -/
theorem failed_calls_kill :
    (∃ aborted, follow step Worker.initial [.start ⟨true, false⟩, .stop] =
        some aborted ∧ aborted.crashed = true ∧
      aborted.mState = .stateListen ∧ aborted.mSecureAcceptThread = none ∧
      aborted.mInsecureAcceptThread = some 1) ∧
    (∃ dead, follow step Worker.initial
        [.start ⟨false, true⟩, .acceptTest 0] = some dead ∧
      dead.crashed = true) ∧
    (∃ dead, follow step Worker.initial
        [.connect (.unnamed 49) true false, .connectThrows 0] = some dead ∧
      dead.crashed = true) ∧
    (∃ dead, follow step Worker.initial
        [.connect (.unnamed 49) true true, .connectReturns 0,
          .resetConnectThread 0, .handOver 0 ⟨false, true⟩, .readThrows 0] =
        some dead ∧ dead.crashed = true) ∧
    ∃ dead, follow step Worker.initial
        [.connect (.unnamed 49) true true, .connectReturns 0,
          .resetConnectThread 0, .handOver 0 ⟨true, false⟩, .lockWrite [],
          .performWrite 0 true] = some dead ∧ dead.crashed = true :=
  ⟨⟨_, rfl, rfl, rfl, rfl, rfl⟩, ⟨_, rfl, rfl⟩, ⟨_, rfl, rfl⟩, ⟨_, rfl, rfl⟩,
    ⟨_, rfl, rfl⟩⟩

end WorkerClass

end MightyMouse

import MightyMouse.WorkerClassInvariant

/-!
# Does anybody listen?

An accept thread whose `accept()` throws returns, but stays in its field.
Since `start()` only creates a thread for a field that is null, nobody takes
the place of the dead one.  This file says exactly in which runs the state
`STATE_LISTEN` means that both accept threads are at work.
-/

namespace MightyMouse

namespace WorkerClass

open StatefulBody LabelledRun

section Loop

variable {admits : Bool → Prop} {worker next : Worker} {label : Step}

/-- `run()` of the accept thread has returned. -/
def Worker.Finished (worker : Worker) (id : ThreadId) : Prop :=
  worker.AcceptAt id .finished

theorem not_finished_of_at {id : ThreadId} {thread : AcceptThread}
    (found : worker.acceptThreads[id]? = some thread)
    (stands : thread.point ≠ .finished) : ¬ worker.Finished id := by
  rintro ⟨thread', found', isFinished⟩
  rw [found] at found'
  cases found'
  exact stands isFinished

theorem not_finished_of_le {id : ThreadId}
    (beyond : worker.acceptThreads.length ≤ id) : ¬ worker.Finished id := by
  rintro ⟨thread, found, _⟩
  rw [List.getElem?_eq_none beyond] at found
  cases found

theorem finished_modify_keep (id other : ThreadId)
    {update : AcceptThread → AcceptThread}
    (keeps : ∀ thread, (update thread).point = thread.point) :
    { worker with
      acceptThreads := worker.acceptThreads.modify id update }.Finished other ↔
      worker.Finished other := by
  simp only [Worker.Finished, Worker.AcceptAt, List.getElem?_modify]
  cases worker.acceptThreads[other]? with
  | none => simp
  | some thread =>
      by_cases same : id = other
      · simp [same, keeps]
      · simp [same]

/-- No method body ends a loop or revives it. -/
theorem stable_finished_iff (id : ThreadId) (was : Prop) :
    Stable admits (fun worker => worker.Finished id ↔ was) := by
  intro worker next update same
  rw [← same]
  cases update with
  | fields tables => simp only [Worker.Finished, Worker.AcceptAt, tables.acceptThreads]
  | flagAccept other =>
      apply finished_modify_keep
      exact fun _ => rfl
  | closeServer other =>
      apply finished_modify_keep
      exact fun _ => rfl
  | newAccept secure =>
      by_cases before : id < worker.acceptThreads.length
      · simp only [Worker.Finished, Worker.AcceptAt,
          List.getElem?_append_left before]
      · have beyond := not_lt.mp before
        refine iff_of_false ?_ (not_finished_of_le beyond)
        rintro ⟨thread, found, stands⟩
        rw [List.getElem?_append_right beyond] at found
        obtain rfl := List.mem_singleton.mp (List.mem_of_getElem? found)
        cases stands
  | _ => rfl

/-- Moving a thread to a point. -/
theorem finished_moveAccept {id : ThreadId} {thread : AcceptThread}
    (found : worker.acceptThreads[id]? = some thread) (point : AcceptPoint)
    (other : ThreadId) :
    { worker with
      acceptThreads := worker.acceptThreads.modify id fun old =>
        { old with point := point } }.Finished other ↔
      if other = id then point = .finished else worker.Finished other := by
  by_cases same : other = id
  · subst other
    simp [Worker.Finished, Worker.AcceptAt, found]
  · simp [Worker.Finished, Worker.AcceptAt, same,
      List.getElem?_modify_ne _ _ (Ne.symm same)]

/-- The step ends the loop of the accept thread. -/
def EndsLoop (worker : Worker) (id : ThreadId) : Step → Prop
  | .acceptThrows other => id = other
  | .acceptTest other => id = other ∧ worker.mState = .stateConnected
  | _ => False

/-- The body ends the loops that the step is said to end, also if it
throws. -/
def TracksLoops (worker : Worker) (label : Step) (body : Body Unit) : Prop :=
  ∀ id, Triple (fun state => state = worker) body
    (fun _ next => next.Finished id ↔
      worker.Finished id ∨ EndsLoop worker id label)
    (fun next => next.Finished id ↔
      worker.Finished id ∨ EndsLoop worker id label)

/-- The steps of other threads end no loop. -/
theorem tracksLoops_of_other {body : Body Unit}
    (other : label.acceptThread = none) (runs : Runs worker label body) :
    TracksLoops worker label body := by
  intro id
  have keeps (was : Prop) :
      Preserves (fun state => state.Finished id ↔ was) body := by
    apply preserves_of_runs (stable_finished_iff id was).lasting _ runs
    intro state moved move same
    cases move with
    | accept _ _ own =>
        rw [other] at own
        cases own
    | _ => exact same
  have quiet : ¬ EndsLoop worker id label := by
    cases label with
    | acceptTest | acceptThrows => cases other
    | _ => exact fun ends => ends
  apply (keeps _).atState
  rw [or_iff_left quiet]

theorem tracksLoops_moveAccept {id : ThreadId} {thread : AcceptThread}
    (found : worker.acceptThreads[id]? = some thread)
    (stands : thread.point ≠ .finished) {point : AcceptPoint}
    (ends : ∀ other, EndsLoop worker other label ↔
      other = id ∧ point = .finished) :
    TracksLoops worker label (moveAccept id point) := by
  intro other
  apply triple_modify
  intro state same
  subst same
  rw [finished_moveAccept found, ends]
  by_cases isOther : other = id
  · subst other
    simp [not_finished_of_at found stands]
  · simp [isOther]

theorem tracksLoops_acceptReturns {id : ThreadId} {thread : AcceptThread}
    (found : worker.acceptThreads[id]? = some thread)
    (stands : thread.point = .accepting) (device : BluetoothDevice) :
    TracksLoops worker (.acceptReturns id device) (do
      modify fun worker => { worker with
        sockets := worker.sockets ++ [⟨true, false⟩] }
      moveAccept id (.accepted worker.sockets.length device)) := by
  intro other
  apply triple_modify_bind
  intro state same
  subst same
  apply triple_modify
  intro moved isMoved
  subst isMoved
  have stillFound : ({ state with
      sockets := state.sockets ++ [⟨true, false⟩] } :
        Worker).acceptThreads[id]? = some thread := found
  rw [finished_moveAccept stillFound]
  by_cases isOther : other = id
  · subst other
    simp [not_finished_of_at found (by simp [stands]), EndsLoop]
  · simp [isOther, EndsLoop, Worker.Finished, Worker.AcceptAt]

theorem tracksLoops_acceptHandle {id : ThreadId} {thread : AcceptThread}
    {socket : SocketId} {device : BluetoothDevice} (streams : Streams)
    (found : worker.acceptThreads[id]? = some thread)
    (stands : thread.point = .accepted socket device) :
    TracksLoops worker (.acceptHandle id streams) (do
      handleAccepted socket device streams
      moveAccept id .testing) := by
  intro other
  have stays : Lasting (fun _ => True)
      (Worker.AcceptAt · id (.accepted socket device)) :=
    (stable_acceptAt id _).lasting
  have same : Lasting (fun _ => True)
      (fun state => state.Finished other ↔ worker.Finished other) :=
    (stable_finished_iff other _).lasting
  have handles := ((stays.handleAccepted socket device streams).atState
    ⟨thread, found, stands⟩).and
      ((same.handleAccepted socket device streams).atState Iff.rfl)
  refine triple_bind (handles.weaken (fun _ same => same) (fun _ _ both => both)
    fun state both => both.2.trans (by simp [EndsLoop])) fun _ => ?_
  apply triple_modify
  rintro state ⟨⟨thread', found', stands'⟩, same⟩
  rw [finished_moveAccept found', ← same]
  by_cases isOther : other = id
  · subst other
    have notFinished : ¬ state.Finished id :=
      not_finished_of_at found' (by simp [stands'])
    simp [notFinished, EndsLoop]
  · simp [isOther, EndsLoop]

theorem runs_tracksLoops {body : Body Unit} (runs : Runs worker label body) :
    TracksLoops worker label body := by
  by_cases other : label.acceptThread = none
  · exact tracksLoops_of_other other runs
  cases runs with
  | nullUse null =>
      cases null with
      | accept found stands waits missing =>
          intro id
          apply triple_throw
          intro state same
          subst same
          simp [EndsLoop, waits]
      | _ => exact absurd rfl other
  | leaveLoop found stands ends =>
      exact tracksLoops_moveAccept found (by simp [stands])
        (by simp [EndsLoop, ends])
  | block found stands waits =>
      exact tracksLoops_moveAccept found (by simp [stands])
        (by simp [EndsLoop, waits])
  | acceptReturns device found stands =>
      exact tracksLoops_acceptReturns found stands device
  | acceptThrows found stands =>
      exact tracksLoops_moveAccept found (by simp [stands]) (by simp [EndsLoop])
  | acceptHandle streams found stands =>
      exact tracksLoops_acceptHandle streams found stands
  | _ => exact absurd rfl other

/-- Which accept threads have returned after a step. -/
theorem finished_step_iff (taken : step worker label = some next)
    (id : ThreadId) :
    next.Finished id ↔ worker.Finished id ∨ EndsLoop worker id label := by
  obtain ⟨_, body, runs, rfl⟩ := step_runs taken
  rcases execute_cases (runs_tracksLoops runs id) with
    returned | ⟨after, thrown, result⟩
  · exact returned
  · rw [result]
    exact thrown

end Loop

/-- Both accept fields refer to threads that are still in their loop and have
not been cancelled. -/
def Worker.SomebodyListens (worker : Worker) : Prop :=
  ∀ field ∈ [worker.mSecureAcceptThread, worker.mInsecureAcceptThread],
    ∃ id thread, field = some id ∧ worker.acceptThreads[id]? = some thread ∧
      thread.point ≠ .finished ∧ thread.cancelled = false

/-- No accept field refers to a thread that has returned. -/
def Worker.HoldsNoDead (worker : Worker) : Prop :=
  ∀ id, worker.mSecureAcceptThread = some id ∨
    worker.mInsecureAcceptThread = some id → ¬ worker.Finished id

/-- When a step leaves the listening state as good as it was: `accept()` may
throw in `STATE_LISTEN` for cancelled threads only, and `start()` must not be
called while a field refers to a thread that has returned. -/
def KeepsListening (worker : Worker) : Step → Prop
  | .acceptThrows id =>
      worker.mState = .stateListen → worker.IsCancelled (.accept id)
  | .start _ | .failedStart _ _ | .lostStart _ _ | .restart _ _ =>
      worker.HoldsNoDead
  | _ => True

section Listening

variable {worker next : Worker} {label : Step}

/-- Under the invariant of runs, only returned threads are in question. -/
theorem somebodyListens_iff (invariant : worker.view.Invariant)
    (listening : worker.mState = .stateListen) :
    worker.SomebodyListens ↔ worker.HoldsNoDead := by
  constructor
  · intro listens id held
    have member : some id ∈
        [worker.mSecureAcceptThread, worker.mInsecureAcceptThread] := by
      rcases held with secure | insecure
      · simp [secure]
      · simp [insecure]
    obtain ⟨other, thread, same, found, stands, _⟩ := listens (some id) member
    cases same
    exact not_finished_of_at found stands
  · intro noDead field member
    have present : field ≠ none := by
      have stored := invariant.listening listening
      rcases List.mem_pair.mp member with rfl | rfl
      · exact stored true
      · exact stored false
    obtain ⟨id, rfl⟩ := Option.ne_none_iff_exists'.mp present
    have held : worker.mSecureAcceptThread = some id ∨
        worker.mInsecureAcceptThread = some id := by
      rcases List.mem_pair.mp member with secure | insecure
      · exact Or.inl secure.symm
      · exact Or.inr insecure.symm
    have isHeld : ThreadName.accept id ∈ worker.view.held :=
      accept_mem_view_held.mpr held
    have bound : id < worker.acceptThreads.length :=
      invariant.created (.accept id) isHeld
    have found := List.getElem?_eq_getElem bound
    refine ⟨id, _, rfl, found, ?_, ?_⟩
    · intro finished
      exact noDead id held ⟨_, found, finished⟩
    · have alive := invariant.alive (.accept id) isHeld
      by_contra cancelled
      exact alive ⟨_, found, by simpa using cancelled⟩

/-- The good states of a run: if the process runs and the service is
listening, somebody listens. -/
def Listening (worker : Worker) : Prop :=
  worker.crashed = false → worker.mState = .stateListen →
    worker.SomebodyListens

/-- `start()` keeps a thread that is there, dead or alive, and creates one
where there is none. -/
theorem holdsNoDead_start_iff (starts : next.view = worker.view.start)
    (same : ∀ id, next.Finished id ↔ worker.Finished id) :
    next.HoldsNoDead ↔ worker.HoldsNoDead := by
  have fields := congrArg View.acceptThread starts
  have secure : next.mSecureAcceptThread =
      some (worker.mSecureAcceptThread.getD worker.acceptThreads.length) :=
    congrFun fields true
  have insecure : next.mInsecureAcceptThread =
      some (worker.mInsecureAcceptThread.getD (worker.acceptThreads.length +
        if worker.mSecureAcceptThread = none then 1 else 0)) :=
    congrFun fields false
  constructor
  · rintro noDead id (held | held)
    · rw [← same]
      exact noDead id (Or.inl (by simp [secure, held]))
    · rw [← same]
      exact noDead id (Or.inr (by simp [insecure, held]))
  · rintro noDead id (held | held)
    · rw [same]
      rw [secure] at held
      obtain rfl := Option.some.inj held
      cases stored : worker.mSecureAcceptThread with
      | none => exact not_finished_of_le le_rfl
      | some other => exact noDead other (Or.inl stored)
    · rw [same]
      rw [insecure] at held
      obtain rfl := Option.some.inj held
      cases stored : worker.mInsecureAcceptThread with
      | none => exact not_finished_of_le (Nat.le_add_right _ _)
      | some other => exact noDead other (Or.inr stored)

/-- The calls of `start()`. -/
theorem listening_start_iff (valid : Valid False worker)
    (taken : step worker label = some next)
    (starts : worker.view.after label = worker.view.start)
    (quiet : ∀ id, ¬ EndsLoop worker id label) :
    Listening next ↔ (next.crashed = false → worker.HoldsNoDead) := by
  refine forall_congr' fun running => ?_
  have view := (view_of_step valid False.elim taken running).trans starts
  have listening : next.mState = .stateListen := congrArg View.mState view
  have invariant := (valid_step valid False.elim taken).invariant
    (Or.inr running)
  have same : ∀ id, next.Finished id ↔ worker.Finished id := by
    intro id
    rw [finished_step_iff taken, or_iff_left (quiet id)]
  rw [← holdsNoDead_start_iff view same, ← somebodyListens_iff invariant listening]
  exact forall_prop_of_true listening

/-- A cancelled accept thread is in no field, and every other one is. -/
theorem isCancelled_accept_iff (invariant : worker.view.Invariant)
    {id : ThreadId} (bound : id < worker.acceptThreads.length) :
    worker.IsCancelled (.accept id) ↔
      ¬ (worker.mSecureAcceptThread = some id ∨
        worker.mInsecureAcceptThread = some id) := by
  rw [← accept_mem_view_held]
  constructor
  · intro cancelled isHeld
    exact invariant.alive (.accept id) isHeld cancelled
  · intro notHeld
    rcases invariant.givenUp (.accept id) bound notHeld with
      cancelled | ⟨other, same⟩
    · exact cancelled
    · cases same

theorem listening_acceptThrows_iff {id : ThreadId} (valid : Valid False worker)
    (good : Listening worker)
    (taken : step worker (.acceptThrows id) = some next) :
    Listening next ↔ (next.crashed = false →
      worker.mState = .stateListen → worker.IsCancelled (.accept id)) := by
  refine forall_congr' fun running => ?_
  have wasRunning := crashed_of_step taken
  have view : next.view = worker.view := view_of_step valid False.elim taken running
  have sameState : next.mState = worker.mState := congrArg View.mState view
  rw [sameState]
  refine forall_congr' fun listening => ?_
  have invariant := valid.invariant (Or.inr wasRunning)
  have nextInvariant : next.view.Invariant := view ▸ invariant
  have bound : id < worker.acceptThreads.length := by
    obtain ⟨_, body, runs, _⟩ := step_runs taken
    cases runs with
    | nullUse null => cases null
    | acceptThrows found => exact (List.getElem?_eq_some_iff.mp found).1
  have noDead := (somebodyListens_iff invariant listening).mp
    (good wasRunning listening)
  rw [somebodyListens_iff nextInvariant (sameState.trans listening),
    isCancelled_accept_iff invariant bound]
  have fields := congrArg View.acceptThread view
  have secure : next.mSecureAcceptThread = worker.mSecureAcceptThread :=
    congrFun fields true
  have insecure : next.mInsecureAcceptThread = worker.mInsecureAcceptThread :=
    congrFun fields false
  unfold Worker.HoldsNoDead
  rw [secure, insecure]
  constructor
  · intro nextNoDead held
    exact nextNoDead id held ((finished_step_iff taken id).mpr (Or.inr rfl))
  · intro notHeld other held finished
    rcases (finished_step_iff taken other).mp finished with before | same
    · exact noDead other held before
    · cases same
      exact notHeld held

/-- The abstract step neither begins to listen nor touches the accept fields
while the service is listening. -/
def View.Idles (view next : View) : Prop :=
  next.mState = .stateListen → view.mState = .stateListen ∧
    next.acceptThread = view.acceptThread

theorem listening_of_idles (valid : Valid False worker) (good : Listening worker)
    (taken : step worker label = some next)
    (idles : worker.view.Idles (worker.view.after label))
    (quiet : worker.mState = .stateListen → ∀ id, ¬ EndsLoop worker id label) :
    Listening next := by
  intro running listening
  have view := view_of_step valid False.elim taken running
  have wasRunning := crashed_of_step taken
  obtain ⟨wasListening, kept⟩ := idles (view ▸ listening)
  have noDead := (somebodyListens_iff (valid.invariant (Or.inr wasRunning))
    wasListening).mp (good wasRunning wasListening)
  apply (somebodyListens_iff ((valid_step valid False.elim taken).invariant
    (Or.inr running)) listening).mpr
  have fields := (congrArg View.acceptThread view).trans kept
  have sameSecure : next.mSecureAcceptThread = worker.mSecureAcceptThread :=
    congrFun fields true
  have sameInsecure :
      next.mInsecureAcceptThread = worker.mInsecureAcceptThread :=
    congrFun fields false
  intro id held
  rw [sameSecure, sameInsecure] at held
  rw [finished_step_iff taken, or_iff_left (quiet wasListening id)]
  exact noDead id held

theorem idles_handleAccepted (view : View) : view.Idles view.handleAccepted := by
  unfold View.handleAccepted
  split
  · intro listening
    cases listening
  · intro listening
    exact ⟨listening, rfl⟩

/-- From a good state, a step leads to a good state exactly if it keeps the
listening state. -/
theorem listening_step_iff (valid : Valid False worker) (good : Listening worker)
    (taken : step worker label = some next) :
    Listening next ↔ (next.crashed = false → KeepsListening worker label) := by
  have kept (idles : worker.view.Idles (worker.view.after label))
      (quiet : worker.mState = .stateListen →
        ∀ id, ¬ EndsLoop worker id label)
      (free : KeepsListening worker label = True) :
      Listening next ↔ (next.crashed = false → KeepsListening worker label) := by
    rw [free]
    exact iff_of_true (listening_of_idles valid good taken idles quiet)
      fun _ => trivial
  have same : worker.view.Idles worker.view := fun listening =>
    ⟨listening, rfl⟩
  cases label with
  | start | failedStart | lostStart | restart =>
      exact listening_start_iff valid taken rfl fun _ => id
  | acceptThrows id => exact listening_acceptThrows_iff valid good taken
  | acceptTest id =>
      apply kept same _ rfl
      rintro listening other ⟨_, isConnected⟩
      rw [listening] at isConnected
      cases isConnected
  | connect | stop | handOver =>
      apply kept _ (fun _ _ => id) rfl
      intro listening
      cases listening
  | acceptHandle => exact kept (idles_handleAccepted _) (fun _ _ => id) rfl
  | _ => exact kept same (fun _ _ => id) rfl

/-- Along every run, the service only listens with both accept threads at
work exactly if every step keeps the listening state. -/
theorem somebody_listens_iff (labels : List Step) :
    (∀ early worker, early <+: labels →
        follow step Worker.initial early = some worker →
        worker.crashed = false → worker.mState = .stateListen →
        worker.SomebodyListens) ↔
      EveryStep step (fun before label after =>
        after.crashed = false → KeepsListening before label)
        Worker.initial labels := by
  apply everyState_iff_everyStep step (Valid False)
  · intro worker label next valid taken
    exact valid_step valid False.elim taken
  · intro worker label next valid good taken
    exact listening_step_iff valid good taken
  · exact valid_initial
  · intro _ listening
    cases listening

/-- The secure accept thread dies of an `IOException`, and a new call of
`start()` does not replace it. -/
theorem nobody_listens_after_failure :
    ∃ worker, follow step Worker.initial
        [.start ⟨true, true⟩, .acceptTest 0, .acceptThrows 0,
          .start ⟨true, true⟩] = some worker ∧
      worker.crashed = false ∧ worker.mState = .stateListen ∧
      worker.mSecureAcceptThread = some 0 ∧ worker.Finished 0 ∧
      ¬ worker.SomebodyListens := by
  refine ⟨_, rfl, rfl, rfl, rfl, ⟨_, rfl, rfl⟩, ?_⟩
  intro listens
  obtain ⟨id, thread, same, found, stands, _⟩ := listens _ List.mem_cons_self
  cases same
  cases found
  exact stands rfl

end Listening

end WorkerClass

end MightyMouse

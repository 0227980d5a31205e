import MightyMouse.WorkerClass
import Mathlib.Data.Set.Basic
import Mathlib.Logic.Function.Basic

/-!
# The connection service in the abstract

What the synchronized methods of the service do to its five fields, to the
numbers of threads created and to the set of threads on which `cancel()` has
been called.  Sockets, program points and messages are left out.  The
invariants of the service are stated and proved here; the connection with the
method bodies is made in `MightyMouse.WorkerClassRefinement`.
-/

namespace MightyMouse

namespace WorkerClass

/-- A thread object of the service. -/
inductive ThreadName
  | accept (id : ThreadId)
  | connect (id : ThreadId)
  | connected (id : ThreadId)
  deriving DecidableEq, Repr

/-- The part of the service that its invariants speak about. -/
@[ext]
structure View where
  mState : ServiceState
  /-- The secure and the insecure accept thread. -/
  acceptThread : Bool → Option ThreadId
  mConnectThread : Option ThreadId
  mConnectedThread : Option ThreadId
  acceptCount : Nat
  connectCount : Nat
  connectedCount : Nat
  cancelled : Set ThreadName

/-- The threads a field refers to: none or one. -/
def fieldNames (name : ThreadId → ThreadName) (field : Option ThreadId) :
    Set ThreadName :=
  { held | ∃ id, field = some id ∧ held = name id }

@[simp]
theorem fieldNames_none (name : ThreadId → ThreadName) :
    fieldNames name none = ∅ := by
  simp [fieldNames]

@[simp]
theorem fieldNames_some (name : ThreadId → ThreadName) (id : ThreadId) :
    fieldNames name (some id) = {name id} := by
  ext held
  simp [fieldNames]

namespace View

/-- The service as its constructor leaves it. -/
def initial : View where
  mState := .stateNone
  acceptThread := fun _ => none
  mConnectThread := none
  mConnectedThread := none
  acceptCount := 0
  connectCount := 0
  connectedCount := 0
  cancelled := ∅

/-- The threads the four fields refer to. -/
def held (view : View) : Set ThreadName :=
  { name | ∃ secure, name ∈ fieldNames .accept (view.acceptThread secure) } ∪
    fieldNames .connect view.mConnectThread ∪
    fieldNames .connected view.mConnectedThread

/-- The thread object exists. -/
def Created (view : View) : ThreadName → Prop
  | .accept id => id < view.acceptCount
  | .connect id => id < view.connectCount
  | .connected id => id < view.connectedCount

def setState (view : View) (state : ServiceState) : View :=
  { view with mState := state }

def dropConnect (view : View) : View :=
  { view with
    mConnectThread := none
    cancelled := view.cancelled ∪ fieldNames .connect view.mConnectThread }

def dropConnected (view : View) : View :=
  { view with
    mConnectedThread := none
    cancelled := view.cancelled ∪
      fieldNames .connected view.mConnectedThread }

def dropAccept (view : View) (secure : Bool) : View :=
  { view with
    acceptThread := Function.update view.acceptThread secure none
    cancelled := view.cancelled ∪
      fieldNames .accept (view.acceptThread secure) }

def ensureAccept (view : View) (secure : Bool) : View :=
  { view with
    acceptThread := Function.update view.acceptThread secure
      (some ((view.acceptThread secure).getD view.acceptCount))
    acceptCount := view.acceptCount +
      if view.acceptThread secure = none then 1 else 0 }

def newConnect (view : View) : View :=
  { view with
    mConnectThread := some view.connectCount
    connectCount := view.connectCount + 1 }

def newConnected (view : View) : View :=
  { view with
    mConnectedThread := some view.connectedCount
    connectedCount := view.connectedCount + 1 }

def start (view : View) : View :=
  ((view.dropConnect.dropConnected.setState
    .stateListen).ensureAccept true).ensureAccept false

def connect (view : View) : View :=
  ((if view.mState = .stateConnecting then view.dropConnect
    else view).dropConnected.newConnect).setState .stateConnecting

def dropAll (view : View) : View :=
  (view.dropConnect.dropConnected.dropAccept true).dropAccept false

def connected (view : View) : View :=
  view.dropAll.newConnected.setState .stateConnected

def stop (view : View) : View :=
  view.dropAll.setState .stateNone

/-- The block that a connect thread runs after its connection is made. -/
def reset (view : View) : View :=
  { view with mConnectThread := none }

/-- The fields agree with `mState`. -/
structure Consistent (view : View) : Prop where
  connected_iff : view.mState = .stateConnected ↔
    view.mConnectedThread ≠ none
  connecting : view.mConnectThread ≠ none → view.mState = .stateConnecting
  idle : view.mState = .stateNone →
    (∀ secure, view.acceptThread secure = none) ∧
      view.mConnectThread = none ∧ view.mConnectedThread = none
  listening : view.mState = .stateListen →
    ∀ secure, view.acceptThread secure ≠ none
  exclusive : view.mState = .stateConnected →
    ∀ secure, view.acceptThread secure = none

/-- The fields refer to living threads, and an accept or connected thread is
given up only by cancelling it. -/
structure Tracked (view : View) : Prop where
  created : ∀ name ∈ view.held, view.Created name
  alive : ∀ name ∈ view.held, name ∉ view.cancelled
  givenUp : ∀ name, view.Created name → name ∉ view.held →
    name ∈ view.cancelled ∨ ∃ id, name = .connect id
  cancelledCreated : ∀ name ∈ view.cancelled, view.Created name
  distinct : ∀ first second id, view.acceptThread first = some id →
    view.acceptThread second = some id → first = second

section Membership

variable {view : View}

@[simp]
theorem accept_mem_held {id : ThreadId} :
    ThreadName.accept id ∈ view.held ↔
      ∃ secure, view.acceptThread secure = some id := by
  simp [held, fieldNames]

@[simp]
theorem connect_mem_held {id : ThreadId} :
    ThreadName.connect id ∈ view.held ↔ view.mConnectThread = some id := by
  simp [held, fieldNames]

@[simp]
theorem connected_mem_held {id : ThreadId} :
    ThreadName.connected id ∈ view.held ↔
      view.mConnectedThread = some id := by
  simp [held, fieldNames]

end Membership

section Tracked

variable {view next : View}

theorem tracked_initial : Tracked initial := by
  constructor
  · rintro (id | id | id) member <;> simp [initial] at member
  · rintro (id | id | id) member <;> simp [initial] at member
  · rintro (id | id | id) isCreated <;> simp [Created, initial] at isCreated
  · simp [initial]
  · simp [initial]

/-- Giving up held threads is harmless when they are cancelled. -/
theorem Tracked.giveUp (tracked : Tracked view) (dropped : Set ThreadName)
    (wasHeld : dropped ⊆ view.held)
    (remaining : next.held = view.held \ dropped)
    (cancels : next.cancelled = view.cancelled ∪ dropped)
    (sameThreads : next.Created = view.Created)
    (distinct : ∀ first second id, next.acceptThread first = some id →
      next.acceptThread second = some id → first = second) :
    Tracked next := by
  constructor
  · intro name member
    rw [remaining] at member
    rw [sameThreads]
    exact tracked.created name member.1
  · intro name member
    rw [remaining] at member
    rw [cancels]
    rintro (before | now)
    · exact tracked.alive name member.1 before
    · exact member.2 now
  · intro name isCreated notHeld
    rw [sameThreads] at isCreated
    rw [remaining] at notHeld
    rw [cancels]
    by_cases isDropped : name ∈ dropped
    · exact Or.inl (Or.inr isDropped)
    · have notBefore : name ∉ view.held := fun member =>
        notHeld ⟨member, isDropped⟩
      rcases tracked.givenUp name isCreated notBefore with before | connect
      · exact Or.inl (Or.inl before)
      · exact Or.inr connect
  · intro name member
    rw [cancels] at member
    rw [sameThreads]
    rcases member with before | now
    · exact tracked.cancelledCreated name before
    · exact tracked.created name (wasHeld now)
  · exact distinct

/-- A new thread object may be stored in a field, where it may replace a
connect thread. -/
theorem Tracked.takeUp (tracked : Tracked view) (fresh : ThreadName)
    (isFresh : ¬ view.Created fresh)
    (creates : ∀ name, next.Created name ↔ view.Created name ∨ name = fresh)
    (holds : ∀ name ∈ next.held, name ∈ view.held ∨ name = fresh)
    (freshHeld : fresh ∈ next.held)
    (keeps : ∀ name ∈ view.held, name ∈ next.held ∨ ∃ id, name = .connect id)
    (cancels : next.cancelled = view.cancelled)
    (distinct : ∀ first second id, next.acceptThread first = some id →
      next.acceptThread second = some id → first = second) :
    Tracked next := by
  constructor
  · intro name member
    rw [creates]
    exact (holds name member).imp_left (tracked.created name)
  · intro name member
    rw [cancels]
    rcases holds name member with before | rfl
    · exact tracked.alive name before
    · exact fun isCancelled => isFresh (tracked.cancelledCreated _ isCancelled)
  · intro name isCreated notHeld
    rw [cancels]
    rcases (creates name).mp isCreated with before | rfl
    · by_cases wasHeld : name ∈ view.held
      · exact Or.inr ((keeps name wasHeld).resolve_left notHeld)
      · exact tracked.givenUp name before wasHeld
    · exact absurd freshHeld notHeld
  · intro name member
    rw [cancels] at member
    rw [creates]
    exact Or.inl (tracked.cancelledCreated name member)
  · exact distinct

theorem Tracked.setState (tracked : Tracked view) (state : ServiceState) :
    Tracked (view.setState state) :=
  ⟨tracked.created, tracked.alive, tracked.givenUp, tracked.cancelledCreated,
    tracked.distinct⟩

theorem Tracked.reset (tracked : Tracked view) : Tracked view.reset := by
  have subset (name : ThreadName) (member : name ∈ view.reset.held) :
      name ∈ view.held := by
    cases name <;> simp [View.reset] at member ⊢ <;> exact member
  constructor
  · exact fun name member => tracked.created name (subset name member)
  · exact fun name member => tracked.alive name (subset name member)
  · intro name isCreated notHeld
    by_cases wasHeld : name ∈ view.held
    · cases name with
      | accept id => exact absurd wasHeld (by simpa [View.reset] using notHeld)
      | connect id => exact Or.inr ⟨id, rfl⟩
      | connected id => exact absurd wasHeld (by simpa [View.reset] using notHeld)
    · exact tracked.givenUp name isCreated wasHeld
  · exact tracked.cancelledCreated
  · exact tracked.distinct

theorem Tracked.dropConnect (tracked : Tracked view) :
    Tracked view.dropConnect := by
  apply tracked.giveUp (fieldNames .connect view.mConnectThread)
  · rintro name ⟨id, stored, rfl⟩
    simpa using stored
  · ext name
    cases name <;> simp [View.dropConnect, fieldNames]
  · rfl
  · rfl
  · exact tracked.distinct

theorem Tracked.dropConnected (tracked : Tracked view) :
    Tracked view.dropConnected := by
  apply tracked.giveUp (fieldNames .connected view.mConnectedThread)
  · rintro name ⟨id, stored, rfl⟩
    simpa using stored
  · ext name
    cases name <;> simp [View.dropConnected, fieldNames]
  · rfl
  · rfl
  · exact tracked.distinct

theorem Tracked.dropAccept (tracked : Tracked view) (secure : Bool) :
    Tracked (view.dropAccept secure) := by
  have distinct := tracked.distinct
  apply tracked.giveUp (fieldNames .accept (view.acceptThread secure))
  · rintro name ⟨id, stored, rfl⟩
    exact accept_mem_held.mpr ⟨secure, stored⟩
  · ext name
    cases name with
    | accept id =>
        simp only [accept_mem_held, View.dropAccept, Function.update_apply,
          fieldNames, Set.mem_sdiff, Set.mem_ofPred_eq]
        grind
    | connect id => simp [View.dropAccept, fieldNames]
    | connected id => simp [View.dropAccept, fieldNames]
  · rfl
  · rfl
  · simp only [View.dropAccept, Function.update_apply]
    grind

theorem Tracked.dropAll (tracked : Tracked view) : Tracked view.dropAll :=
  (tracked.dropConnect.dropConnected.dropAccept true).dropAccept false

theorem dropAccept_of_absent {secure : Bool}
    (absent : view.acceptThread secure = none) :
    view.dropAccept secure = view := by
  have same := Function.update_eq_self secure view.acceptThread
  rw [absent] at same
  simp [View.dropAccept, absent, same]

theorem ensureAccept_of_stored {secure : Bool} {id : ThreadId}
    (stored : view.acceptThread secure = some id) :
    view.ensureAccept secure = view := by
  have same : Function.update view.acceptThread secure (some id) =
      view.acceptThread := by
    rw [← stored, Function.update_eq_self]
  simp [View.ensureAccept, stored, same]

theorem Tracked.ensureAccept (tracked : Tracked view) (secure : Bool) :
    Tracked (view.ensureAccept secure) := by
  cases stored : view.acceptThread secure with
  | none =>
      have distinct := tracked.distinct
      have bound (other : Bool) (id : ThreadId)
          (holds : view.acceptThread other = some id) :
          id < view.acceptCount :=
        tracked.created (.accept id) (accept_mem_held.mpr ⟨other, holds⟩)
      apply tracked.takeUp (.accept view.acceptCount)
      · simp [Created]
      · rintro (id | id | id)
        · simp only [Created, View.ensureAccept, stored, if_true,
            ThreadName.accept.injEq]
          exact Nat.lt_succ_iff_lt_or_eq
        · simp [Created, View.ensureAccept]
        · simp [Created, View.ensureAccept]
      · rintro (id | id | id) member
        · simp only [accept_mem_held, View.ensureAccept, Function.update_apply,
            stored] at member ⊢
          grind
        · simpa [View.ensureAccept] using member
        · simpa [View.ensureAccept] using member
      · exact accept_mem_held.mpr ⟨secure, by simp [View.ensureAccept, stored]⟩
      · rintro (id | id | id) member
        · simp only [accept_mem_held, View.ensureAccept, Function.update_apply,
            stored] at member ⊢
          grind
        · simp [View.ensureAccept] at member ⊢
        · simpa [View.ensureAccept] using member
      · rfl
      · simp only [View.ensureAccept, Function.update_apply, stored]
        grind
  | some id => rwa [ensureAccept_of_stored stored]

theorem Tracked.newConnect (tracked : Tracked view) :
    Tracked view.newConnect := by
  apply tracked.takeUp (.connect view.connectCount)
  · simp [Created]
  · rintro (id | id | id) <;> simp [Created, View.newConnect]
    grind
  · rintro (id | id | id) member <;> simp [View.newConnect] at member ⊢ <;> grind
  · simp [View.newConnect]
  · rintro (id | id | id) member <;> simp [View.newConnect] at member ⊢ <;> grind
  · rfl
  · exact tracked.distinct

theorem Tracked.newConnected (tracked : Tracked view)
    (absent : view.mConnectedThread = none) : Tracked view.newConnected := by
  apply tracked.takeUp (.connected view.connectedCount)
  · simp [Created]
  · rintro (id | id | id) <;> simp [Created, View.newConnected]
    grind
  · rintro (id | id | id) member <;> simp [View.newConnected] at member ⊢ <;> grind
  · simp [View.newConnected]
  · rintro (id | id | id) member <;>
      simp [View.newConnected, absent] at member ⊢
    exact member
  · rfl
  · exact tracked.distinct

end Tracked

/-- The invariant of the service. -/
structure Invariant (view : View) : Prop extends
  Consistent view, Tracked view

section Methods

variable {view : View}

theorem invariant_initial : Invariant initial where
  toConsistent := by constructor <;> simp [initial]
  toTracked := tracked_initial

theorem Invariant.start (invariant : Invariant view) :
    Invariant view.start where
  toConsistent := by
    constructor <;>
      simp [View.start, View.ensureAccept,
        View.setState, View.dropConnected, View.dropConnect]
  toTracked :=
    ((invariant.toTracked.dropConnect.dropConnected.setState
      .stateListen).ensureAccept true).ensureAccept false

theorem Invariant.connect (invariant : Invariant view) :
    Invariant view.connect where
  toConsistent := by
    constructor <;> simp [View.connect, View.setState, View.newConnect,
      View.dropConnected]
  toTracked := by
    unfold View.connect
    split
    · exact (invariant.toTracked.dropConnect.dropConnected.newConnect).setState _
    · exact (invariant.toTracked.dropConnected.newConnect).setState _

theorem Invariant.connected (invariant : Invariant view) :
    Invariant view.connected where
  toConsistent := by
    constructor <;> simp [View.connected, View.setState, View.newConnected,
      View.dropAll, View.dropConnect, View.dropConnected, View.dropAccept]
  toTracked := (invariant.toTracked.dropAll.newConnected rfl).setState _

theorem Invariant.stop (invariant : Invariant view) : Invariant view.stop where
  toConsistent := by
    constructor <;> simp [View.stop, View.setState, View.dropAll,
      View.dropConnect, View.dropConnected, View.dropAccept]
  toTracked := invariant.toTracked.dropAll.setState _

theorem Invariant.reset (invariant : Invariant view) :
    Invariant view.reset where
  toConsistent := by
    obtain ⟨⟨connected_iff, connecting, idle, listening, exclusive⟩, _⟩ :=
      invariant
    constructor
    · exact connected_iff
    · simp [View.reset]
    · intro isNone
      obtain ⟨accepts, _, connected⟩ := idle isNone
      exact ⟨accepts, rfl, connected⟩
    · exact listening
    · exact exclusive
  toTracked := invariant.toTracked.reset

end Methods

end View

end WorkerClass

end MightyMouse

import Mathlib.Data.Set.Basic

/-!
# Pre- and postconditions for bodies with exceptions

A body of type `EStateM ε σ α` returns or throws, and in both cases keeps the
state it has reached.  A triple therefore has two postconditions, one for
each way of leaving the body.
-/

namespace StatefulBody

variable {ε σ α β : Type}

/-- Started in a state satisfying `before`, the body returns in a state
satisfying `returned` or throws in a state satisfying `thrown`. -/
def Triple (before : σ → Prop) (body : EStateM ε σ α)
    (returned : α → σ → Prop) (thrown : σ → Prop) : Prop :=
  ∀ state, before state →
    match body state with
    | .ok value after => returned value after
    | .error _ after => thrown after

variable {before : σ → Prop} {thrown : σ → Prop}

/-- A triple may be used from a single state. -/
theorem Triple.atState {body : EStateM ε σ α} {returned : α → σ → Prop}
    (triple : Triple before body returned thrown) {start : σ}
    (holds : before start) :
    Triple (fun state => state = start) body returned thrown := by
  intro state same
  subst same
  exact triple state holds

theorem triple_pure {value : α} {returned : α → σ → Prop}
    (implies : ∀ state, before state → returned value state) :
    Triple before (pure value : EStateM ε σ α) returned thrown := by
  intro state start
  exact implies state start

theorem triple_throw {raised : ε} {returned : α → σ → Prop}
    (implies : ∀ state, before state → thrown state) :
    Triple before (throw raised : EStateM ε σ α) returned thrown := by
  intro state start
  exact implies state start

theorem triple_modify {update : σ → σ} {returned : σ → Prop}
    (implies : ∀ state, before state → returned (update state)) :
    Triple before (modify update : EStateM ε σ PUnit)
      (fun _ => returned) thrown := by
  intro state start
  exact implies state start

theorem triple_bind {first : EStateM ε σ α} {second : α → EStateM ε σ β}
    {middle : α → σ → Prop} {returned : β → σ → Prop}
    (firstTriple : Triple before first middle thrown)
    (secondTriple : ∀ value,
      Triple (middle value) (second value) returned thrown) :
    Triple before (first >>= second) returned thrown := by
  intro state start
  have firstResult := firstTriple state start
  change match EStateM.bind first second state with
    | .ok value after => returned value after
    | .error _ after => thrown after
  unfold EStateM.bind
  cases run : first state with
  | ok value after =>
      rw [run] at firstResult
      exact secondTriple value after firstResult
  | error raised after =>
      rw [run] at firstResult
      exact firstResult

/-- Reading the state first lets the rest depend on it. -/
theorem triple_get_bind {second : σ → EStateM ε σ β}
    {returned : β → σ → Prop}
    (rest : ∀ seen, before seen →
      Triple (fun state => state = seen) (second seen) returned thrown) :
    Triple before (get >>= second) returned thrown := by
  intro state start
  exact rest state start state rfl

/-- If the rest keeps the condition whatever state has been seen, reading the
state first does not matter. -/
theorem triple_get_keep {second : σ → EStateM ε σ β}
    (keeps : ∀ seen, Triple before (second seen) (fun _ => before) before) :
    Triple before (get >>= second) (fun _ => before) before :=
  triple_get_bind fun seen holds => (keeps seen).atState holds

/-- After a write the rest starts in the one state written. -/
theorem triple_modify_bind {update : σ → σ} {second : PUnit → EStateM ε σ β}
    {returned : β → σ → Prop}
    (rest : ∀ seen, before seen →
      Triple (fun state => state = update seen) (second ⟨⟩) returned thrown) :
    Triple before (modify update >>= second) returned thrown := by
  intro state start
  exact rest state start (update state) rfl

theorem triple_true {body : EStateM ε σ α} :
    Triple before body (fun _ _ => True) (fun _ => True) := by
  intro state start
  cases body state <;> trivial

/-- Two descriptions of one body hold together. -/
theorem Triple.and {body : EStateM ε σ α}
    {firstReturned secondReturned : α → σ → Prop}
    {firstThrown secondThrown : σ → Prop}
    (first : Triple before body firstReturned firstThrown)
    (second : Triple before body secondReturned secondThrown) :
    Triple before body
      (fun value state => firstReturned value state ∧ secondReturned value state)
      (fun state => firstThrown state ∧ secondThrown state) := by
  intro state start
  have firstResult := first state start
  have secondResult := second state start
  cases run : body state with
  | ok value after =>
      rw [run] at firstResult secondResult
      exact ⟨firstResult, secondResult⟩
  | error raised after =>
      rw [run] at firstResult secondResult
      exact ⟨firstResult, secondResult⟩

theorem Triple.weaken {body : EStateM ε σ α}
    {returned : α → σ → Prop} (triple : Triple before body returned thrown)
    {before' : σ → Prop} {returned' : α → σ → Prop} {thrown' : σ → Prop}
    (strengthened : ∀ state, before' state → before state)
    (returns : ∀ value state, returned value state → returned' value state)
    (throws : ∀ state, thrown state → thrown' state) :
    Triple before' body returned' thrown' := by
  intro state start
  have result := triple state (strengthened state start)
  cases run : body state with
  | ok value after =>
      rw [run] at result
      exact returns value after result
  | error raised after =>
      rw [run] at result
      exact throws after result

/-- Two continuations that agree on the states that the first part can reach
may be exchanged. -/
theorem bind_congr_of_triple {first : EStateM ε σ α}
    {second other : α → EStateM ε σ β} {middle : α → σ → Prop}
    (triple : Triple before first middle thrown) {state : σ}
    (start : before state)
    (agree : ∀ value after, middle value after →
      second value after = other value after) :
    (first >>= second) state = (first >>= other) state := by
  have result := triple state start
  change EStateM.bind first second state = EStateM.bind first other state
  unfold EStateM.bind
  cases run : first state with
  | ok value after =>
      rw [run] at result
      exact agree value after result
  | error raised after => rfl

theorem bind_congr_left {first other : EStateM ε σ α}
    {second : α → EStateM ε σ β} {state : σ}
    (same : first state = other state) :
    (first >>= second) state = (other >>= second) state := by
  change EStateM.bind first second state = EStateM.bind other second state
  unfold EStateM.bind
  rw [same]

end StatefulBody

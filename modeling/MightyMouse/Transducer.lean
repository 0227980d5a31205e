import Mathlib.Data.List.Basic

/-!
# Runs of list-output transducers

A transducer answers every input with a new state and a finite list of
outputs.  This file collects the run equations used by stream decoders, and
the segment rule for machines that restart on a delimiter: such a machine
answers a stream segment by segment.
-/

namespace Transducer

variable {State Input Output : Type*}

/-- Final state and concatenated outputs of a finite run. -/
def run (step : State → Input → State × List Output) :
    State → List Input → State × List Output
  | state, [] => (state, [])
  | state, input :: inputs =>
      let after := step state input
      let rest := run step after.1 inputs
      (rest.1, after.2 ++ rest.2)

/-- State reached by a finite run. -/
def final (step : State → Input → State × List Output)
    (state : State) (inputs : List Input) : State :=
  (run step state inputs).1

/-- Outputs produced along a finite run, oldest first. -/
def outputs (step : State → Input → State × List Output)
    (state : State) (inputs : List Input) : List Output :=
  (run step state inputs).2

variable (step : State → Input → State × List Output)

@[simp]
theorem final_nil (state : State) : final step state [] = state :=
  rfl

@[simp]
theorem outputs_nil (state : State) : outputs step state [] = [] :=
  rfl

theorem final_cons (state : State) (input : Input) (inputs : List Input) :
    final step state (input :: inputs) =
      final step (step state input).1 inputs :=
  rfl

theorem outputs_cons (state : State) (input : Input) (inputs : List Input) :
    outputs step state (input :: inputs) =
      (step state input).2 ++ outputs step (step state input).1 inputs :=
  rfl

theorem final_append (state : State) (first second : List Input) :
    final step state (first ++ second) =
      final step (final step state first) second := by
  induction first generalizing state with
  | nil => rfl
  | cons input first ih =>
      rw [List.cons_append, final_cons, final_cons]
      exact ih (step state input).1

theorem outputs_append (state : State) (first second : List Input) :
    outputs step state (first ++ second) =
      outputs step state first ++
        outputs step (final step state first) second := by
  induction first generalizing state with
  | nil => rfl
  | cons input first ih =>
      rw [List.cons_append, outputs_cons, outputs_cons, final_cons, ih,
        List.append_assoc]

/-- An output property guaranteed by every step from a closed set of states
holds along the whole run. -/
theorem forall_mem_outputs (within : State → Prop)
    (property : Output → Prop)
    (closed : ∀ state input, within state →
      within (step state input).1 ∧
        ∀ output ∈ (step state input).2, property output)
    {state : State} (start : within state) (inputs : List Input) :
    ∀ output ∈ outputs step state inputs, property output := by
  induction inputs generalizing state with
  | nil => simp
  | cons input inputs ih =>
      intro output outputMem
      rw [outputs_cons, List.mem_append] at outputMem
      obtain ⟨nextWithin, stepProperty⟩ := closed state input start
      rcases outputMem with fromStep | fromRest
      · exact stepProperty output fromStep
      · exact ih nextWithin output fromRest

section Segments

variable [BEq Input] [LawfulBEq Input]

/-- The pieces between delimiters contain no delimiter. -/
theorem not_mem_of_mem_splitOn {delimiter : Input} {inputs segment : List Input}
    (segmentMem : segment ∈ inputs.splitOn delimiter) :
    delimiter ∉ segment := by
  induction inputs generalizing segment with
  | nil =>
      rw [List.splitOn_nil, List.mem_singleton] at segmentMem
      simp [segmentMem]
  | cons input inputs ih =>
      rw [List.splitOn_cons_eq_if_modifyHead] at segmentMem
      by_cases isDelimiter : (input == delimiter) = true
      · rw [if_pos isDelimiter, List.mem_cons] at segmentMem
        rcases segmentMem with empty | later
        · simp [empty]
        · exact ih later
      · rw [if_neg isDelimiter] at segmentMem
        cases pieces : inputs.splitOn delimiter with
        | nil => exact absurd pieces (List.splitOn_ne_nil delimiter inputs)
        | cons head tail =>
            rw [pieces, List.modifyHead_cons, List.mem_cons] at segmentMem
            rw [pieces] at ih
            rcases segmentMem with atHead | inTail
            · subst segment
              have headFree : delimiter ∉ head := ih (by simp)
              have inputNe : delimiter ≠ input := by
                intro equal
                exact isDelimiter (by simp [equal])
              simp [inputNe, headFree]
            · exact ih (by simp [inTail])

omit [LawfulBEq Input] in
theorem length_splitOn (delimiter : Input) (inputs : List Input) :
    (inputs.splitOn delimiter).length = inputs.count delimiter + 1 := by
  induction inputs with
  | nil => simp
  | cons input inputs ih =>
      rw [List.splitOn_cons_eq_if_modifyHead, List.count_cons]
      split
      · rw [List.length_cons, ih]
      · rw [List.length_modifyHead, ih]

/-- Segment rule.  If the delimiter silently leads from every state to a
fresh one, and fresh states agree on what they answer to a delimiter-free
segment, then a run from a fresh state answers its segments one by one. -/
theorem outputs_eq_flatMap_splitOn {delimiter : Input}
    (Fresh : State → Prop) {answer : List Input → List Output}
    (restarts : ∀ state, Fresh (step state delimiter).1 ∧
      (step state delimiter).2 = [])
    (answers : ∀ state segment, Fresh state → delimiter ∉ segment →
      outputs step state segment = answer segment)
    {state : State} (fresh : Fresh state) (inputs : List Input) :
    outputs step state inputs =
      (inputs.splitOn delimiter).flatMap answer := by
  have pieces : ∀ segments : List (List Input), segments ≠ [] →
      (∀ segment ∈ segments, delimiter ∉ segment) →
      ∀ state, Fresh state →
        outputs step state ([delimiter].intercalate segments) =
          segments.flatMap answer := by
    intro segments
    induction segments with
    | nil => intro nonempty; contradiction
    | cons segment segments ih =>
        intro _ free state fresh
        have segmentFree := free segment (by simp)
        cases segments with
        | nil => simpa using answers state segment fresh segmentFree
        | cons next later =>
            rw [List.intercalate_cons_cons, List.append_assoc,
              outputs_append, answers state segment fresh segmentFree,
              List.singleton_append, outputs_cons, List.flatMap_cons]
            obtain ⟨freshAfter, silent⟩ :=
              restarts (final step state segment)
            rw [silent, List.nil_append]
            congr 1
            exact ih (by simp) (fun other otherMem =>
              free other (by simp [otherMem])) _ freshAfter
  have joined := pieces (inputs.splitOn delimiter)
    (List.splitOn_ne_nil delimiter inputs)
    (fun segment => not_mem_of_mem_splitOn) state fresh
  rwa [List.intercalate_splitOn] at joined

end Segments

end Transducer

import MightyMouse.OrderedMerge

/-!
# A register shared by several writers

Each party stores a value in a common register and then has the contents of
the register emitted.  Whether the emitted values merge what the parties
wanted depends on the order of the accesses: it is guaranteed, whatever the
values, exactly if no access falls between a write and the emission that
belongs to it.
-/

namespace SharedRegister

open OrderedMerge

variable {Tag Value : Type*}

inductive Access (Value : Type*)
  | write (value : Value)
  | emit
  deriving DecidableEq, Repr

/-- The two accesses that have a value emitted. -/
def request (value : Value) : List (Access Value) :=
  [.write value, .emit]

/-- The values emitted, given what the register holds. -/
def emitted : Value → List (Access Value) → List Value
  | _, [] => []
  | _, .write value :: accesses => emitted value accesses
  | held, .emit :: accesses => held :: emitted held accesses

/-- What the register holds after the accesses. -/
def holding : Value → List (Access Value) → Value
  | held, [] => held
  | _, .write value :: accesses => holding value accesses
  | held, .emit :: accesses => holding held accesses

theorem emitted_append (held : Value) (first second : List (Access Value)) :
    emitted held (first ++ second) =
      emitted held first ++ emitted (holding held first) second := by
  induction first generalizing held with
  | nil => rfl
  | cons access first ih =>
      cases access with
      | write value => exact ih value
      | emit =>
          simp only [List.cons_append, emitted, holding]
          rw [ih held]

/-- Values other than the one held can only be emitted if they are written. -/
theorem mem_emitted {held value : Value} {accesses : List (Access Value)}
    (member : value ∈ emitted held accesses) :
    value = held ∨ .write value ∈ accesses := by
  induction accesses generalizing held with
  | nil => simp [emitted] at member
  | cons access accesses ih =>
      cases access with
      | write other =>
          rcases ih member with same | later
          · exact .inr (by simp [same])
          · exact .inr (by simp [later])
      | emit =>
          rcases List.mem_cons.mp member with same | rest
          · exact .inl same
          · exact (ih rest).imp_right fun later => by simp [later]

variable [DecidableEq Tag]

/-- The emitted values are an order-preserving merge of the wanted ones. -/
def Serves (held : Value) (schedule : List (Tag × Access Value))
    (wanted : Tag → List Value) : Prop :=
  ∃ merged, IsMerge merged wanted ∧
    emitted held (schedule.map Prod.snd) = merged.map Prod.snd

/-- The parties make all requests for the values they want, in some order. -/
def Schedules (schedule : List (Tag × Access Value))
    (wanted : Tag → List Value) : Prop :=
  IsMerge schedule fun tag => (wanted tag).flatMap request

omit [DecidableEq Tag] in
theorem emitted_blocks (held : Value) (merged : List (Tag × Value)) :
    emitted held ((blocks request merged).map Prod.snd) =
      merged.map Prod.snd := by
  induction merged generalizing held with
  | nil => rfl
  | cons entry merged ih =>
      change entry.2 :: emitted entry.2
        ((blocks request merged).map Prod.snd) = _
      rw [ih, List.map_cons]

omit [DecidableEq Tag] in
theorem tags_blocks (merged : List (Tag × Value)) :
    (blocks request merged).map Prod.fst =
      (merged.map Prod.fst).flatMap fun tag => [tag, tag] := by
  induction merged with
  | nil => rfl
  | cons entry merged ih =>
      change entry.1 :: entry.1 ::
        (blocks request merged).map Prod.fst = _
      rw [ih, List.map_cons, List.flatMap_cons]
      rfl

omit [DecidableEq Tag] in
/-- In a list of pairs of equal tags, a tag at an even place is repeated. -/
theorem eq_of_pairs {whole order : List Tag} {tag other : Tag}
    {rest : List Tag}
    (paired : (whole.flatMap fun tag => [tag, tag]) ++ tag :: other :: rest =
      order.flatMap fun tag => [tag, tag]) : other = tag := by
  induction whole generalizing order with
  | nil =>
      cases order with
      | nil => simp at paired
      | cons first order =>
          simp only [List.flatMap_nil, List.nil_append, List.flatMap_cons,
            List.cons_append, List.cons.injEq] at paired
          rw [paired.1, paired.2.1]
  | cons first whole ih =>
      cases order with
      | nil => simp at paired
      | cons second order =>
          simp only [List.flatMap_cons, List.cons_append, List.nil_append,
            List.cons.injEq] at paired
          exact ih paired.2.2

section Cuts

variable {schedule : List (Tag × Access Value)}

/-- A request that is begun but not finished has written its value. -/
theorem begun_request {value : Value} {before after : List (Access Value)}
    (splits : request value = before ++ after) (begun : before ≠ [])
    (unfinished : after ≠ []) : before = [.write value] := by
  match before, begun with
  | [first], _ =>
      simp only [request, List.cons_append, List.cons.injEq] at splits
      rw [splits.1]
  | first :: second :: more, _ =>
      simp [request, unfinished] at splits

omit [DecidableEq Tag] in
/-- A cut between two requests separates a write from its emission. -/
theorem cut_splits (cut : Cut request schedule) :
    schedule = blocks request cut.whole ++
      (cut.tag, .write cut.item) :: (cut.other, .write cut.intruder) ::
        cut.rest := by
  have before := begun_request cut.expands cut.begun cut.unfinished
  have event : cut.event = .write cut.intruder := by
    have intrudes := cut.intrudes
    simp only [request, List.cons.injEq] at intrudes
    exact intrudes.1.symm
  have splits := cut.splits
  rw [before, event, List.append_assoc] at splits
  exact splits

/-- Schedules with the same order of parties as one made of whole requests
are themselves made of whole requests. -/
theorem blocks_of_same_order {wanted : Tag → List Value}
    (schedules : Schedules schedule wanted) {order : List Tag}
    (paired : schedule.map Prod.fst = order.flatMap fun tag => [tag, tag]) :
    ∃ merged, IsMerge merged wanted ∧ schedule = blocks request merged := by
  rcases blocks_or_cut (by simp [request]) schedules with whole | ⟨⟨cut⟩⟩
  · exact whole
  · rw [cut_splits cut, List.map_append, tags_blocks] at paired
    exact absurd (eq_of_pairs paired) cut.differs

end Cuts

section Relabelling

/-- The access with another value written. -/
def relabel (value : Value) : Access Value → Access Value
  | .write _ => .write value
  | .emit => .emit

def isEmit : Access Value → Bool
  | .write _ => false
  | .emit => true

/-- The values written. -/
def writes : List (Access Value) → List Value
  | [] => []
  | .write value :: accesses => value :: writes accesses
  | .emit :: accesses => writes accesses

/-- A list of accesses with the pattern of some requests consists of requests
for the values it writes. -/
theorem eq_requests_of_pattern (values : List Value)
    {accesses : List (Access Value)}
    (pattern : accesses.map isEmit = (values.flatMap request).map isEmit) :
    accesses = (writes accesses).flatMap request := by
  induction values generalizing accesses with
  | nil =>
      rw [List.flatMap_nil, List.map_nil, List.map_eq_nil_iff] at pattern
      rw [pattern]
      rfl
  | cons value values ih =>
      match accesses, pattern with
      | .write first :: .emit :: rest, pattern =>
          have later : rest.map isEmit = (values.flatMap request).map isEmit := by
            simpa [request, isEmit] using pattern
          conv_lhs => rw [ih later]
          rfl
      | [], pattern => simp [request] at pattern
      | .emit :: rest, pattern => simp [request, isEmit] at pattern
      | [.write first], pattern => simp [request] at pattern
      | .write first :: .write second :: rest, pattern =>
          simp [request, isEmit] at pattern

/-- Two schedules with the same parties and the same kinds of accesses. -/
def SamePattern (first second : List (Tag × Access Value)) : Prop :=
  first.map (fun entry => (entry.1, isEmit entry.2)) =
    second.map fun entry => (entry.1, isEmit entry.2)

theorem project_pattern (tag : Tag) (schedule : List (Tag × Access Value)) :
    (project tag schedule).map isEmit =
      project tag (schedule.map fun entry => (entry.1, isEmit entry.2)) := by
  induction schedule with
  | nil => rfl
  | cons entry schedule ih =>
      simp only [project, List.map_cons]
      split
      · rw [List.map_cons, ih]
      · exact ih

/-- The pattern of a schedule can be filled with other values. -/
theorem schedules_of_pattern {first second : List (Tag × Access Value)}
    {wanted : Tag → List Value} (schedules : Schedules first wanted)
    (same : SamePattern second first) :
    Schedules second fun tag => writes (project tag second) := by
  intro tag
  apply eq_requests_of_pattern (wanted tag)
  rw [project_pattern, same, ← project_pattern, schedules tag]

/-- The schedule with the first write of a cut set apart: it writes one
value there and another one everywhere else. -/
def markCut (marked other : Value) {schedule : List (Tag × Access Value)}
    (cut : Cut request schedule) : List (Tag × Access Value) :=
  blocks request (cut.whole.map fun entry => (entry.1, other)) ++
    (cut.tag, .write marked) :: (cut.other, .write other) ::
      cut.rest.map fun entry => (entry.1, relabel other entry.2)

omit [DecidableEq Tag] in
theorem samePattern_markCut (marked other : Value)
    {schedule : List (Tag × Access Value)} (cut : Cut request schedule) :
    SamePattern (markCut marked other cut) schedule := by
  have whole (entries : List (Tag × Value)) :
      (blocks request (entries.map fun entry => (entry.1, other))).map
          (fun entry => (entry.1, isEmit entry.2)) =
        (blocks request entries).map
          fun entry => (entry.1, isEmit entry.2) := by
    simp [blocks, List.flatMap_map, List.map_flatMap, tagged, request, isEmit]
  have rest (access : Access Value) :
      isEmit (relabel other access) = isEmit access := by
    cases access <;> rfl
  have splits := congrArg
    (List.map fun entry => (entry.1, isEmit entry.2)) (cut_splits cut)
  rw [SamePattern, splits, markCut]
  simp only [List.map_append, List.map_cons, List.map_map, whole,
    Function.comp_def, rest]
  rfl

omit [DecidableEq Tag] in
/-- The marked value is overwritten before it is emitted. -/
theorem not_mem_emitted_markCut {marked other : Value}
    (different : marked ≠ other) {schedule : List (Tag × Access Value)}
    (cut : Cut request schedule) (held : Value) :
    marked ∉ emitted held ((markCut marked other cut).map Prod.snd) := by
  rw [markCut, List.map_append, emitted_append, emitted_blocks,
    List.mem_append, not_or]
  constructor
  · simp [different.symm]
  · intro member
    change marked ∈ emitted other _ at member
    rcases mem_emitted member with same | written
    · exact different same
    · rw [List.map_map, List.mem_map] at written
      obtain ⟨⟨_, access⟩, _, isWrite⟩ := written
      cases access with
      | write value =>
          cases isWrite
          exact different rfl
      | emit => cases isWrite

theorem mem_writes {value : Value} {accesses : List (Access Value)}
    (member : .write value ∈ accesses) : value ∈ writes accesses := by
  induction accesses with
  | nil => simp at member
  | cons access accesses ih =>
      rcases List.mem_cons.mp member with rfl | later
      · simp [writes]
      · have inRest := ih later
        cases access with
        | write other => simp [writes, inRest]
        | emit => exact inRest

/-- A schedule with a cut fails to serve the parties when they want other
values. -/
theorem not_serves_markCut {marked other : Value}
    (different : marked ≠ other) {schedule : List (Tag × Access Value)}
    (cut : Cut request schedule) (held : Value) :
    ¬ Serves held (markCut marked other cut)
      fun tag => writes (project tag (markCut marked other cut)) := by
  rintro ⟨merged, merges, same⟩
  have wanted : marked ∈ project cut.tag merged := by
    rw [merges cut.tag]
    apply mem_writes
    apply mem_project
    simp [markCut]
  have member : marked ∈ merged.map Prod.snd :=
    List.mem_map.mpr ⟨_, mem_of_mem_project wanted, rfl⟩
  rw [← same] at member
  exact not_mem_emitted_markCut different cut held member

end Relabelling

/-- Every way of filling the order of a schedule with values serves the
parties exactly if the schedule is made of whole requests. -/
theorem serves_all_iff_blocks [Nontrivial Value]
    {schedule : List (Tag × Access Value)} {wanted : Tag → List Value}
    (schedules : Schedules schedule wanted) (held : Value) :
    (∀ filled want, Schedules filled want →
        filled.map Prod.fst = schedule.map Prod.fst →
        Serves held filled want) ↔
      ∃ merged, IsMerge merged wanted ∧ schedule = blocks request merged := by
  constructor
  · intro serves
    rcases blocks_or_cut (by simp [request]) schedules with whole | ⟨⟨cut⟩⟩
    · exact whole
    · obtain ⟨marked, other, different⟩ := exists_pair_ne Value
      have same := samePattern_markCut marked other cut
      have order := congrArg (List.map Prod.fst) same
      simp only [List.map_map, Function.comp_def] at order
      exact absurd (serves _ _ (schedules_of_pattern schedules same) order)
        (not_serves_markCut different cut held)
  · rintro ⟨merged, _, rfl⟩ filled want fills sameOrder
    rw [tags_blocks] at sameOrder
    obtain ⟨served, isMerge, rfl⟩ := blocks_of_same_order fills sameOrder
    exact ⟨served, isMerge, emitted_blocks held served⟩

end SharedRegister

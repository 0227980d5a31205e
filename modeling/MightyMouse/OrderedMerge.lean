import Mathlib.Algebra.BigOperators.Group.Finset.Piecewise
import Mathlib.Algebra.Ring.Nat
import Mathlib.Data.Fintype.Basic

/-!
# Order-preserving merges

A merge of several sequences is a list whose entries are tagged with the
sequence they come from.  When every item of a sequence is carried out as a
block of events, a schedule of the events either keeps all blocks together or
has a first place where another sequence breaks into a block.
-/

namespace OrderedMerge

variable {Tag Item Event : Type*} [DecidableEq Tag]

/-- The entries with one tag, in order. -/
def project (tag : Tag) : List (Tag × Item) → List Item
  | [] => []
  | entry :: entries =>
      if entry.1 = tag then entry.2 :: project tag entries
      else project tag entries

/-- The list is an order-preserving merge of the parts. -/
def IsMerge (merged : List (Tag × Item)) (parts : Tag → List Item) : Prop :=
  ∀ tag, project tag merged = parts tag

@[simp]
theorem project_nil (tag : Tag) :
    project tag ([] : List (Tag × Item)) = [] :=
  rfl

@[simp]
theorem project_cons_self (tag : Tag) (item : Item)
    (entries : List (Tag × Item)) :
    project tag ((tag, item) :: entries) = item :: project tag entries := by
  simp [project]

theorem project_cons_of_ne {tag other : Tag} (ne : other ≠ tag) (item : Item)
    (entries : List (Tag × Item)) :
    project tag ((other, item) :: entries) = project tag entries := by
  simp [project, ne]

theorem project_append (tag : Tag) (first second : List (Tag × Item)) :
    project tag (first ++ second) =
      project tag first ++ project tag second := by
  induction first with
  | nil => rfl
  | cons entry first ih =>
      simp only [List.cons_append, project]
      split
      · rw [ih, List.cons_append]
      · exact ih

theorem mem_project {tag : Tag} {item : Item} {entries : List (Tag × Item)}
    (member : (tag, item) ∈ entries) : item ∈ project tag entries := by
  induction entries with
  | nil => simp at member
  | cons entry entries ih =>
      rcases List.mem_cons.mp member with rfl | later
      · simp
      · have inRest := ih later
        simp only [project]
        split
        · exact List.mem_cons_of_mem _ inRest
        · exact inRest

theorem mem_of_mem_project {tag : Tag} {item : Item}
    {entries : List (Tag × Item)} (member : item ∈ project tag entries) :
    (tag, item) ∈ entries := by
  induction entries with
  | nil => simp at member
  | cons entry entries ih =>
      simp only [project] at member
      split at member
      · next owned =>
          rcases List.mem_cons.mp member with rfl | later
          · simp [← owned]
          · exact List.mem_cons_of_mem _ (ih later)
      · exact List.mem_cons_of_mem _ (ih member)

/-- Tag all items alike. -/
def tagged (tag : Tag) (items : List Item) : List (Tag × Item) :=
  items.map fun item => (tag, item)

@[simp]
theorem project_tagged_self (tag : Tag) (items : List Item) :
    project tag (tagged tag items) = items := by
  induction items with
  | nil => rfl
  | cons item items ih =>
      change project tag ((tag, item) :: tagged tag items) = _
      rw [project_cons_self, ih]

theorem project_tagged_of_ne {tag other : Tag} (ne : other ≠ tag)
    (items : List Item) : project tag (tagged other items) = [] := by
  induction items with
  | nil => rfl
  | cons item items ih =>
      change project tag ((other, item) :: tagged other items) = _
      rw [project_cons_of_ne ne, ih]

/-- A weight summed over a merge is the sum over its parts. -/
theorem sum_map_eq_sum_parts [Fintype Tag] (weight : Item → Nat)
    {merged : List (Tag × Item)} {parts : Tag → List Item}
    (merges : IsMerge merged parts) :
    (merged.map fun entry => weight entry.2).sum =
      ∑ tag, ((parts tag).map weight).sum := by
  induction merged generalizing parts with
  | nil =>
      have empty (tag : Tag) : parts tag = [] := (merges tag).symm
      simp [empty]
  | cons entry entries ih =>
      have rest : (entries.map fun entry => weight entry.2).sum =
          ∑ tag, ((project tag entries).map weight).sum := ih fun _ => rfl
      have part (tag : Tag) : ((parts tag).map weight).sum =
          (if entry.1 = tag then weight entry.2 else 0) +
            ((project tag entries).map weight).sum := by
        rw [← merges tag, project]
        split <;> simp
      rw [List.map_cons, List.sum_cons, rest]
      simp [part, Finset.sum_add_distrib]

section Blocks

variable (expand : Item → List Event)

/-- Carry out the items of a merge block by block. -/
def blocks (merged : List (Tag × Item)) : List (Tag × Event) :=
  merged.flatMap fun entry => tagged entry.1 (expand entry.2)

/-- A first place where a block is broken into: some blocks are whole, then
another tag's block begins before the current one has ended. -/
structure Cut (trace : List (Tag × Event)) where
  whole : List (Tag × Item)
  tag : Tag
  item : Item
  before : List Event
  after : List Event
  other : Tag
  intruder : Item
  event : Event
  later : List Event
  rest : List (Tag × Event)
  expands : expand item = before ++ after
  begun : before ≠ []
  unfinished : after ≠ []
  intrudes : expand intruder = event :: later
  differs : other ≠ tag
  splits : trace =
    blocks expand whole ++ tagged tag before ++ (other, event) :: rest

/-- Events of one tag follow one another, or another tag comes in between. -/
theorem takes_or_interrupted {tag : Tag} {pending later : List Event}
    {trace : List (Tag × Event)}
    (owed : project tag trace = pending ++ later) :
    (∃ rest, trace = tagged tag pending ++ rest) ∨
      ∃ before after other event rest, pending = before ++ after ∧
        after ≠ [] ∧ other ≠ tag ∧
        trace = tagged tag before ++ (other, event) :: rest := by
  induction pending generalizing trace with
  | nil => exact Or.inl ⟨trace, rfl⟩
  | cons next pending ih =>
      cases trace with
      | nil => simp at owed
      | cons entry trace =>
          obtain ⟨owner, event⟩ := entry
          by_cases same : owner = tag
          · subst owner
            rw [project_cons_self, List.cons_append, List.cons.injEq] at owed
            obtain ⟨rfl, owedLater⟩ := owed
            rcases ih owedLater with ⟨rest, taken⟩ |
              ⟨before, after, other, intruder, rest, splits, unfinished,
                differs, taken⟩
            · exact Or.inl ⟨rest, by rw [taken]; rfl⟩
            · refine Or.inr ⟨event :: before, after, other, intruder, rest, ?_,
                unfinished, differs, ?_⟩
              · rw [splits, List.cons_append]
              · rw [taken]
                rfl
          · exact Or.inr ⟨[], next :: pending, owner, event, trace, rfl,
              by simp, same, rfl⟩

variable {expand}

/-- The first event of a sequence begins the block of its first item. -/
theorem begins_block (nonempty : ∀ item, expand item ≠ [])
    {items : List Item} {event : Event} {events : List Event}
    (begins : items.flatMap expand = event :: events) :
    ∃ item rest later, items = item :: rest ∧ expand item = event :: later := by
  cases items with
  | nil => simp at begins
  | cons item rest =>
      cases expansion : expand item with
      | nil => exact absurd expansion (nonempty item)
      | cons first later =>
          rw [List.flatMap_cons, expansion, List.cons_append,
            List.cons.injEq] at begins
          exact ⟨item, rest, later, rfl, by rw [expansion, begins.1]⟩

/-- What is left of a schedule after a whole block merges what is left of the
parts. -/
theorem isMerge_after_block {parts : Tag → List Item} {tag : Tag}
    {item : Item} {items : List Item} (next : parts tag = item :: items)
    {rest : List (Tag × Event)}
    (merges : IsMerge (tagged tag (expand item) ++ rest)
      fun tag => (parts tag).flatMap expand) :
    IsMerge rest fun other =>
      (Function.update parts tag items other).flatMap expand := by
  intro other
  have here : project other (tagged tag (expand item) ++ rest) =
      (parts other).flatMap expand := merges other
  change project other rest =
    (Function.update parts tag items other).flatMap expand
  rw [project_append] at here
  by_cases same : other = tag
  · subst other
    rw [project_tagged_self, next, List.flatMap_cons] at here
    rw [Function.update_self]
    exact List.append_cancel_left here
  · rw [project_tagged_of_ne (Ne.symm same), List.nil_append] at here
    rw [Function.update_of_ne same]
    exact here

theorem isMerge_cons {parts : Tag → List Item} {tag : Tag}
    {item : Item} {items : List Item} (next : parts tag = item :: items)
    {merged : List (Tag × Item)}
    (merges : IsMerge merged (Function.update parts tag items)) :
    IsMerge ((tag, item) :: merged) parts := by
  intro other
  have here := merges other
  by_cases same : other = tag
  · subst other
    rw [Function.update_self] at here
    rw [project_cons_self, here, next]
  · rw [Function.update_of_ne same] at here
    rw [project_cons_of_ne (Ne.symm same), here]

/-- A cut stays a cut after a whole block. -/
def Cut.afterBlock {trace : List (Tag × Event)} (cut : Cut expand trace)
    (tag : Tag) (item : Item) :
    Cut expand (tagged tag (expand item) ++ trace) :=
  { cut with
    whole := (tag, item) :: cut.whole
    splits := by
      conv_lhs => rw [cut.splits]
      simp [blocks] }

/-- A schedule of blocks keeps them together or has a first cut. -/
theorem blocks_or_cut (nonempty : ∀ item, expand item ≠ [])
    {parts : Tag → List Item} {trace : List (Tag × Event)}
    (merges : IsMerge trace fun tag => (parts tag).flatMap expand) :
    (∃ merged, IsMerge merged parts ∧ trace = blocks expand merged) ∨
      Nonempty (Cut expand trace) := by
  induction measured : trace.length using Nat.strong_induction_on
    generalizing trace parts with
  | _ size ih =>
      cases trace with
      | nil =>
          refine Or.inl ⟨[], fun tag => ?_, rfl⟩
          cases owned : parts tag with
          | nil => rfl
          | cons item items =>
              have none : [] = (parts tag).flatMap expand := merges tag
              rw [owned, List.flatMap_cons, eq_comm,
                List.append_eq_nil_iff] at none
              exact absurd none.1 (nonempty item)
      | cons entry trace =>
          obtain ⟨tag, event⟩ := entry
          have owed : project tag ((tag, event) :: trace) =
              (parts tag).flatMap expand := merges tag
          rw [project_cons_self] at owed
          obtain ⟨item, items, later, next, _⟩ :=
            begins_block nonempty owed.symm
          have pending : project tag ((tag, event) :: trace) =
              expand item ++ items.flatMap expand := by
            rw [project_cons_self, owed, next, List.flatMap_cons]
          rcases takes_or_interrupted pending with ⟨rest, taken⟩ |
            ⟨before, after, other, intruder, rest, splits, unfinished,
              differs, taken⟩
          · rw [taken] at merges measured ⊢
            have shorter : rest.length < size := by
              have := List.length_pos_of_ne_nil (nonempty item)
              simp only [tagged, List.length_append, List.length_map]
                at measured
              omega
            rcases ih rest.length shorter (isMerge_after_block next merges)
              rfl with ⟨merged, isMerge, whole⟩ | ⟨⟨cut⟩⟩
            · refine Or.inl ⟨(tag, item) :: merged, isMerge_cons next isMerge, ?_⟩
              rw [whole]
              simp [blocks]
            · exact Or.inr ⟨cut.afterBlock tag item⟩
          · have begun : before ≠ [] := by
              rintro rfl
              rw [tagged, List.map_nil, List.nil_append, List.cons.injEq,
                Prod.mk.injEq] at taken
              exact differs taken.1.1.symm
            have intrudes : project other ((tag, event) :: trace) =
                (parts other).flatMap expand := merges other
            rw [taken, project_append, project_tagged_of_ne
              (Ne.symm differs), List.nil_append, project_cons_self] at intrudes
            obtain ⟨stranger, _, following, _, expansion⟩ :=
              begins_block nonempty intrudes.symm
            exact Or.inr ⟨{
              whole := []
              tag := tag
              item := item
              before := before
              after := after
              other := other
              intruder := stranger
              event := intruder
              later := following
              rest := rest
              expands := splits
              begun := begun
              unfinished := unfinished
              intrudes := expansion
              differs := differs
              splits := by rw [taken]; rfl }⟩

end Blocks

end OrderedMerge

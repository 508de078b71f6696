import StructuredStreams.Foundation.Table
import Mathlib.Logic.Function.Basic

/-!
# Registries

Items enter tables under numbers, and every item knows the table and the
number it is entered under.  A registry is consistent when the tables and
the places of the items say the same.
-/

universe u v w

/-- Tables of numbered items, and where the items believe to be entered. -/
structure Registry (κ : Type u) (ι : Type v) (σ : Type w) where
  table : κ → List (ι × σ)
  place : σ → Option (κ × ι)

namespace Registry

variable {κ : Type u} {ι : Type v} {σ : Type w}

/-- No number is given twice in a table, and a table holds the items that
are placed there. -/
structure Consistent (registry : Registry κ ι σ) : Prop where
  distinct : ∀ key, DistinctKeys (registry.table key)
  entry_iff :
    ∀ key number item,
      (number, item) ∈ registry.table key ↔
        registry.place item = some (key, number)

theorem Consistent.of_empty
    {registry : Registry κ ι σ}
    (tables : ∀ key, registry.table key = [])
    (places : ∀ item, registry.place item = none) :
    registry.Consistent where
  distinct := by
    intro key
    rw [tables]
    exact DistinctKeys.nil
  entry_iff := by
    intro key number item
    rw [tables, places]
    simp

theorem Consistent.lookup_eq_some
    [BEq ι] [LawfulBEq ι]
    {registry : Registry κ ι σ} (consistent : registry.Consistent)
    {key : κ} {number : ι} {item : σ}
    (placed : registry.place item = some (key, number)) :
    (registry.table key).lookup number = some item :=
  (consistent.distinct key).lookup_eq_some
    ((consistent.entry_iff key number item).mpr placed)

/-- No item is entered twice. -/
theorem Consistent.items_nodup
    {registry : Registry κ ι σ} (consistent : registry.Consistent)
    (key : κ) :
    ((registry.table key).map Prod.snd).Nodup := by
  refine List.Nodup.map_on ?_ (consistent.distinct key).nodup
  intro first firstMember second secondMember sameItem
  have firstPlaced :=
    (consistent.entry_iff key first.1 first.2).mp firstMember
  have secondPlaced :=
    (consistent.entry_iff key second.1 second.2).mp secondMember
  rw [sameItem, secondPlaced, Option.some.injEq, Prod.mk.injEq]
    at firstPlaced
  exact Prod.ext firstPlaced.2.symm sameItem

section Operations

variable [DecidableEq κ] [DecidableEq ι] [DecidableEq σ]

def enter
    (registry : Registry κ ι σ) (key : κ) (number : ι) (item : σ) :
    Registry κ ι σ where
  table :=
    Function.update registry.table key
      ((number, item) :: registry.table key)
  place := Function.update registry.place item (some (key, number))

/-- The item forgets its place, and the table its number. -/
def leave (registry : Registry κ ι σ) (item : σ) : Registry κ ι σ :=
  match registry.place item with
  | none => registry
  | some (key, number) =>
      { table :=
          Function.update registry.table key
            ((registry.table key).filter (·.1 ≠ number))
        place := Function.update registry.place item none }

omit [DecidableEq ι] in
theorem eq_enter
    {registry next : Registry κ ι σ} {key : κ} {number : ι} {item : σ}
    (table : next.table key = (number, item) :: registry.table key)
    (tables :
      ∀ other, other ≠ key → next.table other = registry.table other)
    (place : next.place item = some (key, number))
    (places :
      ∀ other, other ≠ item → next.place other = registry.place other) :
    next = registry.enter key number item := by
  obtain ⟨nextTable, nextPlace⟩ := next
  rw [enter, mk.injEq]
  exact ⟨Function.eq_update_iff.mpr ⟨table, tables⟩,
    Function.eq_update_iff.mpr ⟨place, places⟩⟩

theorem eq_leave
    {registry next : Registry κ ι σ} {key : κ} {number : ι} {item : σ}
    (placed : registry.place item = some (key, number))
    (table :
      next.table key = (registry.table key).filter (·.1 ≠ number))
    (tables :
      ∀ other, other ≠ key → next.table other = registry.table other)
    (place : next.place item = none)
    (places :
      ∀ other, other ≠ item → next.place other = registry.place other) :
    next = registry.leave item := by
  obtain ⟨nextTable, nextPlace⟩ := next
  rw [leave, placed, mk.injEq]
  exact ⟨Function.eq_update_iff.mpr ⟨table, tables⟩,
    Function.eq_update_iff.mpr ⟨place, places⟩⟩

omit [DecidableEq ι] in
theorem enter_table_of_ne
    (registry : Registry κ ι σ) {key other : κ} (different : other ≠ key)
    (number : ι) (item : σ) :
    (registry.enter key number item).table other =
      registry.table other :=
  Function.update_of_ne different _ _

theorem Consistent.enter
    {registry : Registry κ ι σ} (consistent : registry.Consistent)
    {key : κ} {number : ι} {item : σ}
    (absent : registry.place item = none)
    (unused : (registry.table key).lookup number = none) :
    (registry.enter key number item).Consistent where
  distinct := by
    intro other
    dsimp only [Registry.enter]
    by_cases same : other = key
    · subst other
      rw [Function.update_self]
      exact (consistent.distinct key).cons item unused
    · rw [Function.update_of_ne same]
      exact consistent.distinct other
  entry_iff := by
    intro other otherNumber otherItem
    have before := consistent.entry_iff other otherNumber otherItem
    dsimp only [Registry.enter]
    by_cases same : other = key
    · subst other
      rw [Function.update_self, List.mem_cons, before]
      by_cases sameItem : otherItem = item
      · subst otherItem
        rw [Function.update_self, absent]
        simp [eq_comm]
      · rw [Function.update_of_ne sameItem]
        simp [sameItem]
    · rw [Function.update_of_ne same, before]
      by_cases sameItem : otherItem = item
      · subst otherItem
        rw [Function.update_self, absent]
        simp [Ne.symm same]
      · rw [Function.update_of_ne sameItem]

/-- Leaving takes the place of the item away and keeps the others. -/
theorem leave_place (registry : Registry κ ι σ) (item : σ) :
    (registry.leave item).place =
      Function.update registry.place item none := by
  unfold leave
  split
  · next absent =>
      rw [← absent, Function.update_eq_self]
  · rfl

theorem Consistent.leave
    {registry : Registry κ ι σ} (consistent : registry.Consistent)
    (item : σ) :
    (registry.leave item).Consistent := by
  unfold Registry.leave
  split
  · exact consistent
  · next key number placed =>
      refine ⟨?_, ?_⟩
      · intro other
        dsimp only
        by_cases same : other = key
        · subst other
          rw [Function.update_self]
          exact (consistent.distinct key).sublist List.filter_sublist
        · rw [Function.update_of_ne same]
          exact consistent.distinct other
      · intro other otherNumber otherItem
        have before := consistent.entry_iff other otherNumber otherItem
        dsimp only
        by_cases sameItem : otherItem = item
        · subst otherItem
          rw [placed, Option.some.injEq, Prod.mk.injEq] at before
          rw [Function.update_self]
          by_cases same : other = key
          · subst other
            rw [Function.update_self, List.mem_filter, before]
            constructor
            · intro both
              exact absurd both.1.2.symm (of_decide_eq_true both.2)
            · intro impossible
              cases impossible
          · rw [Function.update_of_ne same, before]
            simp [Ne.symm same]
        · rw [Function.update_of_ne sameItem, ← before]
          by_cases same : other = key
          · subst other
            rw [Function.update_self, List.mem_filter]
            have otherNumberOf :
                (otherNumber, otherItem) ∈ registry.table key →
                  otherNumber ≠ number := by
              intro member sameNumber
              subst otherNumber
              have held :=
                (consistent.entry_iff key number item).mpr placed
              exact
                sameItem
                  ((consistent.distinct key).value_eq member held)
            constructor
            · exact And.left
            · intro member
              exact ⟨member, decide_eq_true (otherNumberOf member)⟩
          · rw [Function.update_of_ne same]

/-- After leaving, a table holds its other items. -/
theorem Consistent.mem_leave
    {registry : Registry κ ι σ} (consistent : registry.Consistent)
    {item : σ} {key : κ} {entry : ι × σ}
    (member : entry ∈ (registry.leave item).table key) :
    entry ∈ registry.table key ∧ entry.2 ≠ item := by
  have placed :=
    ((consistent.leave item).entry_iff key entry.1 entry.2).mp member
  rw [leave_place] at placed
  have different : entry.2 ≠ item := by
    intro same
    rw [same, Function.update_self] at placed
    cases placed
  rw [Function.update_of_ne different] at placed
  exact ⟨(consistent.entry_iff key entry.1 entry.2).mpr placed, different⟩

theorem Consistent.leaveAll
    {registry : Registry κ ι σ} (consistent : registry.Consistent)
    (items : List σ) :
    (items.foldl Registry.leave registry).Consistent := by
  induction items generalizing registry with
  | nil =>
      exact consistent
  | cons item items inductionHypothesis =>
      exact inductionHypothesis (consistent.leave item)

/-- What is not among the items stays where it is. -/
theorem leaveAll_place
    {registry : Registry κ ι σ} {items : List σ} {item : σ}
    (absent : item ∉ items) :
    (items.foldl Registry.leave registry).place item =
      registry.place item := by
  induction items generalizing registry with
  | nil =>
      rfl
  | cons first items inductionHypothesis =>
      rw [List.mem_cons, not_or] at absent
      obtain ⟨different, absent⟩ := absent
      rw [List.foldl_cons, inductionHypothesis absent,
        leave_place, Function.update_of_ne different]

/-- A table is empty when all its items have left. -/
theorem Consistent.leaveAll_table
    {registry : Registry κ ι σ} (consistent : registry.Consistent)
    {key : κ} {items : List σ}
    (listed : ∀ entry ∈ registry.table key, entry.2 ∈ items) :
    (items.foldl Registry.leave registry).table key = [] := by
  induction items generalizing registry with
  | nil =>
      apply List.eq_nil_iff_forall_not_mem.mpr
      intro entry member
      exact absurd (listed entry member) List.not_mem_nil
  | cons item items inductionHypothesis =>
      apply inductionHypothesis (consistent.leave item)
      intro entry member
      obtain ⟨old, different⟩ := consistent.mem_leave member
      exact (List.mem_cons.mp (listed entry old)).resolve_left different

/-- An empty table stays empty. -/
theorem Consistent.leaveAll_table_of_nil
    {registry : Registry κ ι σ} (consistent : registry.Consistent)
    {key : κ} (items : List σ) (empty : registry.table key = []) :
    (items.foldl Registry.leave registry).table key = [] := by
  apply consistent.leaveAll_table
  intro entry member
  rw [empty] at member
  cases member

end Operations

end Registry

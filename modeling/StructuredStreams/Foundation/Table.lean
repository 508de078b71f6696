import Mathlib.Data.List.Nodup

/-!
# Hash tables as lists of entries

A list of keys with their values stands for a hash table when no key occurs
twice.
-/

universe u v

variable {κ : Type u} {β : Type v}

def DistinctKeys (table : List (κ × β)) : Prop :=
  (table.map Prod.fst).Nodup

namespace DistinctKeys

theorem nil : DistinctKeys ([] : List (κ × β)) :=
  List.nodup_nil

theorem sublist
    {shorter table : List (κ × β)} (distinct : DistinctKeys table)
    (part : shorter.Sublist table) :
    DistinctKeys shorter :=
  List.Nodup.sublist (part.map Prod.fst) distinct

theorem nodup
    {table : List (κ × β)} (distinct : DistinctKeys table) :
    table.Nodup :=
  List.Nodup.of_map Prod.fst distinct

theorem value_eq
    {table : List (κ × β)} (distinct : DistinctKeys table)
    {key : κ} {value other : β}
    (member : (key, value) ∈ table) (otherMember : (key, other) ∈ table) :
    value = other := by
  have same :=
    List.inj_on_of_nodup_map distinct member otherMember rfl
  exact congrArg Prod.snd same

end DistinctKeys

section Lookup

variable [BEq κ] [LawfulBEq κ]

theorem mem_of_lookup_eq_some
    {table : List (κ × β)} {key : κ} {value : β}
    (found : table.lookup key = some value) :
    (key, value) ∈ table := by
  obtain ⟨before, after, split, _⟩ := List.lookup_eq_some_iff.mp found
  rw [split]
  exact List.mem_append_right before List.mem_cons_self

theorem DistinctKeys.lookup_eq_some
    {table : List (κ × β)} (distinct : DistinctKeys table)
    {key : κ} {value : β} (member : (key, value) ∈ table) :
    table.lookup key = some value := by
  cases found : table.lookup key with
  | none =>
      have different := List.lookup_eq_none_iff.mp found _ member
      simp at different
  | some other =>
      rw [distinct.value_eq (mem_of_lookup_eq_some found) member]

theorem lookup_eq_none_iff_not_mem
    {table : List (κ × β)} {key : κ} :
    table.lookup key = none ↔ key ∉ table.map Prod.fst := by
  rw [List.lookup_eq_none_iff, List.mem_map]
  constructor
  · rintro unused ⟨entry, member, rfl⟩
    have different := unused entry member
    simp at different
  · intro absent entry member
    rw [bne_iff_ne]
    rintro rfl
    exact absent ⟨entry, member, rfl⟩

theorem DistinctKeys.cons
    {table : List (κ × β)} (distinct : DistinctKeys table)
    {key : κ} (value : β) (unused : table.lookup key = none) :
    DistinctKeys ((key, value) :: table) :=
  List.nodup_cons.mpr ⟨lookup_eq_none_iff_not_mem.mp unused, distinct⟩

/-- A table and its reverse lead back to the key. -/
theorem lookup_map_swap [BEq β] [LawfulBEq β]
    {table : List (κ × β)} (distinct : DistinctKeys (table.map Prod.swap))
    {key : κ} {value : β} (found : table.lookup key = some value) :
    (table.map Prod.swap).lookup value = some key :=
  distinct.lookup_eq_some
    (List.mem_map_of_mem (mem_of_lookup_eq_some found))

end Lookup

import Mathlib.Data.List.Nodup
import Mathlib.Logic.Function.Basic

/-!
# Copying by a table of slots

Named values are laid out in a buffer by a table that gives each name its
slot, and read back with the same table.
-/

universe u v

namespace SlotTable

variable {ι : Type u} {β : Type v}

/-- Write the value of every name into its slot. -/
def gather
    (table : List (ι × Nat)) (values : ι → β) (buffer : List β) : List β :=
  table.foldl (fun buffer entry => buffer.set entry.2 (values entry.1)) buffer

/-- Set every name to what its slot holds. -/
def scatter [DecidableEq ι]
    (table : List (ι × Nat)) (buffer : List β) (missing : β)
    (initial : ι → β) : ι → β :=
  table.foldl
    (fun values entry =>
      Function.update values entry.1 (buffer.getD entry.2 missing))
    initial

theorem gather_congr
    {table : List (ι × Nat)} {values other : ι → β}
    (same : ∀ entry ∈ table, values entry.1 = other entry.1)
    (buffer : List β) :
    gather table values buffer = gather table other buffer := by
  refine List.foldl_ext _ _ buffer fun buffer entry member => ?_
  rw [same entry member]

@[simp]
theorem gather_length
    (table : List (ι × Nat)) (values : ι → β) (buffer : List β) :
    (gather table values buffer).length = buffer.length := by
  induction table generalizing buffer with
  | nil =>
      rfl
  | cons entry table inductionHypothesis =>
      rw [gather, List.foldl_cons, ← gather, inductionHypothesis,
        List.length_set]

private theorem gather_getElem?_of_not_mem
    {table : List (ι × Nat)} {slot : Nat}
    (unused : slot ∉ table.map Prod.snd)
    (values : ι → β) (buffer : List β) :
    (gather table values buffer)[slot]? = buffer[slot]? := by
  induction table generalizing buffer with
  | nil =>
      rfl
  | cons entry table inductionHypothesis =>
      rw [List.map_cons, List.mem_cons, not_or] at unused
      rw [gather, List.foldl_cons, ← gather,
        inductionHypothesis unused.2, List.getElem?_set_ne (Ne.symm unused.1)]

/-- Every slot holds the value of its name. -/
theorem gather_getElem?
    {table : List (ι × Nat)} (distinct : (table.map Prod.snd).Nodup)
    (values : ι → β) {buffer : List β}
    {entry : ι × Nat} (member : entry ∈ table)
    (bound : entry.2 < buffer.length) :
    (gather table values buffer)[entry.2]? = some (values entry.1) := by
  induction table generalizing buffer with
  | nil =>
      cases member
  | cons first table inductionHypothesis =>
      rw [List.map_cons, List.nodup_cons] at distinct
      rw [gather, List.foldl_cons, ← gather]
      rcases List.mem_cons.mp member with rfl | later
      · rw [gather_getElem?_of_not_mem distinct.1,
          List.getElem?_set_self bound]
      · exact
          inductionHypothesis distinct.2 later
            (by rw [List.length_set]; exact bound)

/-- What the slots hold is restored, and other names are left alone. -/
theorem scatter_apply [DecidableEq ι]
    {table : List (ι × Nat)} {values : ι → β} {buffer : List β}
    {missing : β}
    (holds :
      ∀ entry ∈ table, buffer.getD entry.2 missing = values entry.1)
    (initial : ι → β) (name : ι) :
    scatter table buffer missing initial name =
      if name ∈ table.map Prod.fst then values name else initial name := by
  induction table generalizing initial with
  | nil =>
      rfl
  | cons entry table inductionHypothesis =>
      obtain ⟨first, later⟩ := List.forall_mem_cons.mp holds
      rw [scatter, List.foldl_cons, ← scatter, inductionHypothesis later,
        first, List.map_cons]
      by_cases same : name = entry.1
      · subst same
        simp
      · rw [Function.update_of_ne same]
        simp only [List.mem_cons, same, false_or]

end SlotTable

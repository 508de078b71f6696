import Mathlib.Algebra.Order.Ring.Nat
import Mathlib.Data.List.Nodup
import Mathlib.Data.List.Perm.Basic

/-!
# Pieces laid end to end

A list of sizes cuts an interval of the natural numbers into pieces, each
given by its start and its size.  The starts are distinct exactly when no
piece but the last is empty.  A set that is filled one by one with the items
of a list has one element for each item exactly when the items are distinct.
-/

universe u

/-- The pieces cover the interval from `first` to `last` in order, without a
gap and without an overlap. -/
def Tiles (first : Nat) : (pieces : List (Nat × Nat)) → (last : Nat) → Prop
  | [], last => first = last
  | (start, size) :: pieces, last =>
      start = first ∧ Tiles (first + size) pieces last

/-- Pieces of the given sizes, laid end to end. -/
def piecesFrom (first : Nat) : (sizes : List Nat) → List (Nat × Nat)
  | [] => []
  | size :: sizes => (first, size) :: piecesFrom (first + size) sizes

theorem tiles_piecesFrom (first : Nat) (sizes : List Nat) :
    Tiles first (piecesFrom first sizes) (first + sizes.sum) := by
  induction sizes generalizing first with
  | nil =>
      exact rfl
  | cons size sizes inductionHypothesis =>
      refine ⟨rfl, ?_⟩
      rw [List.sum_cons, ← Nat.add_assoc]
      exact inductionHypothesis (first + size)

theorem piecesFrom_append (first : Nat) (sizes further : List Nat) :
    piecesFrom first (sizes ++ further) =
      piecesFrom first sizes ++
        piecesFrom (first + sizes.sum) further := by
  induction sizes generalizing first with
  | nil =>
      rfl
  | cons size sizes inductionHypothesis =>
      simp only [List.cons_append, piecesFrom, inductionHypothesis,
        List.sum_cons, Nat.add_assoc]

theorem start_bounds
    {first : Nat} {sizes : List Nat} {piece : Nat × Nat}
    (member : piece ∈ piecesFrom first sizes) :
    first ≤ piece.1 ∧ piece.1 ≤ first + sizes.sum := by
  induction sizes generalizing first with
  | nil =>
      cases member
  | cons size sizes inductionHypothesis =>
      rw [List.sum_cons]
      rcases List.mem_cons.mp member with rfl | later
      · dsimp only
        omega
      · have bounds := inductionHypothesis later
        omega

theorem size_mem_of_mem_piecesFrom
    {first : Nat} {sizes : List Nat} {piece : Nat × Nat}
    (member : piece ∈ piecesFrom first sizes) :
    piece.2 ∈ sizes := by
  induction sizes generalizing first with
  | nil =>
      cases member
  | cons size sizes inductionHypothesis =>
      rcases List.mem_cons.mp member with rfl | later
      · exact List.mem_cons_self
      · exact List.mem_cons_of_mem size (inductionHypothesis later)

/-- The starts are distinct exactly when only the last piece may be empty. -/
theorem starts_nodup_iff (first : Nat) (sizes : List Nat) :
    ((piecesFrom first sizes).map Prod.fst).Nodup ↔
      ∀ size ∈ sizes.dropLast, 0 < size := by
  induction sizes generalizing first with
  | nil =>
      simp [piecesFrom]
  | cons size sizes inductionHypothesis =>
      cases sizes with
      | nil =>
          simp [piecesFrom]
      | cons next sizes =>
          have fresh :
              first ∉
                  (piecesFrom (first + size) (next :: sizes)).map
                    Prod.fst ↔
                0 < size := by
            constructor
            · intro absent
              by_contra empty
              apply absent
              have zero : size = 0 := by
                omega
              simp [piecesFrom, zero]
            · intro positive member
              obtain ⟨piece, isPiece, start⟩ := List.mem_map.mp member
              have bounds := start_bounds isPiece
              omega
          rw [piecesFrom, List.map_cons, List.nodup_cons, fresh,
            inductionHypothesis, List.dropLast_cons_cons,
            List.forall_mem_cons]

section InsertAll

variable {α : Type u} [DecidableEq α]

/-- Insert the items into a set one after the other. -/
def insertAll (held items : List α) : List α :=
  items.foldl (fun held item => held.insert item) held

theorem insertAll_snoc (held items : List α) (item : α) :
    insertAll held (items ++ [item]) =
      (insertAll held items).insert item := by
  simp [insertAll, List.foldl_append]

theorem mem_insertAll {held items : List α} {item : α} :
    item ∈ insertAll held items ↔ item ∈ held ∨ item ∈ items := by
  induction items generalizing held with
  | nil =>
      simp [insertAll]
  | cons head items inductionHypothesis =>
      rw [insertAll, List.foldl_cons, ← insertAll, inductionHypothesis,
        List.mem_insert_iff, List.mem_cons, or_left_comm, or_assoc]

private theorem nodup_insertAll
    {held : List α} (nodup : held.Nodup) (items : List α) :
    (insertAll held items).Nodup := by
  induction items generalizing held with
  | nil =>
      exact nodup
  | cons item items inductionHypothesis =>
      exact inductionHypothesis (List.Nodup.insert nodup)

private theorem insertAll_perm
    {held items : List α} (distinct : (items ++ held).Nodup) :
    (insertAll held items).Perm (items ++ held) := by
  induction items generalizing held with
  | nil =>
      exact List.Perm.refl held
  | cons item items inductionHypothesis =>
      rw [List.cons_append, List.nodup_cons] at distinct
      have absent : item ∉ held := by
        intro member
        exact distinct.1 (List.mem_append_right items member)
      have inserted : held.insert item = item :: held :=
        List.insert_of_not_mem absent
      have moved :
          (items ++ item :: held).Perm (item :: (items ++ held)) :=
        List.perm_middle
      have later : (items ++ item :: held).Nodup := by
        rw [moved.nodup_iff]
        exact List.nodup_cons.mpr distinct
      have rest := inductionHypothesis later
      rw [insertAll, List.foldl_cons, inserted]
      exact rest.trans moved

/-- There is one element for each item exactly when the items are
distinct. -/
theorem insertAll_perm_iff (items : List α) :
    (insertAll [] items).Perm items ↔ items.Nodup := by
  constructor
  · intro same
    exact same.nodup_iff.mp (nodup_insertAll List.nodup_nil items)
  · intro distinct
    have same : (insertAll [] items).Perm (items ++ []) :=
      insertAll_perm (by rwa [List.append_nil])
    rwa [List.append_nil] at same

end InsertAll

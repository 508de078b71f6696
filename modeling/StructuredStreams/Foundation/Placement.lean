import Mathlib.Data.List.Count
import Mathlib.Logic.Function.Basic

/-!
# Items that stand in at most one line

Each item has a place, which is a line or nowhere, and the lines mirror the
places when an item occurs once in the line of its place and in no other.
The rules say how a change of one line goes with a change of one place.
-/

universe u v

variable {σ : Type u} {κ : Type v} [DecidableEq σ] [DecidableEq κ]

/-- An item occurs once in the line of its place and in no other line. -/
def Mirrors (lines : κ → List σ) (place : σ → Option κ) : Prop :=
  ∀ item line,
    (lines line).count item = if place item = some line then 1 else 0

namespace Mirrors

variable {lines : κ → List σ} {place : σ → Option κ}

theorem mem_iff
    (mirrors : Mirrors lines place) (item : σ) (line : κ) :
    item ∈ lines line ↔ place item = some line := by
  rw [← List.count_pos_iff, mirrors item line]
  split
  · next placed =>
      exact ⟨fun _ => placed, fun _ => Nat.one_pos⟩
  · next elsewhere =>
      exact ⟨fun impossible => absurd impossible (Nat.lt_irrefl 0),
        fun placed => absurd placed elsewhere⟩

theorem count_le_one
    (mirrors : Mirrors lines place) (item : σ) (line : κ) :
    (lines line).count item ≤ 1 := by
  rw [mirrors item line]
  split
  · exact Nat.le_refl 1
  · exact Nat.zero_le 1

/-- An item that stands nowhere joins a line, anywhere in it. -/
theorem join
    (mirrors : Mirrors lines place)
    {item : σ} {line : κ} {longer : List σ}
    (nowhere : place item = none)
    (joined : longer.Perm (item :: lines line)) :
    Mirrors
      (Function.update lines line longer)
      (Function.update place item (some line)) := by
  intro other otherLine
  have before := mirrors other otherLine
  by_cases sameLine : otherLine = line
  · subst otherLine
    rw [Function.update_self, joined.count_eq, List.count_cons, before]
    by_cases sameItem : other = item
    · subst other
      simp [nowhere]
    · simp [Function.update_of_ne sameItem, Ne.symm sameItem]
  · rw [Function.update_of_ne sameLine, before]
    by_cases sameItem : other = item
    · subst other
      simp [nowhere, Ne.symm sameLine]
    · rw [Function.update_of_ne sameItem]

/-- An item that stands in no other line leaves a line. -/
theorem leave
    (mirrors : Mirrors lines place)
    {item : σ} {line : κ}
    (notElsewhere : ∀ other, place item = some other → other = line) :
    Mirrors
      (Function.update lines line
        ((lines line).filter fun other => other ≠ item))
      (Function.update place item none) := by
  intro other otherLine
  have before := mirrors other otherLine
  by_cases sameItem : other = item
  · subst other
    rw [Function.update_self]
    by_cases sameLine : otherLine = line
    · subst otherLine
      rw [Function.update_self]
      simp [List.count_eq_zero, List.mem_filter]
    · rw [Function.update_of_ne sameLine, before]
      have elsewhere : place item ≠ some otherLine := by
        intro placed
        exact sameLine (notElsewhere otherLine placed)
      simp [elsewhere]
  · rw [Function.update_of_ne sameItem, ← before]
    by_cases sameLine : otherLine = line
    · subst otherLine
      rw [Function.update_self]
      exact List.count_filter (by simpa using sameItem)
    · rw [Function.update_of_ne sameLine]

/-- The front of a line leaves it. -/
theorem leave_front
    (mirrors : Mirrors lines place)
    {item : σ} {line : κ} {rest : List σ}
    (front : lines line = item :: rest) :
    Mirrors
      (Function.update lines line rest)
      (Function.update place item none) := by
  have placed : place item = some line :=
    (mirrors.mem_iff item line).mp (by simp [front])
  have once : (item :: rest).count item = 1 := by
    rw [← front, mirrors item line, if_pos placed]
  have absent : item ∉ rest := by
    rw [List.count_cons_self] at once
    exact List.count_eq_zero.mp (by omega)
  have shorter :
      (lines line).filter (fun other => other ≠ item) = rest := by
    rw [front, List.filter_cons_of_neg (by simp)]
    apply List.filter_eq_self.mpr
    intro other member
    simp only [ne_eq, decide_eq_true_eq]
    rintro rfl
    exact absent member
  rw [← shorter]
  apply mirrors.leave
  intro other alsoPlaced
  rw [placed] at alsoPlaced
  injection alsoPlaced with same
  exact same.symm

/-- A line is rearranged. -/
theorem rearrange
    (mirrors : Mirrors lines place)
    {line : κ} {rearranged : List σ}
    (perm : rearranged.Perm (lines line)) :
    Mirrors (Function.update lines line rearranged) place := by
  intro other otherLine
  rw [← mirrors other otherLine]
  by_cases sameLine : otherLine = line
  · subst otherLine
    rw [Function.update_self, perm.count_eq]
  · rw [Function.update_of_ne sameLine]

end Mirrors

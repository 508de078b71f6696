import Mathlib.Data.Nat.Notation

/-!
# Upper bounds by bisection

`upperBound follows items` is the search of the C++ standard library for the
first item that must come after a new one.  On a list in which no such item
stands before another one, that is where the latter begin; on any other list
it is some position of the list.
-/

universe u

variable {α : Type u}

/-- Bisect the `len` items from `first` on. -/
def upperBoundLoop (follows : α → Bool) (items : List α) :
    (fuel : Nat) → (first len : Nat) → Nat
  | 0, first, _ => first
  | fuel + 1, first, len =>
      if len = 0 then first
      else
        let half := len / 2
        match items[first + half]? with
        | none => first
        | some middle =>
            if follows middle then upperBoundLoop follows items fuel first half
            else
              upperBoundLoop follows items fuel (first + half + 1)
                (len - half - 1)

def upperBound (follows : α → Bool) (items : List α) : Nat :=
  upperBoundLoop follows items items.length 0 items.length

private theorem upperBoundLoop_le
    (follows : α → Bool) (items : List α) (fuel first len : Nat) :
    upperBoundLoop follows items fuel first len ≤ first + len := by
  induction fuel generalizing first len with
  | zero =>
      exact Nat.le_add_right first len
  | succ fuel inductionHypothesis =>
      have lower := inductionHypothesis first (len / 2)
      have upper :=
        inductionHypothesis (first + len / 2 + 1) (len - len / 2 - 1)
      rw [upperBoundLoop]
      split
      · omega
      · simp only
        split
        · omega
        · split <;> omega

private theorem upperBound_le_length (follows : α → Bool) (items : List α) :
    upperBound follows items ≤ items.length := by
  have bound := upperBoundLoop_le follows items items.length 0 items.length
  rw [upperBound]
  omega

private theorem follows_iff_of_partitioned
    {follows : α → Bool} {before after : List α}
    (notBefore : ∀ item ∈ before, follows item = false)
    (onlyAfter : ∀ item ∈ after, follows item = true)
    {position : Nat} {item : α}
    (present : (before ++ after)[position]? = some item) :
    follows item = true ↔ before.length ≤ position := by
  by_cases early : position < before.length
  · rw [List.getElem?_append_left early] at present
    have member := List.mem_of_getElem? present
    simp [notBefore item member]
    exact early
  · rw [List.getElem?_append_right (by omega)] at present
    have member := List.mem_of_getElem? present
    simp [onlyAfter item member]
    omega

/-- On a partitioned list the search ends where the second part begins. -/
theorem upperBound_eq_of_partitioned
    {follows : α → Bool} {before after : List α}
    (notBefore : ∀ item ∈ before, follows item = false)
    (onlyAfter : ∀ item ∈ after, follows item = true) :
    upperBound follows (before ++ after) = before.length := by
  suffices bisected :
      ∀ fuel first len,
        len ≤ fuel →
        first ≤ before.length →
        before.length ≤ first + len →
        first + len ≤ (before ++ after).length →
        upperBoundLoop follows (before ++ after) fuel first len =
          before.length by
    refine bisected _ 0 _ (Nat.le_refl _) (Nat.zero_le _) ?_ ?_
    · rw [List.length_append]
      omega
    · omega
  intro fuel
  induction fuel with
  | zero =>
      intro first len enough lower upper _
      rw [upperBoundLoop]
      omega
  | succ fuel inductionHypothesis =>
      intro first len enough lower upper inside
      rw [upperBoundLoop]
      split
      · omega
      · next nonempty =>
          have middleInside :
              first + len / 2 < (before ++ after).length := by
            omega
          simp only [List.getElem?_eq_getElem middleInside]
          have decides :=
            follows_iff_of_partitioned notBefore onlyAfter
              (List.getElem?_eq_getElem middleInside)
          split
          · next isAfter =>
              have bound := decides.mp isAfter
              exact
                inductionHypothesis first (len / 2) (by omega) lower
                  bound (by omega)
          · next isBefore =>
              have bound := mt decides.mpr isBefore
              exact
                inductionHypothesis (first + len / 2 + 1)
                  (len - len / 2 - 1) (by omega) (by omega) (by omega)
                  (by omega)

/-- Insert an item in front of those that must follow it. -/
def insertUpperBound (follows : α → Bool) (item : α) (items : List α) :
    List α :=
  items.insertIdx (upperBound follows items) item

theorem insertUpperBound_perm
    (follows : α → Bool) (item : α) (items : List α) :
    (insertUpperBound follows item items).Perm (item :: items) :=
  List.perm_insertIdx item items (upperBound_le_length follows items)

theorem insertUpperBound_of_partitioned
    {follows : α → Bool} {before after : List α}
    (notBefore : ∀ item ∈ before, follows item = false)
    (onlyAfter : ∀ item ∈ after, follows item = true)
    (item : α) :
    insertUpperBound follows item (before ++ after) =
      before ++ item :: after := by
  rw [insertUpperBound, upperBound_eq_of_partitioned notBefore onlyAfter]
  clear notBefore onlyAfter
  induction before with
  | nil =>
      rfl
  | cons first before inductionHypothesis =>
      simp only [List.cons_append, List.length_cons,
        List.insertIdx_succ_cons, inductionHypothesis]

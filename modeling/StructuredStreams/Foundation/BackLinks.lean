import Mathlib.Logic.Function.Basic

/-!
# Links with back-links

Two tables of pointers at each other.  Whatever one side points to points
back, which the rules keep when a pair is linked or taken apart.
-/

universe u v

variable {α : Type u} {β : Type v}

/-- Every link has its back-link, and there are no others. -/
def Paired (forth : α → Option β) (back : β → Option α) : Prop :=
  ∀ first second, forth first = some second ↔ back second = some first

namespace Paired

variable {forth : α → Option β} {back : β → Option α}

theorem of_empty
    (nothing : ∀ first, forth first = none)
    (nobody : ∀ second, back second = none) :
    Paired forth back := by
  intro first second
  rw [nothing, nobody]
  exact ⟨nofun, nofun⟩

/-- What a list of links leads to leads back to the list. -/
theorem map_back
    (paired : Paired forth back) {firsts : List α} {seconds : List β}
    (linked : firsts.map forth = seconds.map some) :
    seconds.map back = firsts.map some := by
  induction firsts generalizing seconds with
  | nil =>
      rw [List.map_nil, eq_comm, List.map_eq_nil_iff] at linked
      rw [linked]
      rfl
  | cons first firsts inductionHypothesis =>
      cases seconds with
      | nil =>
          cases linked
      | cons second seconds =>
          rw [List.map_cons, List.map_cons, List.cons.injEq] at linked
          obtain ⟨front, rest⟩ := linked
          rw [List.map_cons, List.map_cons, (paired first second).mp front,
            inductionHypothesis rest]

variable [DecidableEq α] [DecidableEq β]

/-- Two free sides are linked. -/
theorem link
    (paired : Paired forth back) {first : α} {second : β}
    (free : forth first = none) (alsoFree : back second = none) :
    Paired (Function.update forth first (some second))
      (Function.update back second (some first)) := by
  intro other otherSecond
  by_cases same : other = first
  · subst other
    rw [Function.update_self]
    by_cases sameSecond : otherSecond = second
    · subst otherSecond
      rw [Function.update_self]
      exact ⟨fun _ => rfl, fun _ => rfl⟩
    · rw [Function.update_of_ne sameSecond, ← paired, free]
      constructor
      · intro linked
        cases linked
        exact absurd rfl sameSecond
      · nofun
  · rw [Function.update_of_ne same]
    by_cases sameSecond : otherSecond = second
    · subst otherSecond
      rw [Function.update_self, paired, alsoFree]
      constructor
      · nofun
      · intro linked
        cases linked
        exact absurd rfl same
    · rw [Function.update_of_ne sameSecond]
      exact paired other otherSecond

/-- A linked pair is taken apart. -/
theorem unlink
    (paired : Paired forth back) {first : α} {second : β}
    (linked : forth first = some second) :
    Paired (Function.update forth first none)
      (Function.update back second none) := by
  intro other otherSecond
  by_cases same : other = first
  · subst other
    rw [Function.update_self]
    by_cases sameSecond : otherSecond = second
    · subst otherSecond
      rw [Function.update_self]
      exact ⟨nofun, nofun⟩
    · rw [Function.update_of_ne sameSecond, ← paired, linked]
      constructor
      · nofun
      · intro linkedOther
        cases linkedOther
        exact absurd rfl sameSecond
  · rw [Function.update_of_ne same]
    by_cases sameSecond : otherSecond = second
    · subst otherSecond
      rw [Function.update_self, paired]
      constructor
      · intro linkedOther
        have alsoLinked := (paired first second).mp linked
        rw [alsoLinked] at linkedOther
        cases linkedOther
        exact absurd rfl same
      · nofun
    · rw [Function.update_of_ne sameSecond]
      exact paired other otherSecond

end Paired

import Mathlib.Data.List.Count
import Mathlib.Data.List.Nodup
import Mathlib.Logic.Function.Basic

/-!
# Queues that are served from the front

A family of queues is given by what waits in each of them, beside two
histories: what arrived, and what was taken.  Items may be dropped, but an
item arrives once, and each queue is served in the order of arrival.
-/

universe u v

variable {κ : Type u} {α : Type v} [DecidableEq κ]

/-- The items of a history that belong to one queue. -/
def itemsAt (key : κ) (history : List (κ × α)) : List α :=
  (history.filter fun entry => entry.1 = key).map Prod.snd

theorem itemsAt_snoc (key : κ) (history : List (κ × α)) (entry : κ × α) :
    itemsAt key (history ++ [entry]) =
      if entry.1 = key then itemsAt key history ++ [entry.2]
      else itemsAt key history := by
  rw [itemsAt, List.filter_append]
  split
  · next same =>
      rw [List.filter_cons_of_pos (by simp [same])]
      exact List.map_append
  · next different =>
      rw [List.filter_cons_of_neg (by simp [different])]
      exact congrArg _ (List.append_nil _)

private theorem mem_itemsAt {key : κ} {history : List (κ × α)} {item : α} :
    item ∈ itemsAt key history ↔ (key, item) ∈ history := by
  rw [itemsAt, List.mem_map]
  constructor
  · rintro ⟨entry, member, rfl⟩
    obtain ⟨member, same⟩ := List.mem_filter.mp member
    rw [← of_decide_eq_true same]
    exact member
  · intro member
    exact ⟨(key, item), List.mem_filter.mpr ⟨member, by simp⟩, rfl⟩

theorem itemsAt_sublist (key : κ) (history : List (κ × α)) :
    (itemsAt key history).Sublist (history.map Prod.snd) :=
  List.filter_sublist.map Prod.snd

private theorem count_itemsAt
    [DecidableEq α] (key : κ) (item : α) (history : List (κ × α)) :
    (itemsAt key history).count item = history.count (key, item) := by
  induction history with
  | nil =>
      rfl
  | cons entry history inductionHypothesis =>
      rw [itemsAt, List.filter_cons]
      by_cases same : entry.1 = key
      · rw [if_pos (by simp [same]), List.map_cons, List.count_cons,
          List.count_cons, ← itemsAt, inductionHypothesis]
        simp [Prod.ext_iff, same]
      · have different : entry ≠ (key, item) :=
          fun equal => same (congrArg Prod.fst equal)
        rw [if_neg (by simp [same]), ← itemsAt,
          List.count_cons_of_ne different, inductionHypothesis]

/-- Every item arrives once, and what was taken from a queue and what waits
in it stand in the order of arrival. -/
structure ServedInOrder
    (arrived taken : List (κ × α)) (waiting : κ → List α) : Prop where
  once : (arrived.map Prod.snd).Nodup
  order :
    ∀ key,
      (itemsAt key taken ++ waiting key).Sublist (itemsAt key arrived)

namespace ServedInOrder

variable {arrived taken : List (κ × α)} {waiting : κ → List α}

theorem of_empty (empty : ∀ key, waiting key = []) :
    ServedInOrder [] [] waiting where
  once := List.nodup_nil
  order := fun key => by
    rw [empty key]
    exact List.nil_sublist _

theorem arrived_of_waiting
    (served : ServedInOrder arrived taken waiting)
    {key : κ} {item : α} (waits : item ∈ waiting key) :
    (key, item) ∈ arrived :=
  mem_itemsAt.mp
    ((served.order key).subset (List.mem_append_right _ waits))

private theorem arrived_of_taken
    (served : ServedInOrder arrived taken waiting)
    {entry : κ × α} (gone : entry ∈ taken) :
    entry ∈ arrived :=
  mem_itemsAt.mp
    ((served.order entry.1).subset
      (List.mem_append_left _ (mem_itemsAt.mpr gone)))

/-- An item belongs to one queue. -/
theorem key_eq
    (served : ServedInOrder arrived taken waiting)
    {key other : κ} {item : α} (first : (key, item) ∈ arrived)
    (second : (other, item) ∈ arrived) :
    key = other :=
  congrArg Prod.fst (List.inj_on_of_nodup_map served.once first second rfl)

private theorem nodup_at
    (served : ServedInOrder arrived taken waiting) (key : κ) :
    (itemsAt key taken ++ waiting key).Nodup :=
  ((served.order key).trans (itemsAt_sublist key arrived)).nodup
    served.once

/-- What was taken from a queue waits in none. -/
theorem not_waiting_of_taken
    (served : ServedInOrder arrived taken waiting)
    {key : κ} {item : α} (gone : (key, item) ∈ taken) (other : κ) :
    item ∉ waiting other := by
  intro waits
  have same :=
    served.key_eq (served.arrived_of_taken gone)
      (served.arrived_of_waiting waits)
  subst other
  exact
    (List.nodup_append'.mp (served.nodup_at key)).2.2
      (mem_itemsAt.mpr gone) waits

/-- Nothing is taken twice, from whatever queue. -/
theorem taken_nodup
    (served : ServedInOrder arrived taken waiting) :
    (taken.map Prod.snd).Nodup := by
  classical
  have distinct : taken.Nodup := by
    rw [List.nodup_iff_count_le_one]
    intro entry
    rw [← count_itemsAt entry.1 entry.2]
    exact
      List.nodup_iff_count_le_one.mp
        (List.nodup_append'.mp (served.nodup_at entry.1)).1 entry.2
  refine List.Nodup.map_on ?_ distinct
  intro first firstTaken second secondTaken same
  exact
    List.inj_on_of_nodup_map served.once
      (served.arrived_of_taken firstTaken)
      (served.arrived_of_taken secondTaken) same

/-- An item that never arrived before joins a queue. -/
theorem arrive
    (served : ServedInOrder arrived taken waiting)
    {key : κ} {item : α} (new : item ∉ arrived.map Prod.snd) :
    ServedInOrder (arrived ++ [(key, item)]) taken
      (Function.update waiting key (waiting key ++ [item])) where
  once := by
    rw [List.map_append]
    refine served.once.append (List.nodup_singleton item) ?_
    intro other earlier same
    rw [List.mem_singleton.mp same] at earlier
    exact new earlier
  order := by
    intro other
    rw [itemsAt_snoc]
    split
    · next same =>
        dsimp only at same
        subst other
        rw [Function.update_self, ← List.append_assoc]
        exact (served.order key).append (List.Sublist.refl [item])
    · next different =>
        rw [Function.update_of_ne (Ne.symm different)]
        exact served.order other

/-- The front of a queue is taken. -/
theorem take
    (served : ServedInOrder arrived taken waiting)
    {key : κ} {item : α} {rest : List α}
    (front : waiting key = item :: rest) :
    ServedInOrder arrived (taken ++ [(key, item)])
      (Function.update waiting key rest) where
  once := served.once
  order := by
    intro other
    rw [itemsAt_snoc]
    split
    · next same =>
        dsimp only at same
        subst other
        have before := served.order key
        rw [front] at before
        rw [Function.update_self, List.append_assoc]
        exact before
    · next different =>
        rw [Function.update_of_ne (Ne.symm different)]
        exact served.order other

/-- Items that wait are dropped. -/
theorem drop
    (served : ServedInOrder arrived taken waiting)
    {fewer : κ → List α}
    (left : ∀ key, (fewer key).Sublist (waiting key)) :
    ServedInOrder arrived taken fewer where
  once := served.once
  order := fun key =>
    ((List.Sublist.refl _).append (left key)).trans (served.order key)

end ServedInOrder

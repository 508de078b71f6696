import Mathlib.Data.Nat.Notation

/-!
# Guarded computations

Rules for computations in `Option` whose assertions are guards: what a
computation that got through tells about its parts, and invariants of folds
that may fail.
-/

universe u v w

theorem guard_bind_eq_some_iff
    {α : Type} {condition : Prop} [Decidable condition]
    {next : Unit → Option α} {result : α} :
    (guard condition >>= next) = some result ↔
      condition ∧ next () = some result := by
  by_cases holds : condition
  · have passes : (guard condition : Option Unit) = some () :=
      if_pos holds
    rw [passes]
    exact ⟨fun returned => ⟨holds, returned⟩, fun both => both.2⟩
  · have fails : (guard condition : Option Unit) = none :=
      if_neg holds
    rw [fails]
    constructor
    · intro impossible
      cases impossible
    · intro both
      exact absurd both.1 holds

theorem guard_bind_of_holds
    {α : Type} {condition : Prop} [Decidable condition]
    {next : Unit → Option α} (holds : condition) :
    (guard condition >>= next) = next () := by
  have passes : (guard condition : Option Unit) = some () :=
    if_pos holds
  rw [passes]
  rfl

theorem guard_bind_isSome_iff
    {α : Type} {condition : Prop} [Decidable condition]
    {next : Unit → Option α} :
    (guard condition >>= next).isSome ↔
      condition ∧ (next ()).isSome := by
  rw [Option.isSome_iff_exists, Option.isSome_iff_exists]
  constructor
  · rintro ⟨result, returned⟩
    obtain ⟨holds, returned⟩ := guard_bind_eq_some_iff.mp returned
    exact ⟨holds, result, returned⟩
  · rintro ⟨holds, result, returned⟩
    exact ⟨result, guard_bind_eq_some_iff.mpr ⟨holds, returned⟩⟩

theorem bind_eq_some_iff
    {α β : Type u} {first : Option α} {next : α → Option β} {result : β} :
    (first >>= next) = some result ↔
      ∃ value, first = some value ∧ next value = some result := by
  cases first with
  | none =>
      simp
  | some value =>
      simp

theorem toOption_bind_ok
    {ε : Type w} {α β : Type u} {result : Except ε α} {value : α}
    {next : α → Option β} (read : result = .ok value) :
    (result.toOption >>= next) = next value := by
  rw [read]
  rfl

/-- What every pass carries over holds after the fold. -/
theorem foldlM_invariant
    {σ : Type u} {α : Type v} {pass : σ → α → Option σ}
    (invariant : σ → Prop) {items : List α} {start final : σ}
    (preserved :
      ∀ item ∈ items, ∀ before after,
        invariant before →
        pass before item = some after →
        invariant after)
    (initial : invariant start)
    (folded : items.foldlM pass start = some final) :
    invariant final := by
  induction items generalizing start with
  | nil =>
      cases folded
      exact initial
  | cons item items inductionHypothesis =>
      rw [List.foldlM_cons, bind_eq_some_iff] at folded
      obtain ⟨middle, passed, folded⟩ := folded
      exact
        inductionHypothesis
          (fun other member =>
            preserved other (List.mem_cons_of_mem item member))
          (preserved item List.mem_cons_self start middle initial passed)
          folded

/-- A preorder that holds across every pass holds across the fold. -/
theorem foldlM_related
    {σ : Type u} {α : Type v} {pass : σ → α → Option σ}
    {related : σ → σ → Prop} {items : List α} {start final : σ}
    (refl : ∀ state, related state state)
    (trans :
      ∀ {first second third},
        related first second → related second third → related first third)
    (passes :
      ∀ before item after,
        pass before item = some after → related before after)
    (folded : items.foldlM pass start = some final) :
    related start final :=
  foldlM_invariant (related start)
    (fun item _ before after reached passed =>
      trans reached (passes before item after passed))
    (refl start) folded

/-- What is observed in the passes of a fold, up to and including the pass
that fails. -/
def foldTrace
    {σ : Type u} {α : Type v} {ω : Type w} (pass : σ → α → Option σ)
    (observe : σ → α → List ω) : (items : List α) → σ → List ω
  | [], _ => []
  | item :: items, state =>
      observe state item ++
        match pass state item with
        | none => []
        | some next => foldTrace pass observe items next

/-- An invariant of the state and the items that are left: what every pass
that starts with it lets be observed is observed in the whole fold. -/
theorem foldTrace_invariant
    {σ : Type u} {α : Type v} {ω : Type w} {pass : σ → α → Option σ}
    {observe : σ → α → List ω} (invariant : List α → σ → Prop)
    (Good : ω → Prop)
    (preserved :
      ∀ item items before after,
        invariant (item :: items) before →
        pass before item = some after →
        invariant items after)
    (good :
      ∀ item items before,
        invariant (item :: items) before →
        ∀ seen ∈ observe before item, Good seen)
    {items : List α} {start : σ} (initial : invariant items start) :
    ∀ seen ∈ foldTrace pass observe items start, Good seen := by
  induction items generalizing start with
  | nil =>
      intro seen member
      cases member
  | cons item items inductionHypothesis =>
      intro seen member
      rw [foldTrace] at member
      rcases List.mem_append.mp member with here | later
      · exact good item items start initial seen here
      · split at later
        · cases later
        · next next passed =>
            exact
              inductionHypothesis
                (preserved item items start next initial passed) seen later

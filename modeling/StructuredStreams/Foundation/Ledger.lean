import Mathlib.Data.List.Count

/-!
# Histories of reports on items

A history is a list of events, the latest first.  Some events report on an
item, and some of the reports settle it.  In a history that is once-only an
item gets at most one report that does not settle it, and none after it was
settled.
-/

universe u v

variable {ε : Type u} {ι : Type v}

section OnceOnly

variable (item : ε → Option ι) (Settles : ε → Prop)

def OnceOnly (history : List ε) : Prop :=
  history.Pairwise fun later earlier =>
    ∀ subject, item later = some subject → item earlier = some subject →
      Settles later ∧ ¬ Settles earlier

variable {item Settles}

theorem OnceOnly.nil : OnceOnly item Settles [] :=
  List.Pairwise.nil

theorem OnceOnly.silent
    {added history : List ε} (once : OnceOnly item Settles history)
    (silent : ∀ event ∈ added, item event = none) :
    OnceOnly item Settles (added ++ history) := by
  refine List.pairwise_append.mpr ⟨?_, once, ?_⟩
  · apply List.pairwise_iff_forall_sublist.mpr
    intro later earlier pair subject reported
    have member : later ∈ added := pair.subset List.mem_cons_self
    rw [silent later member] at reported
    cases reported
  · intro later member earlier _ subject reported
    rw [silent later member] at reported
    cases reported

/-- The first report on an item. -/
theorem OnceOnly.first
    {history : List ε} (once : OnceOnly item Settles history)
    {event : ε} {subject : ι} (reports : item event = some subject)
    (unreported : ∀ earlier ∈ history, item earlier ≠ some subject) :
    OnceOnly item Settles (event :: history) := by
  refine List.pairwise_cons.mpr ⟨?_, once⟩
  intro earlier member other sameSubject otherReported
  rw [reports] at sameSubject
  rw [← sameSubject] at otherReported
  exact absurd otherReported (unreported earlier member)

/-- Settling an item that is not settled yet. -/
theorem OnceOnly.settle
    {history : List ε} (once : OnceOnly item Settles history)
    {event : ε} {subject : ι} (reports : item event = some subject)
    (settles : Settles event)
    (unsettled :
      ∀ earlier ∈ history, item earlier = some subject →
        ¬ Settles earlier) :
    OnceOnly item Settles (event :: history) := by
  refine List.pairwise_cons.mpr ⟨?_, once⟩
  intro earlier member other sameSubject otherReported
  rw [reports] at sameSubject
  rw [← sameSubject] at otherReported
  exact ⟨settles, unsettled earlier member otherReported⟩

/-- An event that does not settle its item occurs at most once. -/
theorem OnceOnly.count_le_one
    [BEq ε] [LawfulBEq ε]
    {history : List ε} (once : OnceOnly item Settles history)
    {event : ε} {subject : ι} (reports : item event = some subject)
    (pending : ¬ Settles event) :
    history.count event ≤ 1 := by
  induction history with
  | nil =>
      simp
  | cons latest history inductionHypothesis =>
      obtain ⟨follows, earlier⟩ := List.pairwise_cons.mp once
      by_cases same : latest = event
      · subst latest
        have absent : event ∉ history := by
          intro member
          exact pending (follows event member subject reports reports).1
        have once : (event :: history).count event = 1 := by
          rw [List.count_cons_self, List.count_eq_zero_of_not_mem absent]
        exact Nat.le_of_eq once
      · rw [List.count_cons_of_ne same]
        exact inductionHypothesis earlier

/-- Nothing is reported on an item after it was settled. -/
theorem OnceOnly.nothing_after
    {history : List ε} (once : OnceOnly item Settles history)
    (subject : ι) :
    history.Pairwise fun later earlier =>
      item earlier = some subject → Settles earlier →
        item later ≠ some subject := by
  apply once.imp
  intro later earlier follows reported settled reportedLater
  exact (follows subject reportedLater reported).2 settled

end OnceOnly

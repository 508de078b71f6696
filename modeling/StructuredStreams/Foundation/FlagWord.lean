import Mathlib.Data.List.Nodup

/-!
# Words of flags

A flag is a single bit of a word.  Two parties who number their flags
differently exchange a word by translating it: for every flag that is set in
the word of the one, the matching flag is set in the word of the other.  What
a translation sets is said by `sets_translate`, for any mask; that the way
there and back keeps every flag follows when no two flags of a word are the
same bit.
-/

namespace FlagWord

variable {m n : Nat}

def SingleBit (flag : BitVec n) : Prop :=
  ∃ position : Fin n, flag = BitVec.twoPow n position

instance (flag : BitVec n) : Decidable (SingleBit flag) :=
  inferInstanceAs
    (Decidable (∃ position : Fin n, flag = BitVec.twoPow n position))

/-- The flags of one word. -/
structure DistinctBits (flags : List (BitVec n)) : Prop where
  single : ∀ flag ∈ flags, SingleBit flag
  nodup : flags.Nodup

/-- The flag is set in the word, or a bit of the mask is. -/
def Sets (word flag : BitVec n) : Prop :=
  word &&& flag ≠ 0

instance (word flag : BitVec n) : Decidable (Sets word flag) :=
  inferInstanceAs (Decidable (word &&& flag ≠ 0))

/-- Two words have the same setting for every flag of a list. -/
def SameFlags (flags : List (BitVec n)) (word other : BitVec n) : Prop :=
  ∀ flag ∈ flags, (Sets word flag ↔ Sets other flag)

/-- Every bit of the word is a bit of one of the flags. -/
def OnlyFlags (flags : List (BitVec n)) (word : BitVec n) : Prop :=
  ∀ mask, Sets word mask → ∃ flag ∈ flags, Sets flag mask

/-- For every flag set in a word, set the flag beside it in the table. -/
def translate
    (table : List (BitVec m × BitVec n)) (word : BitVec m)
    (initial : BitVec n) : BitVec n :=
  table.foldl
    (fun result entry =>
      if Sets word entry.1 then result ||| entry.2 else result)
    initial

/-- No two entries of the table share a flag, on either side. -/
structure Faithful (table : List (BitVec m × BitVec n)) : Prop where
  sources : DistinctBits (table.map Prod.fst)
  targets : DistinctBits (table.map Prod.snd)

theorem not_sets_zero (flag : BitVec n) : ¬ Sets 0 flag := by
  intro set
  exact set BitVec.zero_and

private theorem sets_or_iff {word other flag : BitVec n} :
    Sets (word ||| other) flag ↔ Sets word flag ∨ Sets other flag := by
  have distributed :
      (word ||| other) &&& flag = 0 ↔
        word &&& flag = 0 ∧ other &&& flag = 0 := by
    rw [BitVec.and_or_distrib_right]
    exact BitVec.or_eq_zero_iff
  rw [Sets, Ne, distributed, not_and_or]
  exact Iff.rfl

theorem sets_comm {word flag : BitVec n} :
    Sets word flag ↔ Sets flag word := by
  rw [Sets, Sets, BitVec.and_comm]

/-- What part of a mask sets, the mask sets. -/
theorem Sets.of_within
    {word container mask : BitVec n} (set : Sets word mask)
    (within : word &&& container = word) :
    Sets container mask := by
  intro clear
  apply set
  rw [← within, BitVec.and_assoc, clear]
  exact BitVec.and_zero

private theorem sets_twoPow_iff
    {word : BitVec n} {position : Nat} (bound : position < n) :
    Sets word (BitVec.twoPow n position) ↔
      word.getLsbD position = true := by
  have nonzero : BitVec.twoPow n position ≠ 0 := by
    intro zero
    have present := congrArg (fun flag => flag.getLsbD position) zero
    simp [bound] at present
  rw [Sets, BitVec.and_twoPow]
  split
  · next set => exact iff_of_true nonzero set
  · next clear => exact iff_of_false (fun set => set rfl) clear

/-- A word is known by what it sets. -/
theorem eq_of_sets
    {word other : BitVec n}
    (same : ∀ mask, Sets word mask ↔ Sets other mask) :
    word = other := by
  refine BitVec.eq_of_getLsbD_eq fun position bound => ?_
  rw [Bool.eq_iff_iff, ← sets_twoPow_iff bound, ← sets_twoPow_iff bound]
  exact same _

private theorem SingleBit.sets_iff_eq
    {flag other : BitVec n} (single : SingleBit flag)
    (otherSingle : SingleBit other) :
    Sets flag other ↔ flag = other := by
  obtain ⟨position, rfl⟩ := single
  obtain ⟨otherPosition, rfl⟩ := otherSingle
  constructor
  · intro overlap
    rw [sets_twoPow_iff otherPosition.isLt, BitVec.getLsbD_twoPow]
      at overlap
    have same : (position : Nat) = otherPosition := by
      simpa using overlap
    rw [same]
  · intro same
    rw [same, sets_twoPow_iff otherPosition.isLt]
    simp

theorem distinctBits_of_positions
    {flags : List (BitVec n)} (positions : List Nat)
    (values : flags = positions.map (BitVec.twoPow n))
    (bounded : ∀ position ∈ positions, position < n)
    (nodup : positions.Nodup) :
    DistinctBits flags := by
  rw [values]
  constructor
  · intro flag member
    obtain ⟨position, positionMember, rfl⟩ := List.mem_map.mp member
    exact ⟨⟨position, bounded position positionMember⟩, rfl⟩
  · refine List.Nodup.map_on ?_ nodup
    intro position member other _ same
    have bound := bounded position member
    have bit := congrArg (fun flag => flag.getLsbD position) same
    simp only [BitVec.getLsbD_twoPow, bound, decide_true,
      Bool.and_self, Bool.true_eq, Bool.and_eq_true, decide_eq_true_eq]
      at bit
    exact bit.2.symm

theorem DistinctBits.sublist
    {shorter flags : List (BitVec n)} (distinct : DistinctBits flags)
    (part : shorter.Sublist flags) :
    DistinctBits shorter :=
  ⟨fun flag member => distinct.single flag (part.subset member),
    distinct.nodup.sublist part⟩

theorem DistinctBits.not_sets
    {flag : BitVec n} {flags : List (BitVec n)}
    (distinct : DistinctBits (flag :: flags))
    {other : BitVec n} (member : other ∈ flags) :
    ¬ Sets other flag := by
  have single := distinct.single other (List.mem_cons_of_mem flag member)
  rw [single.sets_iff_eq (distinct.single flag List.mem_cons_self)]
  rintro rfl
  exact (List.nodup_cons.mp distinct.nodup).1 member

section Translate

variable {table : List (BitVec m × BitVec n)} {word other : BitVec m}
  {initial mask : BitVec n}

/-- What a translation sets under a mask. -/
theorem sets_translate :
    Sets (translate table word initial) mask ↔
      Sets initial mask ∨
        ∃ entry ∈ table, Sets word entry.1 ∧ Sets entry.2 mask := by
  induction table generalizing initial with
  | nil =>
      simp [translate]
  | cons entry table inductionHypothesis =>
      rw [translate, List.foldl_cons, ← translate, inductionHypothesis]
      simp only [List.exists_mem_cons_iff]
      split
      · next set =>
          rw [sets_or_iff, or_assoc]
          simp only [set, true_and]
      · next clear =>
          simp only [clear, false_and, false_or]

/-- Bits that no entry sets stay as they are. -/
theorem translate_and
    (outside : ∀ entry ∈ table, ¬ Sets entry.2 mask) :
    translate table word initial &&& mask = initial &&& mask := by
  induction table generalizing initial with
  | nil =>
      rfl
  | cons entry table inductionHypothesis =>
      obtain ⟨first, later⟩ := List.forall_mem_cons.mp outside
      rw [translate, List.foldl_cons, ← translate,
        inductionHypothesis later]
      split
      · rw [BitVec.and_or_distrib_right, not_not.mp first]
        exact BitVec.or_zero
      · rfl

/-- Only the settings of the flags in the table count. -/
theorem translate_congr
    {flags : List (BitVec m)} (sources : table.map Prod.fst = flags)
    (same : SameFlags flags word other) (initial : BitVec n) :
    translate table other initial = translate table word initial := by
  rw [← sources] at same
  refine eq_of_sets fun mask => ?_
  rw [sets_translate, sets_translate]
  refine or_congr Iff.rfl (exists_congr fun entry => ?_)
  refine and_congr_right fun member => ?_
  rw [same entry.1 (List.mem_map_of_mem member)]

theorem onlyFlags_translate :
    OnlyFlags (table.map Prod.snd) (translate table word 0) := by
  intro mask set
  rcases sets_translate.mp set with none | ⟨entry, member, _, overlap⟩
  · exact absurd none (not_sets_zero mask)
  · exact ⟨entry.2, List.mem_map_of_mem member, overlap⟩

/-- Where the flags set by a table are distinct bits, each is set exactly
when the flag beside it is. -/
theorem sets_translate_target
    (distinct : DistinctBits (table.map Prod.snd))
    {entry : BitVec m × BitVec n} (member : entry ∈ table)
    (clear : ¬ Sets initial entry.2) :
    Sets (translate table word initial) entry.2 ↔ Sets word entry.1 := by
  have single :
      ∀ entry ∈ table, SingleBit entry.2 := fun entry member =>
    distinct.single _ (List.mem_map_of_mem member)
  rw [sets_translate]
  constructor
  · rintro (set | ⟨other, otherMember, set, overlap⟩)
    · exact absurd set clear
    · have sameFlag :=
        ((single other otherMember).sets_iff_eq (single entry member)).mp
          overlap
      have same : other = entry :=
        List.inj_on_of_nodup_map distinct.nodup otherMember member sameFlag
      rw [← same]
      exact set
  · intro set
    have itself := (single entry member).sets_iff_eq (single entry member)
    exact .inr ⟨entry, member, set, itself.mpr rfl⟩

/-- What was set before stays within a mask of its own. -/
theorem onlyFlags_translate_within
    {container : BitVec n} (within : initial &&& container = initial) :
    OnlyFlags (container :: table.map Prod.snd)
      (translate table word initial) := by
  intro mask set
  rcases sets_translate.mp set with before | ⟨entry, member, _, overlap⟩
  · exact ⟨container, List.mem_cons_self, before.of_within within⟩
  · exact
      ⟨entry.2, List.mem_cons_of_mem _ (List.mem_map_of_mem member), overlap⟩

end Translate

namespace Faithful

variable {table : List (BitVec m × BitVec n)}

theorem swap (faithful : Faithful table) :
    Faithful (table.map Prod.swap) := by
  have sources : (table.map Prod.swap).map Prod.fst = table.map Prod.snd := by
    rw [List.map_map]
    rfl
  have targets : (table.map Prod.swap).map Prod.snd = table.map Prod.fst := by
    rw [List.map_map]
    rfl
  constructor
  · rw [sources]
    exact faithful.targets
  · rw [targets]
    exact faithful.sources

/-- What was set before a translation is kept out of its flags. -/
theorem sameFlags_back
    (faithful : Faithful table) (word : BitVec m)
    {initial : BitVec n} {initialBack : BitVec m}
    (clear : ∀ entry ∈ table, ¬ Sets initial entry.2)
    (clearBack : ∀ entry ∈ table, ¬ Sets initialBack entry.1) :
    SameFlags (table.map Prod.fst) word
      (translate (table.map Prod.swap) (translate table word initial)
        initialBack) := by
  intro flag flagMember
  obtain ⟨entry, member, rfl⟩ := List.mem_map.mp flagMember
  have there :
      Sets (translate table word initial) entry.2 ↔ Sets word entry.1 :=
    sets_translate_target faithful.targets member (clear entry member)
  have back :
      Sets
          (translate (table.map Prod.swap) (translate table word initial)
            initialBack)
          entry.1 ↔
        Sets (translate table word initial) entry.2 :=
    sets_translate_target faithful.swap.targets
      (List.mem_map_of_mem member) (clearBack entry member)
  exact there.symm.trans back.symm

end Faithful

end FlagWord

import StructuredStreams.Foundation.Table
import Mathlib.Logic.Function.Basic

/-!
# Directories

Items belong to owners.  An owner keeps the list of its members and an index
of members by name.  A name that is taken stays with the item that came
first, so an item may have a name that the index gives to another one, and
leaving takes an entry out only where it is the item's own.
-/

universe u v w

/-- Lists of members with an index, and what the items believe. -/
structure Directory (κ : Type u) (ι : Type v) (σ : Type w) where
  members : κ → List σ
  index : κ → List (ι × σ)
  owner : σ → Option κ
  name : σ → ι

namespace Directory

variable {κ : Type u} {ι : Type v} {σ : Type w}

/-- The members are the items that know their owner, and the index holds
members under their names. -/
structure Sound (directory : Directory κ ι σ) : Prop where
  distinct : ∀ key, DistinctKeys (directory.index key)
  member_iff :
    ∀ key item,
      item ∈ directory.members key ↔ directory.owner item = some key
  indexed :
    ∀ key, ∀ entry ∈ directory.index key,
      directory.owner entry.2 = some key ∧
        directory.name entry.2 = entry.1

/-- No index holds the item. -/
def Unlisted (directory : Directory κ ι σ) (item : σ) : Prop :=
  ∀ key, ∀ entry ∈ directory.index key, entry.2 ≠ item

theorem Sound.of_empty
    {directory : Directory κ ι σ}
    (members : ∀ key, directory.members key = [])
    (index : ∀ key, directory.index key = [])
    (owner : ∀ item, directory.owner item = none) :
    directory.Sound where
  distinct := by
    intro key
    rw [index]
    exact DistinctKeys.nil
  member_iff := by
    intro key item
    rw [members, owner]
    simp
  indexed := by
    intro key entry member
    rw [index] at member
    cases member

theorem Sound.unlisted_of_ownerless
    {directory : Directory κ ι σ} (sound : directory.Sound)
    {item : σ} (ownerless : directory.owner item = none) :
    directory.Unlisted item := by
  intro key entry member same
  have owned := (sound.indexed key entry member).1
  rw [same, ownerless] at owned
  cases owned

/-- An index without members is empty. -/
theorem Sound.index_eq_nil
    {directory : Directory κ ι σ} (sound : directory.Sound)
    {key : κ} (empty : directory.members key = []) :
    directory.index key = [] := by
  apply List.eq_nil_iff_forall_not_mem.mpr
  intro entry member
  have owned := (sound.indexed key entry member).1
  have isMember := (sound.member_iff key entry.2).mpr owned
  rw [empty] at isMember
  cases isMember

section Operations

variable [DecidableEq κ] [DecidableEq ι] [DecidableEq σ]

def rename (directory : Directory κ ι σ) (item : σ) (name : ι) :
    Directory κ ι σ :=
  { directory with name := Function.update directory.name item name }

def join (directory : Directory κ ι σ) (key : κ) (item : σ) :
    Directory κ ι σ :=
  { directory with
    members :=
      Function.update directory.members key
        ((directory.members key).insert item)
    owner := Function.update directory.owner item (some key) }

/-- Give the item a name and enter it, where the name is not taken. -/
def enlist
    (directory : Directory κ ι σ) (key : κ) (item : σ) (name : ι) :
    Directory κ ι σ :=
  { directory with
    name := Function.update directory.name item name
    index :=
      Function.update directory.index key
        (if ((directory.index key).lookup name).isSome then
          directory.index key
        else (name, item) :: directory.index key) }

/-- The item forgets its owner, and the owner the item. -/
def leave (directory : Directory κ ι σ) (item : σ) : Directory κ ι σ :=
  match directory.owner item with
  | none => directory
  | some key =>
      { directory with
        index :=
          Function.update directory.index key
            (if (directory.index key).lookup (directory.name item) =
                some item then
              (directory.index key).filter (·.1 ≠ directory.name item)
            else directory.index key)
        members :=
          Function.update directory.members key
            ((directory.members key).filter (· ≠ item))
        owner := Function.update directory.owner item none }

omit [DecidableEq κ] [DecidableEq ι] in
theorem Sound.rename
    {directory : Directory κ ι σ} (sound : directory.Sound)
    {item : σ} (unlisted : directory.Unlisted item) (name : ι) :
    (directory.rename item name).Sound where
  distinct := sound.distinct
  member_iff := sound.member_iff
  indexed := by
    intro key entry member
    obtain ⟨owned, named⟩ := sound.indexed key entry member
    refine ⟨owned, ?_⟩
    dsimp only [Directory.rename]
    rw [Function.update_of_ne (unlisted key entry member)]
    exact named

omit [DecidableEq ι] in
theorem Sound.join
    {directory : Directory κ ι σ} (sound : directory.Sound)
    {item : σ} (ownerless : directory.owner item = none) (key : κ) :
    (directory.join key item).Sound where
  distinct := sound.distinct
  member_iff := by
    intro other otherItem
    have before := sound.member_iff other otherItem
    dsimp only [Directory.join]
    by_cases sameItem : otherItem = item
    · subst otherItem
      rw [Function.update_self]
      rw [ownerless] at before
      by_cases same : other = key
      · subst other
        rw [Function.update_self]
        simp
      · rw [Function.update_of_ne same, before]
        simp [Ne.symm same]
    · rw [Function.update_of_ne sameItem, ← before]
      by_cases same : other = key
      · subst other
        rw [Function.update_self]
        simp [sameItem]
      · rw [Function.update_of_ne same]
  indexed := by
    intro other entry member
    obtain ⟨owned, named⟩ := sound.indexed other entry member
    refine ⟨?_, named⟩
    have different :=
      sound.unlisted_of_ownerless ownerless other entry member
    dsimp only [Directory.join]
    rw [Function.update_of_ne different]
    exact owned

/-- What enlisting adds to the indexes. -/
theorem mem_enlist_index
    {directory : Directory κ ι σ} {key other : κ} {item : σ} {name : ι}
    {entry : ι × σ}
    (member : entry ∈ (directory.enlist key item name).index other) :
    (other = key ∧ entry = (name, item)) ∨
      entry ∈ directory.index other := by
  dsimp only [enlist] at member
  by_cases same : other = key
  · subst other
    rw [Function.update_self] at member
    split at member
    · exact Or.inr member
    · rcases List.mem_cons.mp member with isNew | old
      · exact Or.inl ⟨rfl, isNew⟩
      · exact Or.inr old
  · rw [Function.update_of_ne same] at member
    exact Or.inr member

theorem Sound.enlist
    {directory : Directory κ ι σ} (sound : directory.Sound)
    {key : κ} {item : σ} (owned : directory.owner item = some key)
    (unlisted : directory.Unlisted item) (name : ι) :
    (directory.enlist key item name).Sound where
  distinct := by
    intro other
    dsimp only [Directory.enlist]
    by_cases same : other = key
    · subst other
      rw [Function.update_self]
      split
      · exact sound.distinct key
      · next unused =>
          exact
            (sound.distinct key).cons item
              (Option.not_isSome_iff_eq_none.mp unused)
    · rw [Function.update_of_ne same]
      exact sound.distinct other
  member_iff := sound.member_iff
  indexed := by
    intro other entry member
    dsimp only [Directory.enlist]
    rcases mem_enlist_index member with ⟨rfl, rfl⟩ | old
    · exact ⟨owned, Function.update_self _ _ _⟩
    · have named := (sound.rename unlisted name).indexed other entry old
      exact named

/-- After leaving, an index holds its other entries. -/
theorem mem_leave_index
    {directory : Directory κ ι σ} (sound : directory.Sound)
    {item : σ} {key : κ} {entry : ι × σ}
    (member : entry ∈ (directory.leave item).index key) :
    entry ∈ directory.index key ∧ entry.2 ≠ item := by
  unfold leave at member
  split at member
  · next ownerless =>
      exact
        ⟨member, sound.unlisted_of_ownerless ownerless key entry member⟩
  · next owner owned =>
      dsimp only at member
      by_cases same : key = owner
      · subst key
        rw [Function.update_self] at member
        split at member
        · next found =>
            obtain ⟨old, different⟩ := List.mem_filter.mp member
            refine ⟨old, ?_⟩
            intro sameItem
            have named := (sound.indexed owner entry old).2
            rw [sameItem] at named
            exact of_decide_eq_true different named.symm
        · next notFound =>
            refine ⟨member, ?_⟩
            intro sameItem
            apply notFound
            have named := (sound.indexed owner entry member).2
            rw [sameItem] at named
            rw [named]
            apply (sound.distinct owner).lookup_eq_some
            rw [← sameItem]
            exact member
      · rw [Function.update_of_ne same] at member
        refine ⟨member, ?_⟩
        intro sameItem
        have ownedHere := (sound.indexed key entry member).1
        rw [sameItem, owned] at ownedHere
        exact same (Option.some.inj ownedHere).symm

private theorem leave_owner (directory : Directory κ ι σ) (item : σ) :
    (directory.leave item).owner =
      Function.update directory.owner item none := by
  unfold leave
  split
  · next ownerless =>
      rw [← ownerless, Function.update_eq_self]
  · rfl

private theorem leave_name (directory : Directory κ ι σ) (item : σ) :
    (directory.leave item).name = directory.name := by
  unfold leave
  split
  · rfl
  · rfl

private theorem Sound.leave_distinct
    {directory : Directory κ ι σ} (sound : directory.Sound)
    (item : σ) (key : κ) :
    DistinctKeys ((directory.leave item).index key) := by
  unfold Directory.leave
  split
  · exact sound.distinct key
  · next owner owned =>
      dsimp only
      by_cases same : key = owner
      · subst key
        rw [Function.update_self]
        split
        · exact (sound.distinct owner).sublist List.filter_sublist
        · exact sound.distinct owner
      · rw [Function.update_of_ne same]
        exact sound.distinct key

private theorem Sound.leave_member_iff
    {directory : Directory κ ι σ} (sound : directory.Sound)
    (item : σ) (key : κ) (other : σ) :
    other ∈ (directory.leave item).members key ↔
      other ∈ directory.members key ∧ other ≠ item := by
  have isMember := sound.member_iff key other
  unfold Directory.leave
  split
  · next ownerless =>
      rw [isMember]
      constructor
      · intro owned
        refine ⟨owned, ?_⟩
        intro same
        rw [same, ownerless] at owned
        cases owned
      · exact And.left
  · next owner owned =>
      dsimp only
      by_cases same : key = owner
      · subst key
        rw [Function.update_self, List.mem_filter, decide_eq_true_iff]
      · rw [Function.update_of_ne same, isMember]
        constructor
        · intro ownedHere
          refine ⟨ownedHere, ?_⟩
          intro sameItem
          rw [sameItem, owned] at ownedHere
          exact same (Option.some.inj ownedHere).symm
        · exact And.left

theorem Sound.leave
    {directory : Directory κ ι σ} (sound : directory.Sound)
    (item : σ) :
    (directory.leave item).Sound where
  distinct := sound.leave_distinct item
  member_iff := by
    intro key other
    rw [sound.leave_member_iff, sound.member_iff, leave_owner]
    by_cases same : other = item
    · subst other
      rw [Function.update_self]
      simp
    · rw [Function.update_of_ne same]
      simp [same]
  indexed := by
    intro key entry member
    obtain ⟨old, different⟩ := mem_leave_index sound member
    obtain ⟨owned, named⟩ := sound.indexed key entry old
    rw [leave_owner, leave_name, Function.update_of_ne different]
    exact ⟨owned, named⟩

/-- When all its members have left, an owner has no members and its index is
empty. -/
theorem Sound.leaveAll_empty
    {directory : Directory κ ι σ} (sound : directory.Sound)
    {key : κ} {items : List σ}
    (listed : ∀ item ∈ directory.members key, item ∈ items) :
    (items.foldl Directory.leave directory).members key = [] ∧
      (items.foldl Directory.leave directory).index key = [] := by
  induction items generalizing directory with
  | nil =>
      have noMembers : directory.members key = [] := by
        apply List.eq_nil_iff_forall_not_mem.mpr
        intro item member
        exact absurd (listed item member) List.not_mem_nil
      exact ⟨noMembers, sound.index_eq_nil noMembers⟩
  | cons item items inductionHypothesis =>
      apply inductionHypothesis (sound.leave item)
      intro other member
      obtain ⟨old, different⟩ :=
        (sound.leave_member_iff item key other).mp member
      exact (List.mem_cons.mp (listed other old)).resolve_left different

end Operations

end Directory

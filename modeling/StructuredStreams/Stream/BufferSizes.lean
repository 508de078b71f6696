import StructuredStreams.Foundation.Run
import StructuredStreams.Stream.Windows

/-!
# The sizes of receive buffers

A stream has the size of its own receive buffer and the one that its children
start with.  The functions that set them raise what is too small, and then
store a `size_t` in an `int`: a size from `2 ^ 31` on may become negative.
The children inherit what is stored, and the constructor of a child asserts
that its size is positive.
-/

namespace StructuredStreams.Stream

/-- The part of a stream that concerns its receive buffers. -/
structure BufferedStream where
  buffer : ReceiveBuffer
  childReceiveBufSize : Int
  deriving DecidableEq, Repr

def defaultRxBufferSize : Int :=
  65536

/-- The value stored for a size: raised to the smallest one, then narrowed
to an `int`. -/
def storedBufferSize (mtu : Nat) (size : UInt64) : Int :=
  if size.toNat < minReceiveBufferSize mtu then
    wrapInt (minReceiveBufferSize mtu)
  else
    wrapInt size.toNat

namespace BufferedStream

/-- The initial values of the fields. -/
def initial : BufferedStream where
  buffer := ⟨defaultRxBufferSize, 0, 0, 0⟩
  childReceiveBufSize := defaultRxBufferSize

def setReceiveBufferSize
    (mtu : Nat) (stream : BufferedStream) (size : UInt64) :
    BufferedStream :=
  { stream with
    buffer :=
      { stream.buffer with receiveBufSize := storedBufferSize mtu size } }

def setChildReceiveBufferSize
    (mtu : Nat) (stream : BufferedStream) (size : UInt64) :
    BufferedStream :=
  { stream with childReceiveBufSize := storedBufferSize mtu size }

/-- `recalculate_receive_window`, whose loop ends within 32 passes. -/
def recalculateReceiveWindow
    (mtu : Nat) (stream : BufferedStream) : Option BufferedStream := do
  let buffer ← stream.buffer.recalculateReceiveWindow mtu 32
  return { stream with buffer := buffer }

/-- The sizes that a new stream inherits. -/
def inherit
    (mtu : Nat) (parent : Option BufferedStream) : BufferedStream :=
  match parent with
  | none => initial
  | some parent =>
      (initial.setReceiveBufferSize mtu
        (UInt64.ofInt parent.childReceiveBufSize)).setChildReceiveBufferSize
        mtu (UInt64.ofInt parent.childReceiveBufSize)

/-- The constructor of a base stream. -/
def construct
    (mtu : Nat) (parent : Option BufferedStream) :
    Option BufferedStream :=
  (inherit mtu parent).recalculateReceiveWindow mtu

/-- Both sizes are at least the smallest one. -/
structure SizesValid (mtu : Nat) (stream : BufferedStream) : Prop where
  own : (minReceiveBufferSize mtu : Int) ≤ stream.buffer.receiveBufSize
  children : (minReceiveBufferSize mtu : Int) ≤ stream.childReceiveBufSize

end BufferedStream

/-- The streams that were created so far. -/
abbrev BufferedStreams := StreamPtr → Option BufferedStream

inductive BufferCall where
  /-- `base_stream::create`, with a parent or without. -/
  | create (stream : StreamPtr) (parent : Option StreamPtr)
  | setReceiveBufferSize (stream : StreamPtr) (size : UInt64)
  | setChildReceiveBufferSize (stream : StreamPtr) (size : UInt64)
  deriving DecidableEq, Repr

/-- What a call does.  A stream is created on memory that holds no other
one, and its parent exists. -/
def BufferCall.run (mtu : Nat) (streams : BufferedStreams) :
    BufferCall → Option BufferedStreams
  | .create stream none => do
      guard ((streams stream).isNone)
      let created ← BufferedStream.construct mtu none
      return Function.update streams stream (some created)
  | .create stream (some parent) => do
      guard ((streams stream).isNone)
      let parent ← streams parent
      let created ← BufferedStream.construct mtu (some parent)
      return Function.update streams stream (some created)
  | .setReceiveBufferSize stream size => do
      let entry ← streams stream
      return Function.update streams stream
        (some (entry.setReceiveBufferSize mtu size))
  | .setChildReceiveBufferSize stream size => do
      let entry ← streams stream
      return Function.update streams stream
        (some (entry.setChildReceiveBufferSize mtu size))

def BufferStep
    (mtu : Nat) (streams : BufferedStreams) (call : BufferCall)
    (next : BufferedStreams) : Prop :=
  call.run mtu streams = some next

abbrev BufferRun (mtu : Nat) :
    BufferedStreams → List BufferCall → BufferedStreams → Prop :=
  Run (BufferStep mtu)

def noStreams : BufferedStreams :=
  fun _ => none

/-- All sizes are valid, and the assertion of `recalculate_receive_window`
holds for every stream and for every child that a stream may get. -/
structure BuffersValid (mtu : Nat) (streams : BufferedStreams) : Prop where
  sizes :
    ∀ stream entry, streams stream = some entry → entry.SizesValid mtu
  recalculates :
    ∀ stream entry, streams stream = some entry →
      (entry.recalculateReceiveWindow mtu).isSome
  constructs :
    ∀ stream entry, streams stream = some entry →
      (BufferedStream.construct mtu (some entry)).isSome

/-- A size that is stored as a valid one: it is too small and raised, or its
low 32 bits read as an `int` are not too small. -/
def BufferCall.Fits (mtu : Nat) : BufferCall → Prop
  | .create _ _ => True
  | .setReceiveBufferSize _ size | .setChildReceiveBufferSize _ size =>
      size.toNat < minReceiveBufferSize mtu ∨
        (minReceiveBufferSize mtu : Int) ≤ wrapInt size.toNat

instance (mtu : Nat) : DecidablePred (BufferCall.Fits mtu)
  | .create _ _ => inferInstanceAs (Decidable True)
  | .setReceiveBufferSize _ _ => inferInstanceAs (Decidable (_ ∨ _))
  | .setChildReceiveBufferSize _ _ => inferInstanceAs (Decidable (_ ∨ _))

section Stored

variable {mtu : Nat}

private theorem storedBufferSize_valid_iff
    (small : (minReceiveBufferSize mtu : Int) ≤ defaultRxBufferSize)
    (size : UInt64) :
    (minReceiveBufferSize mtu : Int) ≤ storedBufferSize mtu size ↔
      size.toNat < minReceiveBufferSize mtu ∨
        (minReceiveBufferSize mtu : Int) ≤ wrapInt size.toNat := by
  unfold defaultRxBufferSize at small
  unfold storedBufferSize
  by_cases raised : size.toNat < minReceiveBufferSize mtu
  · rw [if_pos raised, wrapInt_eq_self (by omega) (by omega)]
    omega
  · rw [if_neg raised]
    omega

private theorem storedBufferSize_lt (size : UInt64) :
    storedBufferSize mtu size < 2 ^ 31 := by
  unfold storedBufferSize
  split
  · exact wrapInt_lt _
  · exact wrapInt_lt _

private theorem storedBufferSize_inRange (size : UInt64) :
    -2 ^ 31 ≤ storedBufferSize mtu size ∧
      storedBufferSize mtu size < 2 ^ 31 := by
  refine ⟨?_, storedBufferSize_lt size⟩
  unfold storedBufferSize
  split
  · exact le_wrapInt _
  · exact le_wrapInt _

/-- A valid size is stored as it is when it is inherited. -/
theorem storedBufferSize_ofInt
    {size : Int} (valid : (minReceiveBufferSize mtu : Int) ≤ size)
    (inRange : size < 2 ^ 31) :
    storedBufferSize mtu (UInt64.ofInt size) = size := by
  have converted : ((UInt64.ofInt size).toNat : Int) = size := by
    rw [toNat_ofInt]
    exact toSize_eq_self (by omega) (by omega)
  unfold storedBufferSize
  rw [if_neg (by omega), converted]
  exact wrapInt_eq_self (by omega) inRange

end Stored

namespace BufferedStream

variable {mtu : Nat}

/-- What the streams of a run are like as long as every size fits. -/
structure Sound (mtu : Nat) (stream : BufferedStream) : Prop where
  valid : stream.SizesValid mtu
  inRange : stream.childReceiveBufSize < 2 ^ 31

private theorem recalculateReceiveWindow_returns
    (small : (minReceiveBufferSize mtu : Int) ≤ defaultRxBufferSize)
    {stream : BufferedStream} (size : 0 < stream.buffer.receiveBufSize) :
    ∃ next,
      stream.recalculateReceiveWindow mtu = some next ∧
        next.buffer.receiveBufSize = stream.buffer.receiveBufSize ∧
        next.childReceiveBufSize = stream.childReceiveBufSize := by
  unfold defaultRxBufferSize minReceiveBufferSize at small
  have mtuFits : mtu < 2 ^ 31 := by
    omega
  have window := stream.buffer.receiveWindow_le mtuFits
  obtain ⟨exponent, found, _⟩ :=
    ReceiveBuffer.exponentLoop_spec window 32 0 (by omega) (by omega)
      (by omega)
  have recalculated :
      stream.buffer.recalculateReceiveWindow mtu 32 =
        some { stream.buffer with
          receiveWindowByte := UInt8.ofNat exponent } := by
    unfold ReceiveBuffer.recalculateReceiveWindow
    rw [guard_bind_of_holds size, found]
    rfl
  refine
    ⟨{ stream with
        buffer :=
          { stream.buffer with
            receiveWindowByte := UInt8.ofNat exponent } }, ?_, rfl, rfl⟩
  rw [recalculateReceiveWindow, recalculated]
  rfl

theorem Sound.initial
    (small : (minReceiveBufferSize mtu : Int) ≤ defaultRxBufferSize) :
    BufferedStream.initial.Sound mtu :=
  ⟨⟨small, small⟩, by decide⟩

/-- What a sound stream hands on is sound. -/
theorem Sound.inherit
    (small : (minReceiveBufferSize mtu : Int) ≤ defaultRxBufferSize)
    {parent : Option BufferedStream}
    (sound : ∀ entry, parent = some entry → entry.Sound mtu) :
    (BufferedStream.inherit mtu parent).Sound mtu := by
  cases parent with
  | none =>
      exact Sound.initial small
  | some parent =>
      have parentSound := sound parent rfl
      have stored :=
        storedBufferSize_ofInt parentSound.valid.children
          parentSound.inRange
      have valid := parentSound.valid.children
      rw [← stored] at valid
      exact ⟨⟨valid, valid⟩, storedBufferSize_lt _⟩

theorem Sound.construct
    (positive : 0 < mtu)
    (small : (minReceiveBufferSize mtu : Int) ≤ defaultRxBufferSize)
    {parent : Option BufferedStream}
    (sound : ∀ entry, parent = some entry → entry.Sound mtu) :
    ∃ created,
      BufferedStream.construct mtu parent = some created ∧
        created.Sound mtu := by
  have inherited := Sound.inherit small sound
  have size :
      0 < (BufferedStream.inherit mtu parent).buffer.receiveBufSize := by
    have own := inherited.valid.own
    unfold minReceiveBufferSize at own
    omega
  obtain ⟨created, returned, sameOwn, sameChildren⟩ :=
    recalculateReceiveWindow_returns small size
  refine ⟨created, returned, ⟨?_, ?_⟩, ?_⟩
  · rw [sameOwn]
    exact inherited.valid.own
  · rw [sameChildren]
    exact inherited.valid.children
  · rw [sameChildren]
    exact inherited.inRange

/-- The size for children that a new stream has is one of type `int`. -/
theorem construct_inRange
    {parent : Option BufferedStream} {created : BufferedStream}
    (returned : BufferedStream.construct mtu parent = some created) :
    -2 ^ 31 ≤ created.childReceiveBufSize ∧
      created.childReceiveBufSize < 2 ^ 31 := by
  rw [construct, recalculateReceiveWindow, bind_eq_some_iff] at returned
  obtain ⟨buffer, _, returned⟩ := returned
  cases returned
  cases parent with
  | none =>
      change -2 ^ 31 ≤ defaultRxBufferSize ∧ defaultRxBufferSize < 2 ^ 31
      decide
  | some parent =>
      exact storedBufferSize_inRange _

end BufferedStream

/-- The buffers of a stream, with a size for children that an `int` holds. -/
structure StoredBuffers extends BufferedStream where
  inRange :
    -2 ^ 31 ≤ childReceiveBufSize ∧ childReceiveBufSize < 2 ^ 31

namespace StoredBuffers

def setReceiveBufferSize
    (mtu : Nat) (buffers : StoredBuffers) (size : UInt64) :
    StoredBuffers :=
  ⟨buffers.toBufferedStream.setReceiveBufferSize mtu size,
    buffers.inRange⟩

def setChildReceiveBufferSize
    (mtu : Nat) (buffers : StoredBuffers) (size : UInt64) :
    StoredBuffers :=
  ⟨buffers.toBufferedStream.setChildReceiveBufferSize mtu size,
    storedBufferSize_inRange size⟩

/-- The constructor of a base stream. -/
def construct
    (mtu : Nat) (parent : Option StoredBuffers) : Option StoredBuffers :=
  (BufferedStream.construct mtu (parent.map toBufferedStream)).pmap
    StoredBuffers.mk fun _ => BufferedStream.construct_inRange

/-- The size that a child gets is positive exactly when the size for children
is not negative. -/
theorem storedBufferSize_child_pos_iff
    {mtu : Nat} (positive : 0 < mtu)
    (small : (minReceiveBufferSize mtu : Int) ≤ defaultRxBufferSize)
    (parent : StoredBuffers) :
    0 < storedBufferSize mtu (UInt64.ofInt parent.childReceiveBufSize) ↔
      0 ≤ parent.childReceiveBufSize := by
  obtain ⟨lower, upper⟩ := parent.inRange
  unfold minReceiveBufferSize defaultRxBufferSize at small
  unfold storedBufferSize minReceiveBufferSize
  rw [toNat_ofInt]
  by_cases negative : parent.childReceiveBufSize < 0
  · have large : ¬ toSize parent.childReceiveBufSize < mtu * 2 := by
      unfold toSize
      omega
    rw [if_neg large, wrapInt_toSize lower upper]
    omega
  · have same :
        (toSize parent.childReceiveBufSize : Int) =
          parent.childReceiveBufSize :=
      toSize_eq_self (by omega) (by omega)
    split
    · rw [wrapInt_eq_self (by omega) (by omega)]
      omega
    · rw [wrapInt_toSize lower upper]
      omega

/-- A child can be constructed exactly when the size that it inherits is not
negative. -/
theorem construct_isSome_iff
    {mtu : Nat} (positive : 0 < mtu)
    (small : (minReceiveBufferSize mtu : Int) ≤ defaultRxBufferSize)
    (parent : StoredBuffers) :
    (construct mtu (some parent)).isSome ↔
      0 ≤ parent.childReceiveBufSize := by
  rw [← parent.storedBufferSize_child_pos_iff positive small, construct,
    Option.isSome_pmap, Option.map_some]
  constructor
  · intro constructed
    obtain ⟨created, returned⟩ :=
      Option.isSome_iff_exists.mp constructed
    rw [BufferedStream.construct, BufferedStream.recalculateReceiveWindow,
      bind_eq_some_iff] at returned
    obtain ⟨buffer, recalculated, _⟩ := returned
    exact (guard_bind_eq_some_iff.mp recalculated).1
  · intro size
    have positiveSize :
        0 <
          (BufferedStream.inherit mtu
            (some parent.toBufferedStream)).buffer.receiveBufSize :=
      size
    obtain ⟨created, returned, _⟩ :=
      BufferedStream.recalculateReceiveWindow_returns small positiveSize
    rw [BufferedStream.construct, returned]
    rfl

end StoredBuffers

section Calls

variable {mtu : Nat} {streams next : BufferedStreams}

/-- Every stream is sound. -/
def AllSound (mtu : Nat) (streams : BufferedStreams) : Prop :=
  ∀ stream entry, streams stream = some entry → entry.Sound mtu

theorem AllSound.valid
    (positive : 0 < mtu)
    (small : (minReceiveBufferSize mtu : Int) ≤ defaultRxBufferSize)
    (sound : AllSound mtu streams) : BuffersValid mtu streams where
  sizes := fun stream entry found => (sound stream entry found).valid
  recalculates := by
    intro stream entry found
    have own := (sound stream entry found).valid.own
    unfold minReceiveBufferSize at own
    have positive : 0 < entry.buffer.receiveBufSize := by
      omega
    obtain ⟨after, returned, _⟩ :=
      BufferedStream.recalculateReceiveWindow_returns small positive
    rw [returned]
    rfl
  constructs := by
    intro stream entry found
    have entrySound :
        ∀ parent, some entry = some parent → parent.Sound mtu := by
      rintro _ ⟨⟩
      exact sound stream entry found
    obtain ⟨created, returned, _⟩ :=
      BufferedStream.Sound.construct positive small entrySound
    rw [returned]
    rfl

theorem AllSound.update
    (sound : AllSound mtu streams) {stream : StreamPtr}
    {entry : BufferedStream} (entrySound : entry.Sound mtu) :
    AllSound mtu (Function.update streams stream (some entry)) := by
  intro other found
  by_cases same : other = stream
  · subst other
    rw [Function.update_self]
    rintro ⟨⟩
    exact entrySound
  · rw [Function.update_of_ne same]
    exact sound other found

theorem AllSound.create
    (positive : 0 < mtu)
    (small : (minReceiveBufferSize mtu : Int) ≤ defaultRxBufferSize)
    (sound : AllSound mtu streams) {stream : StreamPtr}
    {parent : Option StreamPtr}
    (taken : BufferStep mtu streams (.create stream parent) next) :
    AllSound mtu next := by
  unfold BufferStep at taken
  cases parent with
  | none =>
      rw [BufferCall.run, guard_bind_eq_some_iff, bind_eq_some_iff]
        at taken
      obtain ⟨_, created, constructed, taken⟩ := taken
      cases taken
      have noParent :
          ∀ entry : BufferedStream, none = some entry → entry.Sound mtu := by
        rintro _ ⟨⟩
      obtain ⟨_, returned, createdSound⟩ :=
        BufferedStream.Sound.construct positive small noParent
      rw [constructed] at returned
      cases returned
      exact sound.update createdSound
  | some parent =>
      rw [BufferCall.run, guard_bind_eq_some_iff, bind_eq_some_iff]
        at taken
      obtain ⟨_, entry, found, taken⟩ := taken
      rw [bind_eq_some_iff] at taken
      obtain ⟨created, constructed, taken⟩ := taken
      cases taken
      have entrySound :
          ∀ other, some entry = some other → other.Sound mtu := by
        rintro _ ⟨⟩
        exact sound parent entry found
      obtain ⟨_, returned, createdSound⟩ :=
        BufferedStream.Sound.construct positive small entrySound
      rw [constructed] at returned
      cases returned
      exact sound.update createdSound

theorem AllSound.step
    (positive : 0 < mtu)
    (small : (minReceiveBufferSize mtu : Int) ≤ defaultRxBufferSize)
    {call : BufferCall} (sound : AllSound mtu streams)
    (fits : call.Fits mtu) (taken : BufferStep mtu streams call next) :
    AllSound mtu next := by
  unfold BufferStep at taken
  cases call with
  | create stream parent =>
      exact sound.create positive small taken
  | setReceiveBufferSize stream size =>
      rw [BufferCall.run, bind_eq_some_iff] at taken
      obtain ⟨entry, found, taken⟩ := taken
      cases taken
      have entrySound := sound stream entry found
      apply sound.update
      refine ⟨⟨?_, entrySound.valid.children⟩, entrySound.inRange⟩
      exact (storedBufferSize_valid_iff small size).mpr fits
  | setChildReceiveBufferSize stream size =>
      rw [BufferCall.run, bind_eq_some_iff] at taken
      obtain ⟨entry, found, taken⟩ := taken
      cases taken
      have entrySound := sound stream entry found
      apply sound.update
      refine ⟨⟨entrySound.valid.own, ?_⟩, storedBufferSize_lt _⟩
      exact (storedBufferSize_valid_iff small size).mpr fits

/-- A state that is valid after a call comes from a size that fits. -/
theorem BuffersValid.fits
    (small : (minReceiveBufferSize mtu : Int) ≤ defaultRxBufferSize)
    {call : BufferCall} (valid : BuffersValid mtu next)
    (taken : BufferStep mtu streams call next) : call.Fits mtu := by
  unfold BufferStep at taken
  cases call with
  | create stream parent =>
      trivial
  | setReceiveBufferSize stream size =>
      rw [BufferCall.run, bind_eq_some_iff] at taken
      obtain ⟨entry, found, taken⟩ := taken
      cases taken
      have sizes := valid.sizes stream _ (Function.update_self _ _ _)
      exact (storedBufferSize_valid_iff small size).mp sizes.own
  | setChildReceiveBufferSize stream size =>
      rw [BufferCall.run, bind_eq_some_iff] at taken
      obtain ⟨entry, found, taken⟩ := taken
      cases taken
      have sizes := valid.sizes stream _ (Function.update_self _ _ _)
      exact (storedBufferSize_valid_iff small size).mp sizes.children

end Calls

theorem AllSound.of_run
    {mtu : Nat} {calls : List BufferCall} {final : BufferedStreams}
    (positive : 0 < mtu)
    (small : (minReceiveBufferSize mtu : Int) ≤ defaultRxBufferSize)
    (fit : ∀ call ∈ calls, call.Fits mtu)
    (run : BufferRun mtu noStreams calls final) : AllSound mtu final := by
  refine run.induct
    (fun labels streams =>
      (∀ call ∈ labels, call.Fits mtu) → AllSound mtu streams)
    ?_ ?_ fit
  · intro _ stream entry found
    cases found
  · intro labels streams call next _ sound taken fits
    refine (sound ?_).step positive small (fits call ?_) taken
    · intro earlier member
      exact fits earlier (List.mem_append_left _ member)
    · simp

/-- All states of a run are valid, the assertion of
`recalculate_receive_window` included, if and only if every size that is set
in it fits. -/
theorem buffers_stay_valid_iff
    {mtu : Nat} {calls : List BufferCall} {final : BufferedStreams}
    (positive : 0 < mtu)
    (small : (minReceiveBufferSize mtu : Int) ≤ defaultRxBufferSize)
    (run : BufferRun mtu noStreams calls final) :
    (∀ earlier middle,
        earlier <+: calls → BufferRun mtu noStreams earlier middle →
          BuffersValid mtu middle) ↔
      ∀ call ∈ calls, call.Fits mtu := by
  constructor
  · refine run.induct
      (fun labels _ =>
        (∀ earlier middle,
            earlier <+: labels → BufferRun mtu noStreams earlier middle →
              BuffersValid mtu middle) →
          ∀ call ∈ labels, call.Fits mtu)
      ?_ ?_
    · intro _ call member
      cases member
    · intro labels streams call next before fits taken valid other member
      rcases List.mem_append.mp member with early | last
      · refine fits ?_ other early
        intro earlier middle isPrefix
        exact valid earlier middle (isPrefix.trans (List.prefix_append _ _))
      · rw [List.mem_singleton.mp last]
        exact
          (valid _ next (List.prefix_refl _) (before.snoc call taken)).fits
            small taken
  · intro fit earlier middle isPrefix reached
    refine (AllSound.of_run positive small ?_ reached).valid positive small
    intro call member
    exact fit call (isPrefix.subset member)

/-- The sizes that a test sets for the children of a stream. -/
theorem buffers_valid_for_smaller_children :
    ∃ final,
      BufferRun 1200 noStreams
          [.create 0 none, .setChildReceiveBufferSize 0 16384,
            .create 1 (some 0)] final ∧
        BuffersValid 1200 final := by
  have run :
      BufferRun 1200 noStreams
        [.create 0 none, .setChildReceiveBufferSize 0 16384,
          .create 1 (some 0)] _ :=
    Run.of_foldlM (fun _ _ _ taken => taken) rfl
  refine ⟨_, run, ?_⟩
  refine
    (buffers_stay_valid_iff (by decide) (by decide) run).mpr ?_ _ _
      (List.prefix_refl _) run
  decide

/-- A size of `2 ^ 31` for the children is stored as a negative number, and
no child can be constructed. -/
theorem child_of_negative_buffer_not_constructed :
    ∃ final,
      BufferRun 1200 noStreams
          [.create 0 none, .setChildReceiveBufferSize 0 0x80000000]
          final ∧
        (final 0).map BufferedStream.childReceiveBufSize =
          some (-0x80000000) ∧
        (BufferCall.create 1 (some 0)).run 1200 final = none ∧
        ¬ BuffersValid 1200 final := by
  have run :
      BufferRun 1200 noStreams
        [.create 0 none, .setChildReceiveBufferSize 0 0x80000000] _ :=
    Run.of_foldlM (fun _ _ _ taken => taken) rfl
  refine ⟨_, run, by decide, by decide, ?_⟩
  intro valid
  have sizes := (valid.sizes 0 _ rfl).children
  revert sizes
  decide

end StructuredStreams.Stream

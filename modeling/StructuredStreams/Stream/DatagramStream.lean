import StructuredStreams.Foundation.ByteCodec
import StructuredStreams.Foundation.MachineInt

/-!
# Datagram streams

A datagram that was received appears as a stream of one record, of which
`read_data` reads parts.  Both overloads of `read_record` deliver the bytes
that are left, as far as the caller wants them.  The one that fills a buffer
discards the others, as it is documented, and returns the size as an `int`;
the one that returns a byte array leaves the others to be read as another
record.

Sizes that the caller passes are naturals.
-/

namespace StructuredStreams.Stream

open ByteCodec

/-- The position lies within the datagram. -/
structure DatagramStream where
  payload : Bytes
  pos : Nat
  inside : pos ≤ payload.length
  deriving DecidableEq, Repr

namespace DatagramStream

def create (payload : Bytes) : DatagramStream :=
  ⟨payload, 0, Nat.zero_le _⟩

def size (stream : DatagramStream) : Nat :=
  stream.payload.length

def remain (stream : DatagramStream) : Nat :=
  stream.size - stream.pos

def atEnd (stream : DatagramStream) : Bool :=
  stream.size ≤ stream.pos

def pendingRecords (stream : DatagramStream) : Nat :=
  if stream.pos < stream.size then 1 else 0

/-- `byte_array::mid`. -/
def mid (bytes : Bytes) (pos len : Nat) : Bytes :=
  (bytes.drop pos).take len

/-- `pos_ += amount`, of an amount that is left. -/
def advance
    (stream : DatagramStream) (amount : Nat)
    (left : amount ≤ stream.remain) : DatagramStream where
  payload := stream.payload
  pos := stream.pos + amount
  inside := by
    have inside := stream.inside
    unfold remain size at left
    omega

/-- `pos_ = size()`. -/
def seekEnd (stream : DatagramStream) : DatagramStream :=
  ⟨stream.payload, stream.size, Nat.le_refl _⟩

/-- What a call that fills a buffer returns, and what it copied there. -/
structure Filled where
  result : Int
  copied : Bytes
  deriving DecidableEq, Repr

def readData (stream : DatagramStream) (maxSize : Nat) :
    Filled × DatagramStream :=
  let actualSize := min stream.remain maxSize
  (⟨actualSize, mid stream.payload stream.pos actualSize⟩,
    stream.advance actualSize (Nat.min_le_left _ _))

/-- The overload of `read_record` that fills a buffer.  The size goes through
an `int`. -/
def readRecordInto (stream : DatagramStream) (maxSize : Nat) :
    Filled × DatagramStream :=
  let (filled, next) := stream.readData maxSize
  ({ filled with result := wrapInt filled.result }, next.seekEnd)

/-- The overload of `read_record` that returns a byte array. -/
def readRecord (stream : DatagramStream) (maxSize : Nat) :
    Bytes × DatagramStream :=
  if stream.pos = 0 ∧ stream.size ≤ maxSize then
    (stream.payload, stream.seekEnd)
  else
    let actualSize := min stream.remain maxSize
    (mid stream.payload stream.pos actualSize,
      stream.advance actualSize (Nat.min_le_left _ _))

/-- Earlier calls of `read_data`. -/
def readDatas (stream : DatagramStream) (sizes : List Nat) :
    DatagramStream :=
  sizes.foldl (fun stream maxSize => (stream.readData maxSize).2) stream

theorem pos_add_remain (stream : DatagramStream) :
    stream.pos + stream.remain = stream.size := by
  have inside := stream.inside
  unfold remain size
  omega

private theorem ext_pos
    {stream other : DatagramStream}
    (payload : stream.payload = other.payload)
    (pos : stream.pos = other.pos) :
    stream = other := by
  cases stream
  cases other
  cases payload
  cases pos
  rfl

/-- Reading advances by what was asked for, up to the end. -/
theorem readDatas_pos (stream : DatagramStream) (sizes : List Nat) :
    (stream.readDatas sizes).payload = stream.payload ∧
      (stream.readDatas sizes).pos =
        min stream.size (stream.pos + sizes.sum) := by
  induction sizes generalizing stream with
  | nil =>
      have inside := stream.inside
      refine ⟨rfl, ?_⟩
      change stream.pos = min stream.payload.length (stream.pos + 0)
      omega
  | cons maxSize sizes inductionHypothesis =>
      have whole := stream.pos_add_remain
      obtain ⟨samePayload, pos⟩ :=
        inductionHypothesis (stream.readData maxSize).2
      refine ⟨samePayload, ?_⟩
      have sameSize : (stream.readData maxSize).2.size = stream.size := rfl
      have advanced :
          (stream.readData maxSize).2.pos =
            stream.pos + min stream.remain maxSize :=
        rfl
      rw [sameSize, advanced] at pos
      change ((stream.readData maxSize).2.readDatas sizes).pos = _
      rw [pos, List.sum_cons]
      omega

/-- The bytes that a caller is to get: the first ones that are left. -/
def wanted (stream : DatagramStream) (maxSize : Nat) : Bytes :=
  (stream.payload.drop stream.pos).take maxSize

/-- Both overloads deliver these bytes and leave the same stream, at its end
and without a record. -/
structure OverloadsAgree (stream : DatagramStream) (maxSize : Nat) :
    Prop where
  copied :
    (stream.readRecordInto maxSize).1.copied = stream.wanted maxSize
  result :
    (stream.readRecordInto maxSize).1.result =
      (stream.wanted maxSize).length
  returned : (stream.readRecord maxSize).1 = stream.wanted maxSize
  sameStream :
    (stream.readRecord maxSize).2 = (stream.readRecordInto maxSize).2
  atEnd : (stream.readRecordInto maxSize).2.atEnd = true
  noneLeft : (stream.readRecordInto maxSize).2.pendingRecords = 0

instance (stream : DatagramStream) (maxSize : Nat) :
    Decidable (stream.OverloadsAgree maxSize) :=
  decidable_of_iff
    ((stream.readRecordInto maxSize).1.copied = stream.wanted maxSize ∧
      (stream.readRecordInto maxSize).1.result =
        (stream.wanted maxSize).length ∧
      (stream.readRecord maxSize).1 = stream.wanted maxSize ∧
      (stream.readRecord maxSize).2 = (stream.readRecordInto maxSize).2 ∧
      (stream.readRecordInto maxSize).2.atEnd = true ∧
      (stream.readRecordInto maxSize).2.pendingRecords = 0)
    ⟨fun ⟨copied, result, returned, sameStream, atEnd, noneLeft⟩ =>
        ⟨copied, result, returned, sameStream, atEnd, noneLeft⟩,
      fun ⟨copied, result, returned, sameStream, atEnd, noneLeft⟩ =>
        ⟨copied, result, returned, sameStream, atEnd, noneLeft⟩⟩

theorem wanted_length (stream : DatagramStream) (maxSize : Nat) :
    (stream.wanted maxSize).length = min stream.remain maxSize := by
  rw [wanted, List.length_take, List.length_drop, remain, size,
    Nat.min_comm]

/-- Slicing out what is left of the datagram, as far as it is wanted. -/
theorem mid_eq_wanted (stream : DatagramStream) (maxSize : Nat) :
    mid stream.payload stream.pos (min stream.remain maxSize) =
      stream.wanted maxSize := by
  rw [mid, wanted, List.take_eq_take_iff, List.length_drop, remain, size]
  omega

/-- What the overload that returns a byte array delivers, and where it
stops. -/
theorem readRecord_eq (stream : DatagramStream) (maxSize : Nat) :
    (stream.readRecord maxSize).1 = stream.wanted maxSize ∧
      (stream.readRecord maxSize).2.payload = stream.payload ∧
      (stream.readRecord maxSize).2.pos =
        stream.pos + min stream.remain maxSize := by
  have whole := stream.pos_add_remain
  unfold readRecord
  split
  · next quick =>
      obtain ⟨start, enough⟩ := quick
      refine ⟨?_, rfl, ?_⟩
      · rw [wanted, start, List.drop_zero, List.take_of_length_le enough]
      · change stream.size = _
        omega
  · exact ⟨stream.mid_eq_wanted maxSize, rfl, rfl⟩

private theorem readRecordInto_snd (stream : DatagramStream) (maxSize : Nat) :
    (stream.readRecordInto maxSize).2 = stream.seekEnd :=
  rfl

private theorem overloadsAgree_iff_remain
    (stream : DatagramStream) (maxSize : Nat) :
    stream.OverloadsAgree maxSize ↔
      stream.remain ≤ maxSize ∧ stream.remain < 2 ^ 31 := by
  have whole := stream.pos_add_remain
  obtain ⟨returned, samePayload, stops⟩ := stream.readRecord_eq maxSize
  have result :
      (stream.readRecordInto maxSize).1.result =
        wrapInt (min stream.remain maxSize : Nat) := by
    simp only [readRecordInto, readData]
  constructor
  · intro agree
    have sameStream := agree.sameStream
    have sameResult := agree.result
    rw [readRecordInto_snd] at sameStream
    rw [sameStream] at stops
    change stream.size = _ at stops
    have fits := wrapInt_lt (min stream.remain maxSize : Nat)
    rw [← result, sameResult, wanted_length] at fits
    omega
  · rintro ⟨enough, fits⟩
    refine ⟨stream.mid_eq_wanted maxSize, ?_, returned, ?_, ?_, ?_⟩
    · rw [result, wanted_length]
      exact wrapInt_eq_self (by omega) (by omega)
    · refine ext_pos samePayload ?_
      rw [stops]
      change _ = stream.size
      omega
    · exact decide_eq_true (Nat.le_refl stream.size)
    · exact if_neg (Nat.lt_irrefl stream.size)

private theorem readDatas_remain
    (start : DatagramStream) (earlier : List Nat) :
    (start.readDatas earlier).remain = start.remain - earlier.sum := by
  obtain ⟨samePayload, pos⟩ := start.readDatas_pos earlier
  have inside := start.inside
  unfold remain
  rw [pos]
  unfold size
  rw [samePayload]
  omega

/-- After any earlier calls of `read_data`, the overloads agree exactly where
all that is left is wanted and its size is an `int`. -/
theorem readRecord_overloads_agree_iff
    (start : DatagramStream) (earlier : List Nat) (maxSize : Nat) :
    (start.readDatas earlier).OverloadsAgree maxSize ↔
      start.remain - earlier.sum ≤ maxSize ∧
        start.remain - earlier.sum < 2 ^ 31 := by
  rw [overloadsAgree_iff_remain, readDatas_remain]

/-- Of two bytes, one of which is wanted, the other one is read as another
record. -/
theorem rest_of_record_read_again :
    ¬ (create [1, 2]).OverloadsAgree 1 ∧
      ((create [1, 2]).readRecordInto 1).2.pendingRecords = 0 ∧
      ((create [1, 2]).readRecord 1).2.pendingRecords = 1 ∧
      (((create [1, 2]).readRecord 1).2.readRecord 1).1 = [2] := by
  decide

end DatagramStream

end StructuredStreams.Stream

import Mathlib.Algebra.Order.Ring.Int

/-!
# Self-delimiting byte codecs

A reader consumes the front of a buffer and returns what is left, or throws.
A codec is a writer and a reader such that reading back an encoding followed
by anything returns the value and exactly what followed.  Records are read by
sequencing the readers of their fields, and `Codec.read_bind` is the one rule
that evaluates such a sequence on the matching sequence of writes.
-/

namespace ByteCodec

abbrev Bytes := List UInt8

/-- A reader consumes the front of the buffer or throws a message. -/
abbrev Reader (α : Type) := StateT Bytes (Except String) α

/-- A value format that delimits itself inside a longer buffer. -/
structure Codec (α : Type) where
  write : α → Bytes
  read : Reader α
  read_write :
    ∀ value rest, read (write value ++ rest) = .ok (value, rest)

/-- A codec whose encodings all take the same number of bytes. -/
structure FixedCodec (width : Nat) (α : Type) extends Codec α where
  write_length : ∀ value, (write value).length = width

section Sequencing

variable {α β : Type}

@[simp]
theorem pure_apply (value : α) (buffer : Bytes) :
    (pure value : Reader α) buffer = .ok (value, buffer) :=
  rfl

theorem bind_apply_ok
    {reader : Reader α} {next : α → Reader β}
    {buffer rest : Bytes} {value : α}
    (consumed : reader buffer = .ok (value, rest)) :
    (reader >>= next) buffer = next value rest := by
  change Except.bind (reader buffer) _ = _
  rw [consumed]
  rfl

/-- A sequence of readers gets through only when its first reader does. -/
theorem of_bind_apply_ok
    {reader : Reader α} {next : α → Reader β}
    {buffer : Bytes} {result : β × Bytes}
    (consumed : (reader >>= next) buffer = .ok result) :
    ∃ value rest,
      reader buffer = .ok (value, rest) ∧ next value rest = .ok result := by
  change Except.bind (reader buffer) _ = _ at consumed
  cases outcome : reader buffer with
  | error message =>
      rw [outcome] at consumed
      cases consumed
  | ok taken =>
      rw [outcome] at consumed
      exact ⟨taken.1, taken.2, rfl, consumed⟩

theorem map_apply_ok
    {reader : Reader α} {convert : α → β}
    {buffer rest : Bytes} {value : α}
    (consumed : reader buffer = .ok (value, rest)) :
    (convert <$> reader) buffer = .ok (convert value, rest) := by
  change Except.bind (reader buffer) _ = _
  rw [consumed]
  rfl

/-- Reading a written field hands its value to the rest of the record. -/
@[simp]
theorem Codec.read_bind
    (codec : Codec α) (value : α) (rest : Bytes)
    (next : α → Reader β) :
    (codec.read >>= next) (codec.write value ++ rest) =
      next value rest :=
  bind_apply_ok (codec.read_write value rest)

/-- The format of one type serves another that it can carry. -/
def Codec.convert
    (codec : Codec α) (pack : β → α) (unpack : α → β)
    (unpack_pack : ∀ value, unpack (pack value) = value) : Codec β where
  write := fun value => codec.write (pack value)
  read := unpack <$> codec.read
  read_write := by
    intro value rest
    rw [map_apply_ok (codec.read_write (pack value) rest), unpack_pack]

end Sequencing

section Fields

variable {α β : Type}

/-- Take one byte off the buffer. -/
def readByte : Reader UInt8
  | [] => .error "Buffer underrun"
  | head :: rest => .ok (head, rest)

/-- Take one byte off the buffer and insist on its value. -/
def expectByte (expected : UInt8) : Reader Unit
  | [] => .error "Buffer underrun"
  | head :: rest =>
      if head = expected then
        .ok ((), rest)
      else
        .error "Unexpected constant"

theorem readByte_cons (head : UInt8) (rest : Bytes) :
    readByte (head :: rest) = .ok (head, rest) :=
  rfl

@[simp]
theorem readByte_bind
    (head : UInt8) (rest : Bytes) (next : UInt8 → Reader β) :
    (readByte >>= next) (head :: rest) = next head rest :=
  bind_apply_ok (readByte_cons head rest)

@[simp]
theorem expectByte_bind
    (head : UInt8) (rest : Bytes) (next : Unit → Reader β) :
    (expectByte head >>= next) (head :: rest) = next () rest := by
  apply bind_apply_ok
  simp [expectByte]

/-- Write a field only when its presence bit is set.  A field that is
announced without having been set is written with the value `filler`. -/
def writeOptional
    (present : Bool) (codec : Codec α) (filler : α)
    (field : Option α) : Bytes :=
  if present then codec.write (field.getD filler) else []

/-- Read a field only when its presence bit is set. -/
def readOptional (present : Bool) (codec : Codec α) :
    Reader (Option α) :=
  if present then
    codec.read >>= fun value => pure (some value)
  else
    pure none

/-- What comes back for an optional field is decided by the presence bit. -/
@[simp]
theorem readOptional_bind
    (present : Bool) (codec : Codec α) (filler : α)
    (field : Option α) (rest : Bytes) (next : Option α → Reader β) :
    (readOptional present codec >>= next)
        (writeOptional present codec filler field ++ rest) =
      next (if present then some (field.getD filler) else none)
        rest := by
  cases present with
  | false =>
      exact bind_apply_ok rfl
  | true =>
      apply bind_apply_ok
      simp [readOptional, writeOptional]

/-- Take everything that remains in the buffer. -/
def readRest : Reader Bytes
  | buffer => .ok (buffer, [])

@[simp]
theorem readRest_bind (buffer : Bytes) (next : Bytes → Reader β) :
    (readRest >>= next) buffer = next buffer [] :=
  bind_apply_ok rfl

end Fields

section Formats

/-- The `width` big-endian base-256 digits of a number. -/
def writeDigits : (width value : Nat) → Bytes
  | 0, _ => []
  | width + 1, value =>
      UInt8.ofNat (value / 256 ^ width) :: writeDigits width value

/-- Read `width` big-endian base-256 digits onto an accumulator. -/
def readDigits : (width accumulator : Nat) → Reader Nat
  | 0, accumulator => pure accumulator
  | width + 1, accumulator =>
      readByte >>= fun digit =>
        readDigits width (accumulator * 256 + digit.toNat)

theorem writeDigits_length (width value : Nat) :
    (writeDigits width value).length = width := by
  induction width with
  | zero =>
      rfl
  | succ width inductionHypothesis =>
      simp [writeDigits, inductionHypothesis]

theorem readDigits_writeDigits
    (width accumulator value : Nat) (rest : Bytes) :
    readDigits width accumulator (writeDigits width value ++ rest) =
      .ok (accumulator * 256 ^ width + value % 256 ^ width, rest) := by
  induction width generalizing accumulator with
  | zero =>
      simp [readDigits, writeDigits, Nat.mod_one]
  | succ width inductionHypothesis =>
      have splitDigit :
          value % 256 ^ (width + 1) =
            256 ^ width * (value / 256 ^ width % 256) +
              value % 256 ^ width := by
        rw [Nat.pow_succ, Nat.mod_mul, Nat.add_comm]
      have digitValue :
          (UInt8.ofNat (value / 256 ^ width)).toNat =
            value / 256 ^ width % 256 := by
        simp
      simp only [readDigits, writeDigits, List.cons_append,
        readByte_bind, inductionHypothesis]
      rw [splitDigit, digitValue, Nat.pow_succ, Nat.add_mul,
        Nat.mul_assoc, Nat.mul_comm 256 (256 ^ width),
        Nat.mul_comm (value / 256 ^ width % 256) (256 ^ width),
        Nat.add_assoc]

/-- Fixed-width words in network byte order. -/
def bigEndian (width : Nat) : FixedCodec width (BitVec (8 * width)) where
  write value := writeDigits width value.toNat
  read :=
    readDigits width 0 >>= fun value =>
      pure (BitVec.ofNat (8 * width) value)
  read_write := by
    intro value rest
    have bounded : value.toNat < 256 ^ width := by
      have small := value.isLt
      rwa [Nat.pow_mul] at small
    rw [bind_apply_ok (readDigits_writeDigits width 0 value.toNat rest)]
    simp [Nat.mod_eq_of_lt bounded]
  write_length value := writeDigits_length width value.toNat

/-- A list whose every element is announced by a continuation byte. -/
def writeList {α : Type} (codec : Codec α) : List α → Bytes
  | [] => [0]
  | head :: tail => 1 :: (codec.write head ++ writeList codec tail)

/-- Read announced elements up to the terminating zero byte. -/
def readListLoop {α : Type} (codec : Codec α) : Nat → Reader (List α)
  | 0 => fun _ => .error "Unterminated list"
  | fuel + 1 =>
      readByte >>= fun mark =>
        if mark = 0 then
          pure []
        else
          codec.read >>= fun head =>
            readListLoop codec fuel >>= fun tail =>
              pure (head :: tail)

private theorem readListLoop_writeList
    {α : Type} (codec : Codec α) (rest : Bytes) :
    ∀ (items : List α) (fuel : Nat),
      items.length < fuel →
        readListLoop codec fuel (writeList codec items ++ rest) =
          .ok (items, rest)
  | [], 0, enough => by
      simp at enough
  | [], fuel + 1, _ => by
      simp [readListLoop, writeList]
  | _ :: _, 0, enough => by
      simp at enough
  | head :: tail, fuel + 1, enough => by
      have tailRead :
          readListLoop codec fuel (writeList codec tail ++ rest) =
            .ok (tail, rest) :=
        readListLoop_writeList codec rest tail fuel
          (by simpa using enough)
      simp only [readListLoop, writeList, List.cons_append,
        List.append_assoc, readByte_bind]
      rw [if_neg (by decide), Codec.read_bind, bind_apply_ok tailRead]
      rfl

private theorem length_lt_writeList_length
    {α : Type} (codec : Codec α) (items : List α) :
    items.length < (writeList codec items).length := by
  induction items with
  | nil =>
      simp [writeList]
  | cons head tail inductionHypothesis =>
      simp only [writeList, List.length_cons, List.length_append]
      omega

/-- Lists of self-delimiting elements delimit themselves. -/
def listOf {α : Type} (codec : Codec α) : Codec (List α) where
  write := writeList codec
  read := fun buffer => readListLoop codec buffer.length buffer
  read_write := by
    intro items rest
    apply readListLoop_writeList
    have shorter := length_lt_writeList_length codec items
    simp only [List.length_append]
    omega

/-- A run of bytes whose length is fixed by its type. -/
def rawBytes (count : Nat) : FixedCodec count (Vector UInt8 count) where
  write value := value.toList
  read := fun buffer =>
    if enough : count ≤ buffer.length then
      .ok (⟨(buffer.take count).toArray, by simp [enough]⟩,
        buffer.drop count)
    else
      .error "Buffer underrun"
  read_write := by
    intro value rest
    have enough : count ≤ (value.toList ++ rest).length := by
      simp
    have taken : (value.toList ++ rest).take count = value.toList := by
      rw [List.take_append_of_le_length (by simp)]
      exact List.take_of_length_le (by simp)
    have dropped : (value.toList ++ rest).drop count = rest := by
      rw [List.drop_append_of_le_length (by simp)]
      simp
    rw [dif_pos enough]
    simp only [taken, dropped]
    rfl
  write_length value := by
    simp

end Formats

end ByteCodec

import StructuredStreams.Framing.FrameFormat

/-!
# Which frame encodings delimit themselves

Reading the encoding of a header in front of any bytes always succeeds.
`FrameHeader.received` says what comes back: the header itself and exactly
the bytes that followed, except that a STREAM header comes back as its flag
byte announces it, and a PADDING header swallows everything behind it.
-/

namespace StructuredStreams

open ByteCodec

theorem EmptyFrameHeader.read_write
    (header : EmptyFrameHeader) (rest : Bytes) :
    EmptyFrameHeader.read (header.write ++ rest) =
      .ok (header, rest) := by
  simp [EmptyFrameHeader.read, EmptyFrameHeader.write]

theorem StreamFrameHeader.read_write
    (lib : Fusionary) (header : StreamFrameHeader) (rest : Bytes) :
    StreamFrameHeader.read lib (header.write lib ++ rest) =
      .ok (header.announced, rest) := by
  simp only [StreamFrameHeader.read, StreamFrameHeader.write,
    List.cons_append, List.append_assoc, expectByte_bind,
    Codec.read_bind, readOptional_bind]
  rfl

theorem AckFrameHeader.read_write
    (lib : Fusionary) (header : AckFrameHeader) (rest : Bytes) :
    AckFrameHeader.read lib (header.write lib ++ rest) =
      .ok (header, rest) := by
  simp only [AckFrameHeader.read, AckFrameHeader.write,
    List.cons_append, List.append_assoc, expectByte_bind,
    Codec.read_bind, pure_apply]

theorem PaddingFrameHeader.read_write
    (lib : Fusionary) (header : PaddingFrameHeader) (rest : Bytes) :
    PaddingFrameHeader.read lib (header.write lib ++ rest) =
      .ok ({ header with frame := header.frame ++ rest }, []) := by
  simp only [PaddingFrameHeader.read, PaddingFrameHeader.write,
    List.cons_append, List.append_assoc, expectByte_bind,
    Codec.read_bind, readRest_bind, pure_apply]

theorem DecongestionFrameHeader.read_write
    (lib : Fusionary) (header : DecongestionFrameHeader)
    (rest : Bytes) :
    DecongestionFrameHeader.read lib (header.write lib ++ rest) =
      .ok (header, rest) := by
  simp only [DecongestionFrameHeader.read, DecongestionFrameHeader.write,
    List.cons_append, expectByte_bind, Codec.read_bind, pure_apply]

theorem DetachFrameHeader.read_write
    (lib : Fusionary) (header : DetachFrameHeader) (rest : Bytes) :
    DetachFrameHeader.read lib (header.write lib ++ rest) =
      .ok (header, rest) := by
  simp only [DetachFrameHeader.read, DetachFrameHeader.write,
    List.cons_append, expectByte_bind, Codec.read_bind, pure_apply]

theorem ResetFrameHeader.read_write
    (lib : Fusionary) (header : ResetFrameHeader) (rest : Bytes) :
    ResetFrameHeader.read lib (header.write lib ++ rest) =
      .ok (header, rest) := by
  simp only [ResetFrameHeader.read, ResetFrameHeader.write,
    List.cons_append, List.append_assoc, expectByte_bind,
    Codec.read_bind, pure_apply]

theorem CloseFrameHeader.read_write
    (lib : Fusionary) (header : CloseFrameHeader) (rest : Bytes) :
    CloseFrameHeader.read lib (header.write lib ++ rest) =
      .ok (header, rest) := by
  simp only [CloseFrameHeader.read, CloseFrameHeader.write,
    List.cons_append, List.append_assoc, expectByte_bind,
    Codec.read_bind]
  rw [bind_apply_ok (header.finalAckFrame.read_write lib rest), pure_apply]

theorem SettingsFrameHeader.read_write
    (lib : Fusionary) (header : SettingsFrameHeader) (rest : Bytes) :
    SettingsFrameHeader.read lib (header.write lib ++ rest) =
      .ok (header, rest) := by
  simp only [SettingsFrameHeader.read, SettingsFrameHeader.write,
    List.cons_append, expectByte_bind, Codec.read_bind, pure_apply]

theorem PriorityFrameHeader.read_write
    (lib : Fusionary) (header : PriorityFrameHeader) (rest : Bytes) :
    PriorityFrameHeader.read lib (header.write lib ++ rest) =
      .ok (header, rest) := by
  simp only [PriorityFrameHeader.read, PriorityFrameHeader.write,
    List.cons_append, List.append_assoc, expectByte_bind,
    Codec.read_bind, pure_apply]

/-- The announced offset is the whole offset exactly when it fits. -/
theorem StreamFrameHeader.announcedOffset_eq_iff
    (flags : BitVec 8) (offset : BitVec 64) :
    announcedOffset flags offset = offset ↔
      offset.toNat < 2 ^ (8 * offsetWidth flags) := by
  have restored :
      (announcedOffset flags offset).toNat =
        offset.toNat % 2 ^ (8 * offsetWidth flags) := by
    rw [announcedOffset, BitVec.toNat_setWidth, BitVec.toNat_setWidth]
    apply Nat.mod_eq_of_lt
    exact Nat.lt_of_le_of_lt (Nat.mod_le _ _) offset.isLt
  rw [← BitVec.toNat_inj, restored]
  constructor
  · intro unchanged
    rw [← unchanged]
    exact Nat.mod_lt _ (Nat.two_pow_pos _)
  · exact Nat.mod_eq_of_lt

private theorem announcedField_eq_iff
    {α : Type} (present : Bool) (filler : α) (field : Option α) :
    (if present then some (field.getD filler) else none) = field ↔
      field.isSome = present := by
  cases field with
  | none =>
      cases present <;> simp
  | some value =>
      cases present <;> simp

/-- A STREAM header is read back unchanged exactly when its fields are the
ones its flags announce. -/
theorem StreamFrameHeader.announced_eq_iff
    (header : StreamFrameHeader) :
    header.announced = header ↔ header.FlagsAgree := by
  constructor
  · intro unchanged
    exact
      { parentStreamId :=
          (announcedField_eq_iff _ 0 _).mp
            (congrArg StreamFrameHeader.parentStreamId unchanged)
        usid :=
          (announcedField_eq_iff _ (Vector.replicate 24 0) _).mp
            (congrArg StreamFrameHeader.usid unchanged)
        streamOffset :=
          (announcedOffset_eq_iff _ _).mp
            (congrArg StreamFrameHeader.streamOffset unchanged)
        frame :=
          (announcedField_eq_iff _ [] _).mp
            (congrArg StreamFrameHeader.frame unchanged) }
  · intro agree
    have sameParent :=
      (announcedField_eq_iff _ 0 _).mpr agree.parentStreamId
    have sameUsid :=
      (announcedField_eq_iff _ (Vector.replicate 24 0) _).mpr agree.usid
    have sameOffset := (announcedOffset_eq_iff _ _).mpr agree.streamOffset
    have sameFrame := (announcedField_eq_iff _ [] _).mpr agree.frame
    simp only [announced, sameParent, sameUsid, sameOffset, sameFrame]

namespace FrameHeader

/-- The header and the remaining buffer that reading the encoding of a
header in front of `rest` returns. -/
def received : FrameHeader → Bytes → FrameHeader × Bytes
  | .stream header, rest => (.stream header.announced, rest)
  | .padding header, rest =>
      (.padding { header with frame := header.frame ++ rest }, [])
  | header, rest => (header, rest)

theorem read_write
    (lib : Fusionary) (header : FrameHeader) (rest : Bytes) :
    read lib header.type (header.write lib ++ rest) =
      .ok (header.received rest) := by
  cases header with
  | empty header =>
      exact map_apply_ok (header.read_write rest)
  | stream header =>
      exact map_apply_ok (header.read_write lib rest)
  | ack header =>
      exact map_apply_ok (header.read_write lib rest)
  | padding header =>
      exact map_apply_ok (header.read_write lib rest)
  | decongestion header =>
      exact map_apply_ok (header.read_write lib rest)
  | detach header =>
      exact map_apply_ok (header.read_write lib rest)
  | reset header =>
      exact map_apply_ok (header.read_write lib rest)
  | close header =>
      exact map_apply_ok (header.read_write lib rest)
  | settings header =>
      exact map_apply_ok (header.read_write lib rest)
  | priority header =>
      exact map_apply_ok (header.read_write lib rest)

/-- The header says where it ends: it is not a PADDING header in front of
further bytes, and a STREAM header has the fields its flags announce. -/
def SelfDelimiting : FrameHeader → Bytes → Prop
  | .stream header, _ => header.FlagsAgree
  | .padding _, rest => rest = []
  | _, _ => True

private theorem received_eq_iff (header : FrameHeader) (rest : Bytes) :
    header.received rest = (header, rest) ↔
      header.SelfDelimiting rest := by
  cases header with
  | stream header =>
      simp [received, SelfDelimiting, header.announced_eq_iff]
  | padding header =>
      constructor
      · intro unchanged
        exact (congrArg Prod.snd unchanged).symm
      · intro empty
        simp only [SelfDelimiting] at empty
        simp [received, empty]
  | _ =>
      simp [received, SelfDelimiting]

/-- Reading an encoded header in front of any bytes returns the header and
exactly those bytes if and only if the header is self-delimiting there. -/
theorem read_write_eq_iff_selfDelimiting
    (lib : Fusionary) (header : FrameHeader) (rest : Bytes) :
    read lib header.type (header.write lib ++ rest) =
        .ok (header, rest) ↔
      header.SelfDelimiting rest := by
  rw [read_write, Except.ok.injEq]
  exact header.received_eq_iff rest

/-- A PADDING frame of no padding bytes in front of an EMPTY frame is read
as one PADDING frame that contains the EMPTY frame. -/
theorem padding_swallows_following_empty_frame :
    read .networkOrder .padding
        ((padding ⟨0, []⟩).write .networkOrder ++
          (empty {}).write .networkOrder) =
      .ok (padding ⟨0, [0]⟩, []) ∧
    read .networkOrder .padding
        ((padding ⟨0, []⟩).write .networkOrder ++
          (empty {}).write .networkOrder) ≠
      .ok (padding ⟨0, []⟩, (empty {}).write .networkOrder) := by
  have swallowed :
      read .networkOrder .padding
          ((padding ⟨0, []⟩).write .networkOrder ++
            (empty {}).write .networkOrder) =
        .ok (padding ⟨0, [0]⟩, []) :=
    read_write .networkOrder (padding ⟨0, []⟩) [0]
  refine ⟨swallowed, ?_⟩
  rw [swallowed]
  intro equal
  simp [write, EmptyFrameHeader.write] at equal

end FrameHeader

end StructuredStreams

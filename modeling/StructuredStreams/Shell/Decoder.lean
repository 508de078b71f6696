import StructuredStreams.Foundation.Transducer
import StructuredStreams.Shell.ShellStream
import Mathlib.Data.Nat.Bitwise

/-!
# The shell decoder as a transducer

`decoder` reads the byte stream one byte at a time and emits data bytes and
control messages as soon as they are complete.  `receives_sound` says that
repeated `receive` calls emit what the decoder emits on the bytes of all
chunks together, wherever these are cut.
-/

namespace StructuredStreams.Shell

open ByteCodec

/-- What the decoder emits. -/
inductive Token where
  | byte (value : UInt8)
  | message (body : Bytes)
  deriving DecidableEq, Repr

/-- The bytes and messages of a packet. -/
def Packet.tokens (packet : Packet) : List Token :=
  match packet.type with
  | .null => []
  | .data => packet.data.map Token.byte
  | .control => [Token.message packet.data]

def tokens (packets : List Packet) : List Token :=
  packets.flatMap Packet.tokens

/-- What is known of the construct that is being read. -/
inductive DecoderState where
  | normal
  | length (len : Nat)
  | message (len : Nat) (received : Bytes)
  | failed
  deriving DecidableEq, Repr

/-- The decoder for one byte.  After an escaped marker it expects another
length. -/
def decoder : Transducer DecoderState UInt8 Token where
  step
    | .normal, byte =>
        if byte = controlMarker then (.length 0, [])
        else (.normal, [.byte byte])
    | .length len, byte =>
        if maxControlMessage ≤ len then (.failed, [])
        else
          let len := len * 128 + byte.toNat % 128
          if 128 ≤ byte.toNat then
            if len = 0 then (.length 0, [.byte controlMarker])
            else (.message len [], [])
          else (.length len, [])
    | .message len received, byte =>
        let received := received ++ [byte]
        if received.length = len then (.normal, [.message received])
        else (.message len received, [])
    | .failed, _ => (.failed, [])

theorem decoder_failed_sink : decoder.Sink .failed :=
  fun _ => rfl

section LengthByte

variable {len : Nat} {byte : UInt8}

theorem decoder_past_limit
    (large : maxControlMessage ≤ len) (byte : UInt8) :
    decoder.step (.length len) byte = (.failed, []) :=
  if_pos large

theorem decoder_leading_digit
    (small : len < maxControlMessage) (low : byte.toNat < 128) :
    decoder.step (.length len) byte =
      (.length (len * 128 + byte.toNat % 128), []) := by
  simp only [decoder, if_neg (Nat.not_le.mpr small),
    if_neg (Nat.not_le.mpr low)]

theorem decoder_last_zero
    (small : len < maxControlMessage) (high : 128 ≤ byte.toNat)
    (zero : len * 128 + byte.toNat % 128 = 0) :
    decoder.step (.length len) byte =
      (.length 0, [.byte controlMarker]) := by
  simp only [decoder, if_neg (Nat.not_le.mpr small), if_pos high,
    if_pos zero]

theorem decoder_last_digit
    (small : len < maxControlMessage) (high : 128 ≤ byte.toNat)
    (nonzero : len * 128 + byte.toNat % 128 ≠ 0) :
    decoder.step (.length len) byte =
      (.message (len * 128 + byte.toNat % 128) [], []) := by
  simp only [decoder, if_neg (Nat.not_le.mpr small), if_pos high,
    if_neg nonzero]

end LengthByte

theorem decoder_normal_run
    {bytes : Bytes} (unmarked : controlMarker ∉ bytes) :
    decoder.emitted .normal bytes = bytes.map Token.byte ∧
      decoder.after .normal bytes = .normal := by
  induction bytes with
  | nil =>
      exact ⟨rfl, rfl⟩
  | cons byte bytes inductionHypothesis =>
      rw [List.mem_cons, not_or] at unmarked
      have stepped :
          decoder.step .normal byte = (.normal, [.byte byte]) :=
        if_neg (Ne.symm unmarked.1)
      obtain ⟨emitted, after⟩ := inductionHypothesis unmarked.2
      rw [Transducer.emitted_cons, Transducer.after_cons, stepped]
      exact ⟨by rw [emitted]; rfl, after⟩

theorem decoder_message_incomplete
    {len : Nat} {received bytes : Bytes}
    (room : received.length + bytes.length < len) :
    decoder.emitted (.message len received) bytes = [] ∧
      decoder.after (.message len received) bytes =
        .message len (received ++ bytes) := by
  induction bytes generalizing received with
  | nil =>
      simp
  | cons byte bytes inductionHypothesis =>
      rw [List.length_cons] at room
      have stepped :
          decoder.step (.message len received) byte =
            (.message len (received ++ [byte]), []) := by
        apply if_neg
        simp only [List.length_append, List.length_singleton]
        omega
      have laterRoom :
          (received ++ [byte]).length + bytes.length < len := by
        simp only [List.length_append, List.length_singleton]
        omega
      obtain ⟨emitted, after⟩ := inductionHypothesis laterRoom
      rw [Transducer.emitted_cons, Transducer.after_cons, stepped]
      exact ⟨emitted, by rw [after, List.append_assoc]; rfl⟩

theorem decoder_message_complete
    {len : Nat} {received bytes : Bytes}
    (nonempty : bytes ≠ [])
    (complete : received.length + bytes.length = len) :
    decoder.emitted (.message len received) bytes =
        [.message (received ++ bytes)] ∧
      decoder.after (.message len received) bytes = .normal := by
  obtain ⟨front, last, rfl⟩ :=
    (List.eq_nil_or_concat bytes).resolve_left nonempty
  rw [List.concat_eq_append] at complete ⊢
  rw [List.length_append, List.length_singleton] at complete
  have frontRoom : received.length + front.length < len := by
    omega
  obtain ⟨emitted, after⟩ := decoder_message_incomplete frontRoom
  have stepped :
      decoder.step (.message len (received ++ front)) last =
        (.normal, [.message (received ++ front ++ [last])]) := by
    apply if_pos
    simp only [List.length_append, List.length_singleton]
    omega
  rw [Transducer.emitted_append, Transducer.after_append, emitted, after,
    Transducer.emitted_cons, Transducer.after_cons, stepped,
    List.append_assoc]
  exact ⟨rfl, rfl⟩

def ShellStream.decoderState (shell : ShellStream) : DecoderState :=
  match shell.rstate with
  | .recvNormal => .normal
  | .recvLength => .length shell.ctlLen
  | .recvMessage =>
      .message shell.ctlLen (shell.ctlBuffer.take shell.ctlGot)

/-- What every pass of `receive` relies on and keeps up. -/
structure ShellStream.WellFormed (shell : ShellStream) : Prop where
  unreadSuffix : shell.rxData <:+ shell.rxBuffer
  messageRoom :
    shell.rstate = .recvMessage →
      shell.ctlGot < shell.ctlLen ∧
        shell.ctlBuffer.length = shell.ctlLen

theorem ShellStream.create_wellFormed
    (ctlLen ctlGot : Nat) (pending : List Bytes) :
    (ShellStream.create ctlLen ctlGot pending).WellFormed where
  unreadSuffix := List.suffix_refl []
  messageRoom := by
    intro impossible
    cases impossible

/-- What the decoder still emits for the bytes that were not processed. -/
def ShellStream.remaining (shell : ShellStream) : List Token :=
  decoder.emitted shell.decoderState shell.unread

/-- The second state is the first one after some bytes, for which the
decoder emits the given tokens. -/
def Consumes
    (shell : ShellStream) (output : List Token) (next : ShellStream) :
    Prop :=
  ∃ front,
    shell.unread = front ++ next.unread ∧
      decoder.emitted shell.decoderState front = output ∧
      decoder.after shell.decoderState front = next.decoderState

theorem Consumes.trans
    {shell middle final : ShellStream} {earlier later : List Token}
    (first : Consumes shell earlier middle)
    (second : Consumes middle later final) :
    Consumes shell (earlier ++ later) final := by
  obtain ⟨front, unread, emitted, after⟩ := first
  obtain ⟨back, middleUnread, middleEmitted, middleAfter⟩ := second
  refine ⟨front ++ back, ?_, ?_, ?_⟩
  · rw [unread, middleUnread, List.append_assoc]
  · rw [Transducer.emitted_append, emitted, after, middleEmitted]
  · rw [Transducer.after_append, after, middleAfter]

/-- Nothing is lost or made up between two states. -/
theorem Consumes.remaining_eq
    {shell next : ShellStream} {output : List Token}
    (consumed : Consumes shell output next) :
    shell.remaining = output ++ next.remaining := by
  obtain ⟨front, unread, emitted, after⟩ := consumed
  rw [ShellStream.remaining, unread, Transducer.emitted_append, emitted,
    after]
  rfl

/-- Bounds the number of calls of `receive` until nothing is left. -/
def ShellStream.effort (shell : ShellStream) : Nat :=
  shell.unread.length + shell.pending.length

/-- What one pass of `receive` may do. -/
def PassSound (shell : ShellStream) : Pass → Prop
  | .again next =>
      next.WellFormed ∧ Consumes shell [] next ∧
        next.pending.length ≤ shell.pending.length ∧
        next.unread.length < shell.unread.length
  | .returned packet next =>
      next.WellFormed ∧ Consumes shell packet.tokens next ∧
        (next.effort < shell.effort ∨ next.remaining = [])
  | .asserted => False

/-! ## Every pass is sound -/

@[simp]
theorem ShellStream.advance_ctlLen (shell : ShellStream) (act : Nat) :
    (shell.advance act).ctlLen = shell.ctlLen :=
  rfl

theorem ShellStream.unread_advance
    (shell : ShellStream) (act : Nat) :
    shell.unread =
      shell.rxData.take act ++ (shell.advance act).unread := by
  simp only [ShellStream.unread, ShellStream.advance,
    ← List.append_assoc, List.take_append_drop]

private theorem ShellStream.unread_advance_lt
    (shell : ShellStream) {act : Nat}
    (positive : 0 < act) (nonempty : shell.rxData ≠ []) :
    (shell.advance act).unread.length < shell.unread.length := by
  have := List.length_pos_iff.mpr nonempty
  simp only [ShellStream.unread, ShellStream.advance,
    List.length_append, List.length_drop]
  omega

theorem ShellStream.effort_advance_lt
    (shell : ShellStream) {act : Nat}
    (positive : 0 < act) (nonempty : shell.rxData ≠ []) :
    (shell.advance act).effort < shell.effort :=
  Nat.add_lt_add_right (shell.unread_advance_lt positive nonempty) _

private theorem ShellStream.WellFormed.suffix_advance
    {shell : ShellStream} (wellFormed : shell.WellFormed) (act : Nat) :
    shell.rxData.drop act <:+ shell.rxBuffer :=
  (List.drop_suffix act shell.rxData).trans wellFormed.unreadSuffix

/-- The shortcut that returns the whole receive buffer returns the unread
bytes. -/
theorem ShellStream.WellFormed.shortcut
    {shell : ShellStream} (wellFormed : shell.WellFormed)
    {act : Nat} (inside : act ≤ shell.rxData.length) :
    (if act = shell.rxBuffer.length then shell.rxBuffer
      else shell.rxData.take act) =
      shell.rxData.take act := by
  split
  · next whole =>
      have shorter := wellFormed.unreadSuffix.length_le
      have same : shell.rxData = shell.rxBuffer :=
        wellFormed.unreadSuffix.eq_of_length_le (by omega)
      rw [same, whole, List.take_length]
  · rfl

theorem take_memchr_unmarked (data : Bytes) :
    controlMarker ∉
      data.take ((memchr data controlMarker).getD data.length) := by
  cases found : memchr data controlMarker with
  | none =>
      rw [Option.getD_none, List.take_length]
      exact memchr_eq_none_iff.mp found
  | some offset =>
      exact (memchr_eq_some found).1

private theorem memchr_getD_le (data : Bytes) :
    (memchr data controlMarker).getD data.length ≤ data.length := by
  cases found : memchr data controlMarker with
  | none =>
      exact Nat.le_refl data.length
  | some offset =>
      exact Nat.le_of_lt (memchr_lt found)

theorem memchr_getD_pos
    {head : UInt8} {tail : Bytes} (unmarked : head ≠ controlMarker) :
    0 <
      (memchr (head :: tail) controlMarker).getD
        (head :: tail).length := by
  cases found : memchr (head :: tail) controlMarker with
  | none =>
      exact Nat.succ_pos tail.length
  | some offset =>
      cases offset with
      | zero =>
          have hit := (memchr_eq_some found).2
          simp only [List.take_zero, List.nil_append] at hit
          injection hit with headEquality
          exact absurd headEquality unmarked
      | succ offset =>
          exact Nat.succ_pos offset

private theorem passNormal_sound
    {shell : ShellStream} {head : UInt8} {tail : Bytes}
    (wellFormed : shell.WellFormed)
    (unreadBytes : shell.rxData = head :: tail)
    (normal : shell.rstate = .recvNormal) :
    PassSound shell (passNormal shell head) := by
  have state : shell.decoderState = .normal := by
    rw [ShellStream.decoderState, normal]
  have nonempty : shell.rxData ≠ [] := by
    simp [unreadBytes]
  unfold passNormal
  by_cases marker : head = controlMarker
  · rw [if_pos marker]
    refine ⟨⟨wellFormed.suffix_advance 1, ?_⟩, ?_, Nat.le_refl _,
      shell.unread_advance_lt Nat.one_pos nonempty⟩
    · intro impossible
      cases impossible
    · have step : decoder.step .normal head = (.length 0, []) :=
        if_pos marker
      refine ⟨[head], ?_, ?_, ?_⟩
      · simp [ShellStream.unread, ShellStream.advance, unreadBytes]
      · rw [state, Transducer.emitted_cons, step]
        rfl
      · rw [state, Transducer.after_cons, step]
        rfl
  · rw [if_neg marker]
    have inside := memchr_getD_le shell.rxData
    have positive :
        0 <
          (memchr shell.rxData controlMarker).getD
            shell.rxData.length := by
      rw [unreadBytes]
      exact memchr_getD_pos marker
    obtain ⟨emitted, after⟩ :=
      decoder_normal_run (take_memchr_unmarked shell.rxData)
    simp only [wellFormed.shortcut inside]
    refine ⟨⟨wellFormed.suffix_advance _, ?_⟩, ?_,
      Or.inl (shell.effort_advance_lt positive nonempty)⟩
    · intro impossible
      rw [ShellStream.advance, normal] at impossible
      cases impossible
    · refine ⟨_, shell.unread_advance _, ?_, ?_⟩
      · rw [state, emitted]
        rfl
      · rw [state, after, ShellStream.decoderState,
          ShellStream.advance, normal]

/-! The digit arithmetic of the length bytes. -/

theorem and_high_bit_ne_zero_iff (byte : UInt8) :
    byte &&& 0x80 ≠ 0 ↔ 128 ≤ byte.toNat := by
  have bound : byte.toNat < 256 := byte.toNat_lt
  have masked :
      (byte &&& 0x80).toNat = (byte.toNat.testBit 7).toNat * 2 ^ 7 := by
    rw [UInt8.toNat_and]
    exact Nat.and_two_pow byte.toNat 7
  rw [Ne, ← UInt8.toNat_inj, masked, Nat.testBit_eq_decide_div_mod_eq]
  by_cases high : 128 ≤ byte.toNat
  · have digit : byte.toNat / 128 % 2 = 1 := by
      omega
    simp [digit, high]
  · have digit : byte.toNat / 128 % 2 = 0 := by
      omega
    simp [digit, high]

private theorem and_low_bits (byte : UInt8) :
    (byte &&& 0x7f).toNat = byte.toNat % 128 := by
  rw [UInt8.toNat_and]
  exact Nat.and_two_pow_sub_one_eq_mod byte.toNat 7

theorem shift_or_digit (len : Nat) (byte : UInt8) :
    (len <<< 7) ||| (byte &&& 0x7f).toNat =
      len * 128 + byte.toNat % 128 := by
  have small : byte.toNat % 128 < 2 ^ 7 :=
    Nat.mod_lt _ (by decide)
  rw [and_low_bits, ← Nat.shiftLeft_add_eq_or_of_lt small,
    Nat.shiftLeft_eq]

private theorem passLength_sound
    {shell : ShellStream} {head : UInt8} {tail : Bytes}
    (wellFormed : shell.WellFormed)
    (unreadBytes : shell.rxData = head :: tail)
    (readingLength : shell.rstate = .recvLength) :
    PassSound shell (passLength shell head) := by
  have state : shell.decoderState = .length shell.ctlLen := by
    rw [ShellStream.decoderState, readingLength]
  have nonempty : shell.rxData ≠ [] := by
    simp [unreadBytes]
  have unreadHead :
      shell.unread = [head] ++ (shell.advance 1).unread := by
    rw [shell.unread_advance 1, unreadBytes]
    rfl
  have shorter := shell.unread_advance_lt Nat.one_pos nonempty
  have lessEffort := shell.effort_advance_lt Nat.one_pos nonempty
  have stillLength : (shell.advance 1).rstate = .recvLength :=
    readingLength
  unfold passLength
  by_cases tooLarge : maxControlMessage ≤ shell.ctlLen
  · rw [if_pos tooLarge]
    refine ⟨⟨wellFormed.unreadSuffix, wellFormed.messageRoom⟩,
      ⟨[], rfl, rfl, rfl⟩, Or.inr ?_⟩
    change shell.remaining = []
    rw [ShellStream.remaining, state, unreadHead, List.singleton_append,
      Transducer.emitted_cons, decoder_past_limit tooLarge]
    exact decoder_failed_sink.emitted_eq _
  · rw [if_neg tooLarge]
    have small := Nat.not_le.mp tooLarge
    simp only [shift_or_digit]
    by_cases last : 128 ≤ head.toNat
    · rw [if_pos ((and_high_bit_ne_zero_iff head).mpr last)]
      by_cases empty : shell.ctlLen * 128 + head.toNat % 128 = 0
      · rw [if_pos empty]
        have step := decoder_last_zero small last empty
        refine ⟨⟨wellFormed.suffix_advance 1, ?_⟩,
          ⟨[head], unreadHead, ?_, ?_⟩, Or.inl lessEffort⟩
        · intro impossible
          rw [stillLength] at impossible
          cases impossible
        · rw [state, Transducer.emitted_cons, step]
          rfl
        · rw [state, Transducer.after_cons, step,
            ShellStream.decoderState, stillLength]
          simp only [empty, Transducer.after_nil]
      · rw [if_neg empty]
        have step := decoder_last_digit small last empty
        refine ⟨⟨wellFormed.suffix_advance 1, ?_⟩,
          ⟨[head], unreadHead, ?_, ?_⟩, Nat.le_refl _, shorter⟩
        · intro _
          refine ⟨Nat.pos_of_ne_zero empty, ?_⟩
          simp only [resize, List.length_append, List.length_take,
            List.length_replicate]
          omega
        · rw [state, Transducer.emitted_cons, step]
          rfl
        · rw [state, Transducer.after_cons, step]
          rfl
    · rw [if_neg (mt (and_high_bit_ne_zero_iff head).mp last)]
      have step := decoder_leading_digit small (Nat.not_le.mp last)
      refine ⟨⟨wellFormed.suffix_advance 1, ?_⟩,
        ⟨[head], unreadHead, ?_, ?_⟩, Nat.le_refl _, shorter⟩
      · intro impossible
        rw [stillLength] at impossible
        cases impossible
      · rw [state, Transducer.emitted_cons, step]
        rfl
      · rw [state, Transducer.after_cons, step,
          ShellStream.decoderState, stillLength]
        rfl

private theorem memcpy_length
    {buffer source : Bytes} {offset : Nat}
    (fits : offset + source.length ≤ buffer.length) :
    (memcpy buffer offset source).length = buffer.length := by
  simp only [memcpy, List.length_append, List.length_take,
    List.length_drop]
  omega

/-- The bytes up to the end of what was copied. -/
theorem memcpy_take
    {buffer source : Bytes} {offset : Nat}
    (starts : offset ≤ buffer.length) :
    (memcpy buffer offset source).take (offset + source.length) =
      buffer.take offset ++ source := by
  rw [memcpy]
  apply List.take_left'
  rw [List.length_append, List.length_take_of_le starts]

theorem passMessage_sound
    {shell : ShellStream}
    (wellFormed : shell.WellFormed)
    (nonempty : shell.rxData ≠ [])
    (readingMessage : shell.rstate = .recvMessage) :
    PassSound shell (passMessage shell) := by
  obtain ⟨room, bufferLength⟩ := wellFormed.messageRoom readingMessage
  have state :
      shell.decoderState =
        .message shell.ctlLen (shell.ctlBuffer.take shell.ctlGot) := by
    rw [ShellStream.decoderState, readingMessage]
  have amount := List.length_pos_iff.mpr nonempty
  generalize actValue :
    min shell.rxData.length (shell.ctlLen - shell.ctlGot) = act
  have actPositive : 0 < act := by
    omega
  have actBound : act ≤ shell.rxData.length := by
    omega
  have actRoom : shell.ctlGot + act ≤ shell.ctlLen := by
    omega
  have taken : (shell.rxData.take act).length = act :=
    List.length_take_of_le actBound
  have receivedLength :
      (shell.ctlBuffer.take shell.ctlGot).length = shell.ctlGot :=
    List.length_take_of_le (by omega)
  have copied :
      (memcpy shell.ctlBuffer shell.ctlGot
          (shell.rxData.take act)).length =
        shell.ctlLen := by
    rw [memcpy_length (by omega), bufferLength]
  have copiedFront :
      (memcpy shell.ctlBuffer shell.ctlGot (shell.rxData.take act)).take
          (shell.ctlGot + act) =
        shell.ctlBuffer.take shell.ctlGot ++ shell.rxData.take act := by
    rw [← memcpy_take (by omega), taken]
  have shorter := shell.unread_advance_lt actPositive nonempty
  have lessEffort := shell.effort_advance_lt actPositive nonempty
  unfold passMessage
  simp only [actValue, ShellStream.advance_ctlLen]
  by_cases complete : shell.ctlGot + act = shell.ctlLen
  · rw [if_pos complete, if_pos]
    · have whole :
          memcpy shell.ctlBuffer shell.ctlGot (shell.rxData.take act) =
            shell.ctlBuffer.take shell.ctlGot ++
              shell.rxData.take act := by
        rw [← copiedFront, complete, ← copied, List.take_length]
      have takenNonempty : shell.rxData.take act ≠ [] :=
        List.ne_nil_of_length_pos (by omega)
      obtain ⟨emitted, after⟩ :=
        decoder_message_complete takenNonempty
          (show
            (shell.ctlBuffer.take shell.ctlGot).length +
                (shell.rxData.take act).length =
              shell.ctlLen by
            omega)
      refine ⟨⟨wellFormed.suffix_advance act, ?_⟩,
        ⟨_, shell.unread_advance act, ?_, ?_⟩, Or.inl lessEffort⟩
      · intro impossible
        cases impossible
      · rw [state, emitted, whole]
        rfl
      · rw [state, after]
        rfl
    · exact copied
  · rw [if_neg complete]
    obtain ⟨emitted, after⟩ :=
      decoder_message_incomplete
        (show
          (shell.ctlBuffer.take shell.ctlGot).length +
              (shell.rxData.take act).length <
            shell.ctlLen by
          omega)
    refine ⟨⟨wellFormed.suffix_advance act, ?_⟩,
      ⟨_, shell.unread_advance act, ?_, ?_⟩, Nat.le_refl _, shorter⟩
    · intro _
      exact ⟨Nat.lt_of_le_of_ne actRoom complete, copied⟩
    · rw [state, emitted]
    · rw [state, after, ShellStream.decoderState]
      simp only [ShellStream.advance, readingMessage, copiedFront]

theorem ShellStream.fill_unread (shell : ShellStream) :
    shell.fill.unread = shell.unread := by
  unfold ShellStream.fill
  split
  · next empty =>
      rw [ShellStream.unread, ShellStream.unread, empty]
      cases shell.pending with
      | nil =>
          rfl
      | cons chunk chunks =>
          rfl
  · rfl

theorem ShellStream.fill_decoderState (shell : ShellStream) :
    shell.fill.decoderState = shell.decoderState := by
  unfold ShellStream.fill
  split <;> rfl

private theorem ShellStream.fill_pending_length_le (shell : ShellStream) :
    shell.fill.pending.length ≤ shell.pending.length := by
  unfold ShellStream.fill
  split
  · exact (List.tail_sublist shell.pending).length_le
  · exact Nat.le_refl _

theorem ShellStream.fill_effort_le (shell : ShellStream) :
    shell.fill.effort ≤ shell.effort := by
  rw [ShellStream.effort, shell.fill_unread]
  exact Nat.add_le_add_left shell.fill_pending_length_le _

theorem ShellStream.WellFormed.fill
    {shell : ShellStream} (wellFormed : shell.WellFormed) :
    shell.fill.WellFormed := by
  unfold ShellStream.fill
  split
  · exact ⟨List.suffix_refl _, wellFormed.messageRoom⟩
  · exact wellFormed

/-- A read that brings nothing used up one entry of the stream, or the
stream is empty. -/
theorem ShellStream.fill_empty_unread
    {shell : ShellStream} (nothing : shell.fill.rxData = []) :
    shell.fill.effort < shell.effort ∨ shell.fill.unread = [] := by
  have empty : shell.rxData = [] := by
    by_contra nonempty
    rw [ShellStream.fill, if_neg nonempty] at nothing
    exact nonempty nothing
  cases pending : shell.pending with
  | nil =>
      right
      rw [shell.fill_unread, ShellStream.unread, empty, pending]
      rfl
  | cons chunk chunks =>
      left
      rw [ShellStream.effort, ShellStream.effort, shell.fill_unread,
        ShellStream.fill, if_pos empty, pending]
      exact Nat.lt_succ_self _

private theorem ShellStream.fill_empty
    {shell : ShellStream} (nothing : shell.fill.rxData = []) :
    shell.fill.effort < shell.effort ∨ shell.fill.remaining = [] := by
  apply (ShellStream.fill_empty_unread nothing).imp_right
  intro unread
  rw [ShellStream.remaining, unread]
  rfl

theorem Consumes.of_fill
    {shell next : ShellStream} {output : List Token}
    (consumed : Consumes shell.fill output next) :
    Consumes shell output next := by
  rw [Consumes, shell.fill_unread, shell.fill_decoderState] at consumed
  exact consumed

theorem PassSound.of_fill
    {shell : ShellStream} {pass : Pass}
    (sound : PassSound shell.fill pass) :
    PassSound shell pass := by
  cases pass with
  | again next =>
      obtain ⟨wellFormed, consumed, pending, shorter⟩ := sound
      rw [shell.fill_unread] at shorter
      exact ⟨wellFormed, consumed.of_fill,
        pending.trans shell.fill_pending_length_le, shorter⟩
  | returned packet next =>
      obtain ⟨wellFormed, consumed, progress⟩ := sound
      exact ⟨wellFormed, consumed.of_fill,
        progress.imp_left fun less =>
          Nat.lt_of_lt_of_le less shell.fill_effort_le⟩
  | asserted =>
      exact sound

theorem receivePass_sound
    {shell : ShellStream} (wellFormed : shell.WellFormed) :
    PassSound shell (receivePass shell) := by
  simp only [receivePass]
  split
  · next nothing =>
      exact ⟨wellFormed.fill,
        ⟨[], shell.fill_unread.symm, rfl, shell.fill_decoderState.symm⟩,
        ShellStream.fill_empty nothing⟩
  · next head tail unreadBytes =>
      apply PassSound.of_fill
      split
      · next normal =>
          exact passNormal_sound wellFormed.fill unreadBytes normal
      · next readingLength =>
          exact passLength_sound wellFormed.fill unreadBytes readingLength
      · next readingMessage =>
          exact
            passMessage_sound wellFormed.fill (by simp [unreadBytes])
              readingMessage

private theorem receiveLoop_sound
    {shell : ShellStream} (wellFormed : shell.WellFormed)
    {fuel : Nat} (enough : shell.unread.length < fuel) :
    ∃ packet next,
      receiveLoop fuel shell = some (packet, next) ∧
        next.WellFormed ∧ Consumes shell packet.tokens next ∧
        (next.effort < shell.effort ∨ next.remaining = []) := by
  induction fuel generalizing shell with
  | zero =>
      exact absurd enough (Nat.not_lt_zero _)
  | succ fuel inductionHypothesis =>
      have sound := receivePass_sound wellFormed
      unfold receiveLoop
      cases outcome : receivePass shell with
      | returned packet next =>
          rw [outcome] at sound
          exact ⟨packet, next, rfl, sound⟩
      | again middle =>
          rw [outcome] at sound
          obtain ⟨middleWellFormed, consumed, pending, shorter⟩ := sound
          obtain ⟨packet, next, returned, nextWellFormed, later,
              progress⟩ :=
            inductionHypothesis middleWellFormed (by omega)
          have less : middle.effort < shell.effort :=
            Nat.add_lt_add_of_lt_of_le shorter pending
          refine ⟨packet, next, returned, nextWellFormed,
            consumed.trans later, ?_⟩
          exact progress.imp_left fun smaller => smaller.trans less
      | asserted =>
          rw [outcome] at sound
          exact sound.elim

theorem receive_sound
    {shell : ShellStream} (wellFormed : shell.WellFormed) :
    ∃ packet next,
      receive shell = some (packet, next) ∧
        next.WellFormed ∧ Consumes shell packet.tokens next ∧
        (next.effort < shell.effort ∨ next.remaining = []) :=
  receiveLoop_sound wellFormed (Nat.lt_succ_self _)

/-- Repeated calls return, and emit what the decoder emits on the bytes they
processed. -/
theorem receives_sound
    {shell : ShellStream} (wellFormed : shell.WellFormed) (calls : Nat) :
    ∃ packets next,
      receives calls shell = some (packets, next) ∧
        next.WellFormed ∧ Consumes shell (tokens packets) next ∧
        (next.effort + calls ≤ shell.effort ∨
          next.remaining = []) := by
  induction calls generalizing shell with
  | zero =>
      exact ⟨[], shell, rfl, wellFormed, ⟨[], rfl, rfl, rfl⟩,
        Or.inl (Nat.le_refl _)⟩
  | succ calls inductionHypothesis =>
      obtain ⟨packet, middle, received, middleWellFormed, consumed,
          progress⟩ :=
        receive_sound wellFormed
      obtain ⟨packets, next, later, nextWellFormed, laterConsumed,
          laterProgress⟩ :=
        inductionHypothesis middleWellFormed
      refine ⟨packet :: packets, next, ?_, nextWellFormed,
        consumed.trans laterConsumed, ?_⟩
      · simp only [receives, received, later, Option.bind_eq_bind,
          Option.bind_some, Option.pure_def]
      · rcases progress with less | quiet
        · exact laterProgress.imp_left fun bound => by omega
        · right
          rw [laterConsumed.remaining_eq] at quiet
          exact (List.append_eq_nil_iff.mp quiet).2

/-- Enough calls emit everything the decoder emits on what was unread. -/
theorem receives_complete
    {shell : ShellStream} (wellFormed : shell.WellFormed)
    {calls : Nat} (enough : shell.effort < calls) :
    ∃ packets next,
      receives calls shell = some (packets, next) ∧
        tokens packets = shell.remaining := by
  obtain ⟨packets, next, received, _, consumed, progress⟩ :=
    receives_sound wellFormed calls
  have quiet : next.remaining = [] :=
    progress.resolve_left (by omega)
  refine ⟨packets, next, received, ?_⟩
  rw [consumed.remaining_eq, quiet, List.append_nil]

end StructuredStreams.Shell

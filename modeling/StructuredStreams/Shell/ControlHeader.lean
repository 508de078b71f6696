import StructuredStreams.Foundation.Run
import StructuredStreams.Shell.RoundTrip

/-!
# The header of a control message

`send_control` writes the digits of the length backwards into ten bytes, and
`receive` puts them together again, testing the size limit before every
digit.  Byte by byte, the header of a message within the limit leads from
character data to the message, with its length and without an error.
-/

namespace StructuredStreams.Shell

open ByteCodec

/-- A header fits the ten bytes of its buffer, starts with the control
marker, and has the high bit set on its last byte only. -/
structure WellFormedHeader (hdr : Bytes) : Prop where
  fits : hdr.length ≤ 10
  marker : hdr.head? = some controlMarker
  highBit :
    ∀ index byte,
      hdr[index]? = some byte →
        (byte &&& 0x80 ≠ 0 ↔ index + 1 = hdr.length)

/-- All that arrived so far was read. -/
def ShellStream.Quiet (shell : ShellStream) : Prop :=
  shell.rxData = [] ∧ shell.pending = []

/-- A byte arrives on the stream underneath. -/
def ShellStream.arrive (shell : ShellStream) (byte : UInt8) : ShellStream :=
  { shell with pending := shell.pending ++ [[byte]] }

/-- A byte arrives, and a call of `receive` reads it without returning
anything. -/
def FeedStep
    (shell : ShellStream) (byte : UInt8) (next : ShellStream) : Prop :=
  receive (shell.arrive byte) = some (Packet.nothing, next)

/-- Byte by byte, the header leads to its message and not before its last
byte.  No error is raised on the way, and the length stays within the limit,
far from the largest `int`. -/
def LeadsToMessage
    (shell : ShellStream) (hdr : Bytes) (len : Nat) : Prop :=
  ∀ front rest,
    hdr = front ++ rest →
    ∃ reached,
      Run FeedStep shell front reached ∧ reached.Quiet ∧
        reached.errors = shell.errors ∧
        (front ≠ [] → reached.ctlLen ≤ maxControlMessage) ∧
        (reached.rstate = .recvMessage ↔ rest = []) ∧
        (rest = [] → reached.ctlLen = len ∧ reached.ctlGot = 0)

section Feed

variable {shell next : ShellStream} {byte : UInt8}

private theorem ShellStream.Quiet.fill_arrive
    (quiet : shell.Quiet) (byte : UInt8) :
    (shell.arrive byte).fill =
      { shell with rxBuffer := [byte], rxData := [byte], pending := [] } := by
  have arrived : (shell.arrive byte).pending = [[byte]] := by
    rw [arrive, quiet.2, List.nil_append]
  have empty : (shell.arrive byte).rxData = [] := quiet.1
  rw [fill, if_pos empty, arrived]
  rfl

theorem ShellStream.Quiet.fill
    (quiet : shell.Quiet) : shell.fill.Quiet := by
  rw [ShellStream.fill, if_pos quiet.1, quiet.2]
  exact ⟨rfl, rfl⟩

/-- A pass that goes on is followed by one that finds nothing to read. -/
theorem feedStep_of_again
    (quiet : shell.Quiet)
    (again : receivePass (shell.arrive byte) = .again next)
    (nextQuiet : next.Quiet) :
    FeedStep shell byte next.fill := by
  have one : (shell.arrive byte).unread.length = 1 := by
    rw [ShellStream.unread, ShellStream.arrive, quiet.1, quiet.2]
    rfl
  have finished : receivePass next = .returned Packet.nothing next.fill := by
    unfold receivePass
    dsimp only
    rw [nextQuiet.fill.1]
  rw [FeedStep, receive, one, receiveLoop, again]
  dsimp only
  rw [receiveLoop, finished]

private theorem feed_marker
    (quiet : shell.Quiet) (normal : shell.rstate = .recvNormal) :
    ∃ next,
      FeedStep shell controlMarker next ∧ next.Quiet ∧
        next.errors = shell.errors ∧ next.rstate = .recvLength ∧
        next.ctlLen = 0 := by
  let next : ShellStream :=
    { shell with
      rxBuffer := [controlMarker]
      rxData := []
      pending := []
      rstate := .recvLength
      ctlLen := 0 }
  have again :
      receivePass (shell.arrive controlMarker) = .again next := by
    rw [receivePass, quiet.fill_arrive]
    simp only [normal, passNormal, if_true]
    rfl
  exact
    ⟨next.fill, feedStep_of_again quiet again ⟨rfl, rfl⟩,
      ShellStream.Quiet.fill ⟨rfl, rfl⟩, rfl, rfl, rfl⟩

/-- A digit that is not the last one. -/
theorem feed_digit
    (quiet : shell.Quiet) (length : shell.rstate = .recvLength)
    (small : shell.ctlLen < maxControlMessage)
    (low : byte.toNat < 128) :
    ∃ next,
      FeedStep shell byte next ∧ next.Quiet ∧
        next.errors = shell.errors ∧ next.rstate = .recvLength ∧
        next.ctlLen = shell.ctlLen * 128 + byte.toNat := by
  let next : ShellStream :=
    { shell with
      rxBuffer := [byte]
      rxData := []
      pending := []
      rstate := .recvLength
      ctlLen := shell.ctlLen * 128 + byte.toNat }
  have again : receivePass (shell.arrive byte) = .again next := by
    have unmarked : ¬ byte &&& 0x80 ≠ 0 := by
      rw [and_high_bit_ne_zero_iff]
      omega
    have appended := shift_or_digit shell.ctlLen byte
    rw [Nat.mod_eq_of_lt low] at appended
    rw [receivePass, quiet.fill_arrive]
    simp only [length, passLength, if_neg (Nat.not_le.mpr small),
      if_neg unmarked, appended]
    rfl
  exact
    ⟨next.fill, feedStep_of_again quiet again ⟨rfl, rfl⟩,
      ShellStream.Quiet.fill ⟨rfl, rfl⟩, rfl, rfl, rfl⟩

/-- The last digit. -/
theorem feed_last
    (quiet : shell.Quiet) (length : shell.rstate = .recvLength)
    (small : shell.ctlLen < maxControlMessage)
    (low : byte.toNat < 128)
    (nonzero : shell.ctlLen * 128 + byte.toNat ≠ 0) :
    ∃ next,
      FeedStep shell (byte ||| 0x80) next ∧ next.Quiet ∧
        next.errors = shell.errors ∧ next.rstate = .recvMessage ∧
        next.ctlLen = shell.ctlLen * 128 + byte.toNat ∧
        next.ctlGot = 0 := by
  let next : ShellStream :=
    { shell with
      rxBuffer := [byte ||| 0x80]
      rxData := []
      pending := []
      ctlLen := shell.ctlLen * 128 + byte.toNat
      rstate := .recvMessage
      ctlBuffer :=
        resize shell.ctlBuffer (shell.ctlLen * 128 + byte.toNat)
      ctlGot := 0 }
  have again : receivePass (shell.arrive (byte ||| 0x80)) = .again next := by
    have marked : (byte ||| 0x80) &&& 0x80 ≠ 0 := by
      rw [and_high_bit_ne_zero_iff, marked_toNat low]
      omega
    have digit : (byte ||| 0x80).toNat % 128 = byte.toNat := by
      rw [marked_toNat low]
      omega
    have appended := shift_or_digit shell.ctlLen (byte ||| 0x80)
    rw [digit] at appended
    rw [receivePass, quiet.fill_arrive]
    simp only [length, passLength, if_neg (Nat.not_le.mpr small),
      if_pos marked, appended, if_neg nonzero]
    rfl
  exact
    ⟨next.fill, feedStep_of_again quiet again ⟨rfl, rfl⟩,
      ShellStream.Quiet.fill ⟨rfl, rfl⟩, rfl, rfl, rfl, rfl⟩

/-- Digits that stay below the limit. -/
theorem feed_digits
    {digits : Bytes} (quiet : shell.Quiet)
    (length : shell.rstate = .recvLength)
    (low : ∀ digit ∈ digits, digit.toNat < 128)
    (small : accumulated shell.ctlLen digits < maxControlMessage) :
    ∃ reached,
      Run FeedStep shell digits reached ∧ reached.Quiet ∧
        reached.errors = shell.errors ∧ reached.rstate = .recvLength ∧
        reached.ctlLen = accumulated shell.ctlLen digits := by
  induction digits generalizing shell with
  | nil =>
      exact ⟨shell, Run.refl, quiet, rfl, length, rfl⟩
  | cons digit digits inductionHypothesis =>
      obtain ⟨digitLow, laterLow⟩ := List.forall_mem_cons.mp low
      have grows := le_accumulated shell.ctlLen (digit :: digits)
      obtain ⟨next, fed, nextQuiet, errors, nextLength, value⟩ :=
        feed_digit quiet length (Nat.lt_of_le_of_lt grows small) digitLow
      have nextSmall :
          accumulated next.ctlLen digits < maxControlMessage := by
        rw [value]
        exact small
      obtain ⟨reached, run, reachedQuiet, laterErrors, atLength, total⟩ :=
        inductionHypothesis nextQuiet nextLength laterLow nextSmall
      refine
        ⟨reached, (Run.single fed).append run, reachedQuiet,
          laterErrors.trans errors, atLength, ?_⟩
      rw [total, value]
      rfl

/-- The marker and digits that stay below the limit. -/
theorem feed_leading
    {digits : Bytes} (quiet : shell.Quiet)
    (normal : shell.rstate = .recvNormal)
    (low : ∀ digit ∈ digits, digit.toNat < 128)
    (small : accumulated 0 digits < maxControlMessage) :
    ∃ reached,
      Run FeedStep shell (controlMarker :: digits) reached ∧
        reached.Quiet ∧ reached.errors = shell.errors ∧
        reached.rstate = .recvLength ∧
        reached.ctlLen = accumulated 0 digits := by
  obtain ⟨begun, fed, begunQuiet, begunErrors, atLength, zero⟩ :=
    feed_marker quiet normal
  rw [← zero] at small
  obtain ⟨reached, run, reachedQuiet, errors, length, value⟩ :=
    feed_digits begunQuiet atLength low small
  rw [zero] at value
  exact
    ⟨reached, (Run.single fed).append run, reachedQuiet,
      errors.trans begunErrors, length, value⟩

/-- The marker and all digits. -/
theorem feed_complete
    {front : Bytes} {last : UInt8} (quiet : shell.Quiet)
    (normal : shell.rstate = .recvNormal)
    (frontLow : ∀ digit ∈ front, digit.toNat < 128)
    (lastLow : last.toNat < 128)
    (small : accumulated 0 front < maxControlMessage)
    (nonzero : accumulated 0 (front ++ [last]) ≠ 0) :
    ∃ reached,
      Run FeedStep shell (controlMarker :: (front ++ [last ||| 0x80]))
          reached ∧
        reached.Quiet ∧ reached.errors = shell.errors ∧
        reached.rstate = .recvMessage ∧
        reached.ctlLen = accumulated 0 (front ++ [last]) ∧
        reached.ctlGot = 0 := by
  obtain ⟨leading, run, leadingQuiet, errors, atLength, value⟩ :=
    feed_leading quiet normal frontLow small
  have total :
      leading.ctlLen * 128 + last.toNat = accumulated 0 (front ++ [last]) := by
    rw [value, accumulated_append_singleton]
  rw [← value] at small
  rw [← total] at nonzero
  obtain ⟨reached, fed, reachedQuiet, lastErrors, atMessage, len, got⟩ :=
    feed_last leadingQuiet atLength small lastLow nonzero
  exact
    ⟨reached, run.snoc _ fed, reachedQuiet, lastErrors.trans errors,
      atMessage, len.trans total, got⟩

end Feed

private theorem markLast_length (hdr : Bytes) :
    (markLast hdr).length = hdr.length := by
  induction hdr with
  | nil =>
      rfl
  | cons digit digits inductionHypothesis =>
      cases digits with
      | nil =>
          rfl
      | cons next digits =>
          exact congrArg (· + 1) inductionHypothesis

private theorem sendControl_header_length
    {msg hdr body : Bytes} (sent : sendControl msg = some [hdr, body]) :
    hdr.length ≤ 10 := by
  unfold sendControl at sent
  split at sent
  · rw [bind_eq_some_iff] at sent
    obtain ⟨digits, _, sent⟩ := sent
    split at sent
    · next short =>
        cases sent
        rw [List.length_cons, markLast_length]
        exact short
    · cases sent
  · cases sent

/-- Bytes without the high bit in front of one that has it. -/
theorem highBit_last_only
    {front : Bytes} {last : UInt8}
    (low : ∀ byte ∈ front, byte.toNat < 128) (high : 128 ≤ last.toNat)
    {index : Nat} {byte : UInt8}
    (found : (front ++ [last])[index]? = some byte) :
    byte &&& 0x80 ≠ 0 ↔ index + 1 = (front ++ [last]).length := by
  rw [and_high_bit_ne_zero_iff, List.length_append, List.length_singleton]
  by_cases before : index < front.length
  · rw [List.getElem?_append_left before] at found
    have byteLow := low byte (List.mem_of_getElem? found)
    omega
  · have bound := (List.getElem?_eq_some_iff.mp found).1
    rw [List.length_append, List.length_singleton] at bound
    have atEnd : index = front.length := by
      omega
    rw [atEnd, List.getElem?_concat_length] at found
    cases found
    omega

private theorem wellFormedHeader_of_digits
    {front : Bytes} {last : UInt8}
    (fits : (controlMarker :: (front ++ [last ||| 0x80])).length ≤ 10)
    (frontLow : ∀ digit ∈ front, digit.toNat < 128)
    (lastLow : last.toNat < 128) :
    WellFormedHeader (controlMarker :: (front ++ [last ||| 0x80])) where
  fits := fits
  marker := rfl
  highBit := by
    intro index byte found
    have markedLow :
        ∀ byte ∈ controlMarker :: front, byte.toNat < 128 :=
      List.forall_mem_cons.mpr ⟨by decide, frontLow⟩
    have high : 128 ≤ (last ||| 0x80).toNat := by
      rw [marked_toNat lastLow]
      omega
    exact highBit_last_only markedLow high found

/-- What a part of the header ends in: nothing yet, some of the digits, or
all of them. -/
theorem header_parts
    {front before rest : Bytes} {marker last : UInt8}
    (isHeader : marker :: (front ++ [last]) = before ++ rest) :
    before = [] ∧ rest ≠ [] ∨
      (∃ digits unread,
        before = marker :: digits ∧ front = digits ++ unread ∧
          rest ≠ []) ∨
      before = marker :: (front ++ [last]) ∧ rest = [] := by
  cases before with
  | nil =>
      refine .inl ⟨rfl, ?_⟩
      rw [List.nil_append] at isHeader
      rw [← isHeader]
      exact List.cons_ne_nil _ _
  | cons first digits =>
      rw [List.cons_append] at isHeader
      obtain ⟨rfl, isDigits⟩ := List.cons.inj isHeader
      rcases List.eq_nil_or_concat rest with rfl | ⟨unread, final, rfl⟩
      · rw [List.append_nil] at isDigits
        rw [isDigits]
        exact .inr (.inr ⟨rfl, rfl⟩)
      · rw [List.concat_eq_append] at isDigits ⊢
        rw [← List.append_assoc] at isDigits
        exact
          .inr
            (.inl
              ⟨digits, unread, rfl, (List.append_inj' isDigits rfl).1,
                List.append_ne_nil_of_right_ne_nil _
                  (List.cons_ne_nil _ _)⟩)

/-- The header that `send_control` builds for a message within the limit
leads `receive` to the message, with its length. -/
theorem control_header_decodes
    {shell : ShellStream} (normal : shell.rstate = .recvNormal)
    (quiet : shell.Quiet) {msg : Bytes} (sendable : Sendable msg) :
    ∃ hdr,
      sendControl msg = some [hdr, msg] ∧ WellFormedHeader hdr ∧
        LeadsToMessage shell hdr msg.length := by
  obtain ⟨front, last, sent, lowDigits, value⟩ :=
    sendControl_eq_some sendable
  obtain ⟨positive, limited⟩ := sendable
  have frontLow : ∀ digit ∈ front, digit.toNat < 128 := fun digit member =>
    lowDigits digit (List.mem_append_left [last] member)
  have lastLow : last.toNat < 128 :=
    lowDigits last (List.mem_append_right front List.mem_cons_self)
  have total : accumulated 0 (front ++ [last]) = msg.length := by
    rw [value, Nat.zero_mul, Nat.zero_add]
  have small : accumulated 0 front < maxControlMessage := by
    rw [accumulated_append_singleton] at total
    omega
  refine
    ⟨_, sent,
      wellFormedHeader_of_digits (sendControl_header_length sent) frontLow
        lastLow,
      ?_⟩
  intro before rest isHeader
  rcases header_parts isHeader with
    ⟨rfl, unfinished⟩ | ⟨digits, unread, rfl, isFront, unfinished⟩ |
      ⟨rfl, rfl⟩
  · refine
      ⟨shell, Run.refl, quiet, rfl, absurd rfl, ?_,
        fun finished => absurd finished unfinished⟩
    rw [normal]
    exact iff_of_false (by decide) unfinished
  · rw [isFront] at frontLow small
    have digitsLow : ∀ digit ∈ digits, digit.toNat < 128 :=
      fun digit member =>
        frontLow digit (List.mem_append_left unread member)
    have shorter : accumulated 0 digits < maxControlMessage := by
      refine Nat.lt_of_le_of_lt ?_ small
      rw [accumulated, accumulated, List.foldl_append]
      exact le_accumulated _ unread
    obtain ⟨reached, run, reachedQuiet, errors, atLength, leading⟩ :=
      feed_leading quiet normal digitsLow shorter
    refine
      ⟨reached, run, reachedQuiet, errors, ?_, ?_,
        fun finished => absurd finished unfinished⟩
    · intro _
      rw [leading]
      exact Nat.le_of_lt shorter
    · rw [atLength]
      exact iff_of_false (by decide) unfinished
  · have nonzero : accumulated 0 (front ++ [last]) ≠ 0 := by
      omega
    obtain ⟨reached, run, reachedQuiet, errors, atMessage, len, got⟩ :=
      feed_complete quiet normal frontLow lastLow small nonzero
    rw [total] at len
    refine
      ⟨reached, run, reachedQuiet, errors, ?_, iff_of_true atMessage rfl,
        fun _ => ⟨len, got⟩⟩
    intro _
    rw [len]
    exact limited

/-- The length 129 has two digits, both equal to the marker. -/
theorem control_header_decodes_marker_digits :
    ∃ hdr,
      sendControl (List.replicate 129 7) =
          some [hdr, List.replicate 129 7] ∧
        WellFormedHeader hdr ∧
        LeadsToMessage (ShellStream.create 0 0 []) hdr
          (List.replicate 129 (7 : UInt8)).length := by
  have sendable : Sendable (List.replicate 129 7) := by
    rw [Sendable, List.length_replicate]
    decide
  exact
    @control_header_decodes (ShellStream.create 0 0 []) rfl ⟨rfl, rfl⟩ _
      sendable

end StructuredStreams.Shell

import StructuredStreams.Shell.Chunking

/-!
# The limit on the length of a control message

`receive` tests the length it has read so far against the limit before it
appends a digit, and not after the last one.  A length above the limit is
reported when it reaches the limit without its last digit, and accepted
otherwise.
-/

namespace StructuredStreams.Shell

open ByteCodec

/-- The digits of a length, of which only the last one has the high bit
set. -/
structure LengthField where
  digits : Bytes
  last : UInt8
  low : ∀ digit ∈ digits, digit.toNat < 128
  high : 128 ≤ last.toNat

namespace LengthField

def bytes (field : LengthField) : Bytes :=
  field.digits ++ [field.last]

/-- The value without the last digit. -/
def leading (field : LengthField) : Nat :=
  accumulated 0 field.digits

def value (field : LengthField) : Nat :=
  field.leading * 128 + field.last.toNat % 128

end LengthField

/-- Where a byte string leaves off: in the character data, or where a length
begins. -/
inductive Place where
  | text
  | length
  deriving DecidableEq, Repr

/-- The byte string leads to the place.  Behind a length of zero, which
escapes a marker, another length begins. -/
inductive LeadsTo : Bytes → Place → Prop
  | start : LeadsTo [] .text
  | data {front : Bytes} {byte : UInt8} :
      LeadsTo front .text →
      byte ≠ controlMarker →
      LeadsTo (front ++ [byte]) .text
  | marker {front : Bytes} :
      LeadsTo front .text →
      LeadsTo (front ++ [controlMarker]) .length
  | escaped {front : Bytes} (field : LengthField) :
      LeadsTo front .length →
      field.value = 0 →
      LeadsTo (front ++ field.bytes) .length
  | message {front body : Bytes} (field : LengthField) :
      LeadsTo front .length →
      field.leading < maxControlMessage →
      field.value ≠ 0 →
      body.length = field.value →
      LeadsTo (front ++ field.bytes ++ body) .text

/-- A length of the byte string that is below the limit without its last
digit is not above the limit. -/
def WithinLimit (input : Bytes) : Prop :=
  ∀ front field rest,
    input = front ++ LengthField.bytes field ++ rest →
    LeadsTo front .length →
    field.leading < maxControlMessage →
    field.value ≤ maxControlMessage

private theorem decoder_field
    (field : LengthField) (small : field.leading < maxControlMessage) :
    decoder.after (.length 0) field.bytes =
      if field.value = 0 then .length 0 else .message field.value [] := by
  have digits := (decoder_leading_digits field.low 0).2
  have reached :
      decoder.after (.length 0) field.digits = .length field.leading :=
    digits.resolve_right fun failed =>
      absurd failed.2 (Nat.not_le.mpr small)
  rw [LengthField.bytes, Transducer.after_append, reached,
    Transducer.after_cons, Transducer.after_nil]
  simp only [decoder, if_neg (Nat.not_le.mpr small), if_pos field.high]
  rw [← LengthField.value]
  split <;> rfl

private theorem decoder_field_failed
    (field : LengthField) (large : maxControlMessage ≤ field.leading) :
    decoder.after (.length 0) field.bytes = .failed := by
  rw [LengthField.bytes, Transducer.after_append]
  rcases (decoder_leading_digits field.low 0).2 with reached | failed
  · rw [reached, Transducer.after_cons, Transducer.after_nil]
    exact congrArg Prod.fst (if_pos large)
  · rw [failed.1]
    rfl

/-- The decoder state at a place. -/
def Place.decoderState : Place → DecoderState
  | .text => .normal
  | .length => .length 0

theorem LeadsTo.after
    {front : Bytes} {place : Place} (leads : LeadsTo front place) :
    decoder.after .normal front = place.decoderState := by
  induction leads with
  | start =>
      rfl
  | data _ unmarked inductionHypothesis =>
      rw [Transducer.after_append, inductionHypothesis]
      exact congrArg Prod.fst (if_neg unmarked)
  | marker _ inductionHypothesis =>
      rw [Transducer.after_append, inductionHypothesis]
      rfl
  | escaped field _ zero inductionHypothesis =>
      have small : field.leading < maxControlMessage := by
        rw [LengthField.value] at zero
        unfold maxControlMessage
        omega
      have atLength : decoder.after .normal _ = .length 0 :=
        inductionHypothesis
      rw [Transducer.after_append, atLength, decoder_field field small,
        if_pos zero]
      rfl
  | message field _ small nonzero complete inductionHypothesis =>
      have atLength : decoder.after .normal _ = .length 0 :=
        inductionHypothesis
      rw [Transducer.after_append, Transducer.after_append, atLength,
        decoder_field field small, if_neg nonzero]
      refine (decoder_message_complete ?_ ?_).2
      · rintro rfl
        exact nonzero complete.symm
      · rw [List.length_nil, zero_add, complete]

/-- Where the decoder stands after a byte string, in terms of the string. -/
def Traced (front : Bytes) : DecoderState → Prop
  | .normal => LeadsTo front .text
  | .length len =>
      ∃ before digits,
        front = before ++ digits ∧ LeadsTo before .length ∧
          (∀ digit ∈ digits, digit.toNat < 128) ∧
          len = accumulated 0 digits
  | .message len received =>
      ∃ before field,
        front = before ++ LengthField.bytes field ++ received ∧
          LeadsTo before .length ∧ field.leading < maxControlMessage ∧
          field.value = len ∧ len ≠ 0
  | .failed => True

theorem Traced.step
    {front : Bytes} {state : DecoderState} (traced : Traced front state)
    (byte : UInt8) :
    Traced (front ++ [byte]) (decoder.step state byte).1 := by
  cases state with
  | normal =>
      simp only [decoder]
      split
      · next marker =>
          rw [marker]
          exact ⟨_, [], by rw [List.append_nil], traced.marker,
            List.forall_mem_nil _, rfl⟩
      · next unmarked =>
          exact traced.data unmarked
  | length len =>
      obtain ⟨before, digits, rfl, leads, low, rfl⟩ := traced
      simp only [decoder]
      split
      · trivial
      · next small =>
          split
          · next high =>
              let field : LengthField := ⟨digits, byte, low, high⟩
              split
              · next zero =>
                  refine
                    ⟨before ++ field.bytes, [], ?_,
                      leads.escaped field zero, List.forall_mem_nil _, rfl⟩
                  rw [List.append_nil, List.append_assoc]
                  rfl
              · next nonzero =>
                  refine
                    ⟨before, field, ?_, leads, Nat.not_le.mp small, rfl,
                      nonzero⟩
                  rw [List.append_nil, List.append_assoc]
                  rfl
          · next high =>
              have digit : byte.toNat % 128 = byte.toNat :=
                Nat.mod_eq_of_lt (Nat.not_le.mp high)
              refine ⟨before, digits ++ [byte], ?_, leads, ?_, ?_⟩
              · rw [List.append_assoc]
              · intro other member
                rcases List.mem_append.mp member with earlier | here
                · exact low other earlier
                · rw [List.mem_singleton.mp here]
                  exact Nat.not_le.mp high
              · rw [accumulated_append_singleton, digit]
  | message len received =>
      obtain ⟨before, field, rfl, leads, small, value, nonzero⟩ := traced
      simp only [decoder]
      split
      · next complete =>
          rw [List.append_assoc]
          refine leads.message field small ?_ ?_
          · rw [value]
            exact nonzero
          · rw [complete, value]
      · exact ⟨before, field, by rw [List.append_assoc], leads, small,
          value, nonzero⟩
  | failed =>
      trivial

private theorem decoder_traced (front : Bytes) :
    Traced front (decoder.after .normal front) := by
  have initial : Traced [] .normal := LeadsTo.start
  exact
    decoder.after_induct Traced (fun _ _ byte traced => traced.step byte)
      [] initial front

/-- The length fits in an `int`. -/
def DecoderState.Fits : DecoderState → Prop
  | .length len => len < 2 ^ 31
  | .message len _ => len < 2 ^ 31
  | _ => True

theorem DecoderState.Fits.step
    {state : DecoderState} (fits : state.Fits) (byte : UInt8) :
    (decoder.step state byte).1.Fits := by
  cases state with
  | normal =>
      simp only [decoder]
      split
      · exact Nat.two_pow_pos 31
      · trivial
  | length len =>
      simp only [decoder]
      split
      · trivial
      · next small =>
          have appended : len * 128 + byte.toNat % 128 < 2 ^ 31 := by
            unfold maxControlMessage at small
            omega
          split
          · split
            · exact Nat.two_pow_pos 31
            · exact appended
          · exact appended
  | message len received =>
      simp only [decoder]
      split
      · trivial
      · exact fits
  | failed =>
      trivial

private theorem decoder_fits (front : Bytes) :
    (decoder.after .normal front).Fits := by
  have initial : DecoderState.normal.Fits := trivial
  exact
    decoder.after_induct (fun _ state => state.Fits)
      (fun _ _ byte fits => fits.step byte) [] initial front

/-! ## The states that `receive` reaches -/

/-- One pass of the loop of `receive`, in this call or in the next one. -/
def PassStep (shell next : ShellStream) : Prop :=
  receivePass shell = .again next ∨
    ∃ packet, receivePass shell = .returned packet next

abbrev Reaches : ShellStream → ShellStream → Prop :=
  Relation.ReflTransGen PassStep

/-- What the limit is there for, from a state on. -/
structure LimitKept (start : ShellStream) : Prop where
  message :
    ∀ shell, Reaches start shell →
      shell.rstate = .recvMessage → shell.ctlLen ≤ maxControlMessage
  buffer :
    ∀ shell, Reaches start shell →
      shell.ctlBuffer.length ≤ maxControlMessage
  noOverflow :
    ∀ shell, Reaches start shell →
      shell.rstate ≠ .recvNormal → shell.ctlLen < 2 ^ 31
  reported :
    ∀ front field rest,
      start.unread = front ++ LengthField.bytes field ++ rest →
      LeadsTo front .length →
      maxControlMessage < field.value →
      ∃ enough, ∀ fuel, enough ≤ fuel →
        ∃ packets final,
          drain fuel start = some (packets, final) ∧
            final.errors = ["Control message too large"]

/-- There is a control buffer only while a message is received. -/
def ShellStream.Cleared (shell : ShellStream) : Prop :=
  shell.rstate ≠ .recvMessage → shell.ctlBuffer = []

/-- What a pass leaves behind is cleared. -/
def PassCleared : Pass → Prop
  | .again next => next.Cleared
  | .returned _ next => next.Cleared
  | .asserted => True

theorem ShellStream.Cleared.fill
    {shell : ShellStream} (cleared : shell.Cleared) :
    shell.fill.Cleared := by
  unfold ShellStream.fill
  split <;> exact cleared

private theorem receivePass_cleared
    {shell : ShellStream} (cleared : shell.Cleared) :
    PassCleared (receivePass shell) := by
  have filled := cleared.fill
  simp only [receivePass]
  split
  · exact filled
  · next head tail _ =>
      split
      · next normal =>
          have empty : shell.fill.ctlBuffer = [] :=
            filled (by rw [normal]; decide)
          unfold passNormal
          split
          · exact fun _ => empty
          · exact fun _ => empty
      · next readingLength =>
          have empty : shell.fill.ctlBuffer = [] :=
            filled (by rw [readingLength]; decide)
          unfold passLength
          split
          · exact fun _ => empty
          · dsimp only
            split
            · split
              · exact fun _ => empty
              · exact fun other => absurd rfl other
            · exact fun _ => empty
      · next readingMessage =>
          unfold passMessage
          dsimp only
          split
          · split
            · exact fun _ => rfl
            · trivial
          · exact fun other => absurd readingMessage other

/-- A state reached on an input: what was processed of it led the decoder
there. -/
structure Follows (input : Bytes) (shell : ShellStream) : Prop where
  wellFormed : shell.WellFormed
  cleared : shell.Cleared
  processed :
    ∃ front,
      input = front ++ shell.unread ∧
        decoder.after .normal front = shell.decoderState

theorem Follows.create (ctlLen ctlGot : Nat) (chunks : List Bytes) :
    Follows chunks.flatten (ShellStream.create ctlLen ctlGot chunks) where
  wellFormed := ShellStream.create_wellFormed ctlLen ctlGot chunks
  cleared := fun _ => rfl
  processed := ⟨[], rfl, rfl⟩

theorem Follows.pass
    {input : Bytes} {shell next : ShellStream}
    (follows : Follows input shell) (step : PassStep shell next) :
    Follows input next := by
  have sound := receivePass_sound follows.wellFormed
  have cleared := receivePass_cleared follows.cleared
  have advanced :
      next.WellFormed ∧ (∃ output, Consumes shell output next) ∧
        next.Cleared := by
    rcases step with again | ⟨packet, returned⟩
    · rw [again] at sound cleared
      exact ⟨sound.1, ⟨_, sound.2.1⟩, cleared⟩
    · rw [returned] at sound cleared
      exact ⟨sound.1, ⟨_, sound.2.1⟩, cleared⟩
  obtain ⟨wellFormed, ⟨_, front, unread, _, after⟩, nextCleared⟩ := advanced
  obtain ⟨before, isInput, reached⟩ := follows.processed
  refine ⟨wellFormed, nextCleared, before ++ front, ?_, ?_⟩
  · rw [isInput, unread, List.append_assoc]
  · rw [Transducer.after_append, reached, after]

private theorem Follows.reaches
    {input : Bytes} {shell next : ShellStream}
    (follows : Follows input shell) (reaches : Reaches shell next) :
    Follows input next := by
  induction reaches with
  | refl =>
      exact follows
  | tail _ step inductionHypothesis =>
      exact inductionHypothesis.pass step

private theorem Follows.ctlLen_lt
    {input : Bytes} {shell : ShellStream} (follows : Follows input shell)
    (notNormal : shell.rstate ≠ .recvNormal) :
    shell.ctlLen < 2 ^ 31 := by
  obtain ⟨front, _, reached⟩ := follows.processed
  have fits := decoder_fits front
  rw [reached, ShellStream.decoderState] at fits
  cases state : shell.rstate with
  | recvNormal =>
      exact absurd state notNormal
  | recvLength =>
      rw [state] at fits
      exact fits
  | recvMessage =>
      rw [state] at fits
      exact fits

private theorem Follows.ctlLen_le
    {input : Bytes} {shell : ShellStream} (follows : Follows input shell)
    (within : WithinLimit input)
    (receiving : shell.rstate = .recvMessage) :
    shell.ctlLen ≤ maxControlMessage := by
  obtain ⟨front, isInput, reached⟩ := follows.processed
  have traced := decoder_traced front
  rw [reached, ShellStream.decoderState, receiving] at traced
  obtain ⟨before, field, isFront, leads, small, value, _⟩ := traced
  rw [← value]
  refine
    within before field (shell.ctlBuffer.take shell.ctlGot ++ shell.unread)
      ?_ leads small
  rw [isInput, isFront, List.append_assoc]

/-- Inside of the bytes that a pass reads the decoder stands at no length,
except before the one byte of a digit. -/
def SingleReads (state : DecoderState) (read : Bytes) : Prop :=
  ∀ before after len,
    read = before ++ after →
    after ≠ [] →
    decoder.after state before = .length len →
    before = [] ∧ after.length = 1

private theorem singleReads_of_length_le_one
    {state : DecoderState} {read : Bytes} (short : read.length ≤ 1) :
    SingleReads state read := by
  intro before after len split nonempty _
  have positive := List.length_pos_iff.mpr nonempty
  rw [split, List.length_append] at short
  exact ⟨List.length_eq_zero_iff.mp (by omega), by omega⟩

private theorem singleReads_unmarked
    {read : Bytes} (unmarked : controlMarker ∉ read) :
    SingleReads .normal read := by
  intro before after len split _ atLength
  have unmarkedBefore : controlMarker ∉ before := by
    intro member
    rw [split] at unmarked
    exact unmarked (List.mem_append_left after member)
  rw [(decoder_normal_run unmarkedBefore).2] at atLength
  cases atLength

private theorem singleReads_message
    {len : Nat} {received read : Bytes}
    (room : received.length + read.length ≤ len) :
    SingleReads (.message len received) read := by
  intro before after other split nonempty atLength
  have positive := List.length_pos_iff.mpr nonempty
  rw [split, List.length_append] at room
  have incomplete : received.length + before.length < len := by
    omega
  rw [(decoder_message_incomplete incomplete).2] at atLength
  cases atLength

/-- What a pass reads, and whether it gets ahead. -/
def PassReads (shell : ShellStream) (pass : Pass) : Prop :=
  ∀ next,
    (pass = .again next ∨ ∃ packet, pass = .returned packet next) →
    (∃ read,
      shell.unread = read ++ next.unread ∧
        SingleReads shell.decoderState read) ∧
      (next.effort < shell.effort ∨
        ∃ len, shell.decoderState = .length len ∧ maxControlMessage ≤ len)

private theorem passReads_again
    {shell next : ShellStream} {read : Bytes}
    (unread : shell.unread = read ++ next.unread)
    (single : SingleReads shell.decoderState read)
    (less : next.effort < shell.effort) :
    PassReads shell (.again next) := by
  rintro other (again | ⟨packet, returned⟩)
  · cases again
    exact ⟨⟨read, unread, single⟩, Or.inl less⟩
  · cases returned

private theorem passReads_returned
    {shell next : ShellStream} {packet : Packet} {read : Bytes}
    (unread : shell.unread = read ++ next.unread)
    (single : SingleReads shell.decoderState read)
    (ahead :
      next.effort < shell.effort ∨
        ∃ len, shell.decoderState = .length len ∧ maxControlMessage ≤ len) :
    PassReads shell (.returned packet next) := by
  rintro other (again | ⟨packet, returned⟩)
  · cases again
  · cases returned
    exact ⟨⟨read, unread, single⟩, ahead⟩

private theorem passNormal_reads
    {shell : ShellStream} {head : UInt8} {tail : Bytes}
    (unreadBytes : shell.rxData = head :: tail)
    (normal : shell.rstate = .recvNormal) :
    PassReads shell (passNormal shell head) := by
  have state : shell.decoderState = .normal := by
    rw [ShellStream.decoderState, normal]
  have nonempty : shell.rxData ≠ [] := by
    simp [unreadBytes]
  unfold passNormal
  split
  · refine
      passReads_again (shell.unread_advance 1)
        (singleReads_of_length_le_one ?_)
        (shell.effort_advance_lt Nat.one_pos nonempty)
    exact List.length_take_le 1 shell.rxData
  · next unmarked =>
      have positive :
          0 <
            (memchr shell.rxData controlMarker).getD
              shell.rxData.length := by
        rw [unreadBytes]
        exact memchr_getD_pos unmarked
      refine
        passReads_returned (shell.unread_advance _) ?_
          (Or.inl (shell.effort_advance_lt positive nonempty))
      rw [state]
      exact singleReads_unmarked (take_memchr_unmarked shell.rxData)

private theorem passLength_reads
    {shell : ShellStream} {head : UInt8} {tail : Bytes}
    (unreadBytes : shell.rxData = head :: tail)
    (readingLength : shell.rstate = .recvLength) :
    PassReads shell (passLength shell head) := by
  have state : shell.decoderState = .length shell.ctlLen := by
    rw [ShellStream.decoderState, readingLength]
  have nonempty : shell.rxData ≠ [] := by
    simp [unreadBytes]
  have less := shell.effort_advance_lt Nat.one_pos nonempty
  have one : SingleReads shell.decoderState (shell.rxData.take 1) :=
    singleReads_of_length_le_one (List.length_take_le 1 shell.rxData)
  unfold passLength
  split
  · next large =>
      have nothing : SingleReads shell.decoderState [] :=
        singleReads_of_length_le_one (Nat.zero_le 1)
      exact
        passReads_returned (List.nil_append shell.unread).symm nothing
          (Or.inr ⟨shell.ctlLen, state, large⟩)
  · dsimp only
    split
    · split
      · exact
          passReads_returned (shell.unread_advance 1) one (Or.inl less)
      · exact passReads_again (shell.unread_advance 1) one less
    · exact passReads_again (shell.unread_advance 1) one less

private theorem passMessage_reads
    {shell : ShellStream} (wellFormed : shell.WellFormed)
    (nonempty : shell.rxData ≠ [])
    (readingMessage : shell.rstate = .recvMessage) :
    PassReads shell (passMessage shell) := by
  obtain ⟨room, bufferLength⟩ := wellFormed.messageRoom readingMessage
  have state :
      shell.decoderState =
        .message shell.ctlLen (shell.ctlBuffer.take shell.ctlGot) := by
    rw [ShellStream.decoderState, readingMessage]
  have amount := List.length_pos_iff.mpr nonempty
  have positive :
      0 < min shell.rxData.length (shell.ctlLen - shell.ctlGot) := by
    omega
  have less := shell.effort_advance_lt positive nonempty
  have single :
      SingleReads shell.decoderState
        (shell.rxData.take
          (min shell.rxData.length (shell.ctlLen - shell.ctlGot))) := by
    rw [state]
    apply singleReads_message
    rw [List.length_take, List.length_take]
    omega
  unfold passMessage
  dsimp only
  split
  · split
    · exact
        passReads_returned (shell.unread_advance _) single (Or.inl less)
    · rintro next (impossible | ⟨packet, impossible⟩) <;>
        cases impossible
  · exact passReads_again (shell.unread_advance _) single less

private theorem receivePass_reads
    {shell : ShellStream} (wellFormed : shell.WellFormed)
    (more : shell.unread ≠ []) :
    PassReads shell (receivePass shell) := by
  simp only [receivePass]
  split
  · next nothing =>
      have ahead : shell.fill.effort < shell.effort := by
        refine
          (ShellStream.fill_empty_unread nothing).resolve_right
            fun processed => ?_
        rw [shell.fill_unread] at processed
        exact more processed
      have nothingRead : SingleReads shell.decoderState [] :=
        singleReads_of_length_le_one (Nat.zero_le 1)
      exact
        passReads_returned shell.fill_unread.symm nothingRead
          (Or.inl ahead)
  · next head tail unreadBytes =>
      have filled :
          ∀ {pass : Pass},
            PassReads shell.fill pass → PassReads shell pass := by
        intro pass reads next isPass
        obtain ⟨⟨read, unread, single⟩, ahead⟩ := reads next isPass
        rw [shell.fill_unread] at unread
        rw [shell.fill_decoderState] at single ahead
        exact
          ⟨⟨read, unread, single⟩,
            ahead.imp_left fun less =>
              Nat.lt_of_lt_of_le less shell.fill_effort_le⟩
      apply filled
      split
      · next normal =>
          exact passNormal_reads unreadBytes normal
      · next readingLength =>
          exact passLength_reads unreadBytes readingLength
      · next readingMessage =>
          exact
            passMessage_reads wellFormed.fill (by simp [unreadBytes])
              readingMessage

/-- A pass takes a well-formed state to one, along with the decoder. -/
theorem exists_passStep
    {shell : ShellStream} (wellFormed : shell.WellFormed)
    (more : shell.unread ≠ []) :
    ∃ next read,
      PassStep shell next ∧ next.WellFormed ∧
        shell.unread = read ++ next.unread ∧
        SingleReads shell.decoderState read ∧
        decoder.after shell.decoderState read = next.decoderState ∧
        (next.effort < shell.effort ∨
          ∃ len,
            shell.decoderState = .length len ∧ maxControlMessage ≤ len) := by
  have sound := receivePass_sound wellFormed
  have reads := receivePass_reads wellFormed more
  have taken :
      ∃ next,
        PassStep shell next ∧ next.WellFormed ∧
          ∃ output, Consumes shell output next := by
    cases outcome : receivePass shell with
    | again next =>
        rw [outcome] at sound
        exact ⟨next, Or.inl outcome, sound.1, _, sound.2.1⟩
    | returned packet next =>
        rw [outcome] at sound
        exact ⟨next, Or.inr ⟨packet, outcome⟩, sound.1, _, sound.2.1⟩
    | asserted =>
        rw [outcome] at sound
        exact sound.elim
  obtain ⟨next, step, nextWellFormed, _, front, consumed, _, after⟩ := taken
  obtain ⟨⟨read, unread, single⟩, ahead⟩ := reads next step
  have same : front = read := by
    rw [consumed] at unread
    exact List.append_cancel_right unread
  subst same
  exact ⟨next, front, step, nextWellFormed, unread, single, after, ahead⟩

private theorem ShellStream.of_decoderState_message
    {shell : ShellStream} {len : Nat} {received : Bytes}
    (state : shell.decoderState = .message len received) :
    shell.rstate = .recvMessage ∧ shell.ctlLen = len := by
  unfold ShellStream.decoderState at state
  split at state
  · cases state
  · cases state
  · next receiving =>
      cases state
      exact ⟨receiving, rfl⟩

/-- A length that has reached the limit does not go below it again. -/
theorem large_of_decoder_length
    {start len : Nat} {front : Bytes} (large : maxControlMessage ≤ start)
    (atLength : decoder.after (.length start) front = .length len) :
    maxControlMessage ≤ len := by
  cases front with
  | nil =>
      cases atLength
      exact large
  | cons digit digits =>
      rw [Transducer.after_cons, decoder_past_limit large,
        decoder_failed_sink.after_eq] at atLength
      cases atLength

/-- Behind bytes that lead to a length, the last digit of one that is below
the limit so far takes `receive` to its message. -/
theorem reaches_message
    {shell : ShellStream} (wellFormed : shell.WellFormed)
    {front rest : Bytes} {last : UInt8} {len : Nat}
    (unread : shell.unread = front ++ last :: rest)
    (atLength : decoder.after shell.decoderState front = .length len)
    (small : len < maxControlMessage)
    (high : 128 ≤ last.toNat)
    (nonzero : len * 128 + last.toNat % 128 ≠ 0) :
    ∃ next,
      Reaches shell next ∧ next.rstate = .recvMessage ∧
        next.ctlLen = len * 128 + last.toNat % 128 := by
  induction effort : shell.effort using Nat.strong_induction_on
    generalizing shell front with
  | _ effortValue inductionHypothesis =>
      have more : shell.unread ≠ [] := by
        simp [unread]
      obtain
        ⟨next, read, step, nextWellFormed, isRead, single, after, ahead⟩ :=
        exists_passStep wellFormed more
      have notStuck : next.effort < shell.effort := by
        refine ahead.resolve_right ?_
        rintro ⟨other, state, large⟩
        rw [state] at atLength
        have stillLarge := large_of_decoder_length large atLength
        omega
      -- The rest of the way after a pass that stops before the last digit.
      have onward {later : Bytes} (isFront : front = read ++ later)
          (nextUnread : next.unread = later ++ last :: rest) :
          ∃ final,
            Reaches shell final ∧ final.rstate = .recvMessage ∧
              final.ctlLen = len * 128 + last.toNat % 128 := by
        rw [isFront, Transducer.after_append, after] at atLength
        obtain ⟨final, reaches, receiving, ctlLen⟩ :=
          inductionHypothesis next.effort (effort ▸ notStuck) nextWellFormed
            nextUnread atLength rfl
        exact
          ⟨final, Relation.ReflTransGen.head step reaches, receiving,
            ctlLen⟩
      rw [unread] at isRead
      rcases List.append_eq_append_iff.mp isRead with
        ⟨later, isReadFront, fromLast⟩ | ⟨later, isFront, nextUnread⟩
      · cases later with
        | nil =>
            rw [List.append_nil] at isReadFront
            have isFront : front = read ++ [] := by
              rw [isReadFront, List.append_nil]
            exact onward isFront fromLast.symm
        | cons byte bytes =>
            obtain ⟨noFront, one⟩ :=
              single front (byte :: bytes) len isReadFront
                (List.cons_ne_nil _ _) atLength
            rw [List.length_cons, Nat.add_eq_right,
              List.length_eq_zero_iff] at one
            subst one noFront
            obtain ⟨isLast, _⟩ := List.cons.inj fromLast
            have state : shell.decoderState = .length len := atLength
            rw [isReadFront, List.nil_append, ← isLast, state,
              Transducer.after_cons,
              decoder_last_digit small high nonzero] at after
            obtain ⟨receiving, ctlLen⟩ :=
              ShellStream.of_decoderState_message after.symm
            exact
              ⟨next, Relation.ReflTransGen.single step, receiving, ctlLen⟩
      · exact onward isFront nextUnread

/-! ## When the limit is kept -/

theorem Follows.ctlBuffer_le
    {input : Bytes} {shell : ShellStream} (follows : Follows input shell)
    (within : WithinLimit input) :
    shell.ctlBuffer.length ≤ maxControlMessage := by
  by_cases receiving : shell.rstate = .recvMessage
  · rw [(follows.wellFormed.messageRoom receiving).2]
    exact follows.ctlLen_le within receiving
  · rw [follows.cleared receiving]
    exact Nat.zero_le _

/-- A length above the limit makes the decoder fail. -/
theorem WithinLimit.fails
    {input : Bytes} (within : WithinLimit input)
    {front rest : Bytes} {field : LengthField}
    (isInput : input = front ++ field.bytes ++ rest)
    (leads : LeadsTo front .length)
    (above : maxControlMessage < field.value) :
    decoder.after .normal input = .failed := by
  have large : maxControlMessage ≤ field.leading := by
    by_contra small
    have notAbove :=
      within front field rest isInput leads (Nat.not_le.mp small)
    omega
  have atLength : decoder.after .normal front = .length 0 := leads.after
  rw [isInput, Transducer.after_append, Transducer.after_append, atLength,
    decoder_field_failed field large]
  exact decoder_failed_sink.after_eq rest

/-- The limit is kept, whatever the chunks, exactly where no length that is
below the limit without its last digit is above it. -/
theorem limitKept_iff_withinLimit
    (ctlLen ctlGot : Nat) (chunks : List Bytes) :
    LimitKept (ShellStream.create ctlLen ctlGot chunks) ↔
      WithinLimit chunks.flatten := by
  have started := Follows.create ctlLen ctlGot chunks
  constructor
  · intro kept front field rest isInput leads small
    by_contra above
    have nonzero : field.leading * 128 + field.last.toNat % 128 ≠ 0 := by
      rw [LengthField.value] at above
      omega
    have atLength :
        decoder.after .normal (front ++ field.digits) =
          .length field.leading := by
      have leadsFront : decoder.after .normal front = .length 0 :=
        leads.after
      rw [Transducer.after_append, leadsFront]
      refine
        (decoder_leading_digits field.low 0).2.resolve_right fun failed => ?_
      exact absurd failed.2 (Nat.not_le.mpr small)
    have unread :
        (ShellStream.create ctlLen ctlGot chunks).unread =
          (front ++ field.digits) ++ field.last :: rest := by
      change chunks.flatten = _
      rw [isInput, LengthField.bytes]
      simp only [List.append_assoc, List.singleton_append]
    obtain ⟨reached, reaches, receiving, isValue⟩ :=
      reaches_message started.wellFormed unread atLength small field.high
        nonzero
    have notAbove := kept.message reached reaches receiving
    rw [isValue, ← LengthField.value] at notAbove
    exact above notAbove
  · intro within
    refine ⟨?_, ?_, ?_, ?_⟩
    · intro shell reaches receiving
      exact (started.reaches reaches).ctlLen_le within receiving
    · intro shell reaches
      exact (started.reaches reaches).ctlBuffer_le within
    · intro shell reaches notNormal
      exact (started.reaches reaches).ctlLen_lt notNormal
    · intro front field rest isInput leads above
      have fails := within.fails isInput leads above
      refine
        ⟨(ShellStream.create ctlLen ctlGot chunks).effort + 2, ?_⟩
      intro fuel enough
      obtain ⟨packets, final, drained, _, errors⟩ :=
        drain_spec started.wellFormed rfl enough
      refine ⟨packets, final, drained, ?_⟩
      rw [errors, ShellStream.expectedErrors]
      exact if_pos fails

/-- The length 2^24 + 1 is accepted. -/
theorem length_above_limit_accepted :
    ¬ LimitKept (ShellStream.create 0 0 [[1, 8, 0, 0, 0x81]]) := by
  intro kept
  have unread :
      (ShellStream.create 0 0 [[1, 8, 0, 0, 0x81]]).unread =
        [1, 8, 0, 0] ++ 0x81 :: [] :=
    rfl
  have atLength :
      decoder.after .normal [1, 8, 0, 0] = .length 131072 := by
    rfl
  obtain ⟨reached, reaches, receiving, isValue⟩ :=
    reaches_message (ShellStream.create_wellFormed 0 0 _) unread atLength
      (by decide) (by decide) (by decide)
  have notAbove := kept.message reached reaches receiving
  rw [isValue] at notAbove
  exact absurd notAbove (by decide)

end StructuredStreams.Shell

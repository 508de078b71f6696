import StructuredStreams.Shell.Decoder

/-!
# The shell stream round trip

What is sent comes back, up to the cutting of data, exactly when no control
marker is sent as data before the end.  After the digit zero that follows an
escaped marker the receiver goes on reading a length: what follows is
swallowed by that length or by the message it announces.
-/

namespace StructuredStreams.Shell

open ByteCodec

/-- Put a packet in front of joined packets.  Null packets and empty data
carry nothing. -/
def Packet.onto (packet : Packet) (later : List Packet) : List Packet :=
  match packet.type with
  | .null => later
  | .control => packet :: later
  | .data =>
      if packet.data = [] then later
      else
        match later with
        | ⟨.data, more⟩ :: others =>
            ⟨.data, packet.data ++ more⟩ :: others
        | others => packet :: others

/-- The non-null packets, with adjacent data concatenated. -/
def coalesce (packets : List Packet) : List Packet :=
  packets.foldr Packet.onto []

/-- The joined packets of a sequence of bytes and messages. -/
def Token.packet : Token → Packet
  | .byte value => ⟨.data, [value]⟩
  | .message body => ⟨.control, body⟩

private theorem onto_data_cons
    (byte : UInt8) (bytes : Bytes) (later : List Packet) :
    Packet.onto ⟨.data, byte :: bytes⟩ later =
      Packet.onto ⟨.data, [byte]⟩ (Packet.onto ⟨.data, bytes⟩ later) := by
  by_cases empty : bytes = []
  · subst bytes
    rfl
  · rcases later with _ | ⟨⟨type, more⟩, others⟩
    · simp [Packet.onto, empty]
    · cases type <;> simp [Packet.onto, empty]

private theorem Packet.onto_eq_foldr_tokens
    (packet : Packet) (later : List Packet) :
    packet.onto later =
      (packet.tokens.map Token.packet).foldr Packet.onto later := by
  obtain ⟨type, data⟩ := packet
  cases type with
  | null =>
      rfl
  | control =>
      rfl
  | data =>
      induction data with
      | nil =>
          rfl
      | cons byte bytes inductionHypothesis =>
          rw [onto_data_cons, inductionHypothesis]
          rfl

private theorem coalesce_eq_coalesce_tokens (packets : List Packet) :
    coalesce packets = coalesce ((tokens packets).map Token.packet) := by
  induction packets with
  | nil =>
      rfl
  | cons packet packets inductionHypothesis =>
      rw [tokens, List.flatMap_cons, List.map_append, coalesce, coalesce,
        List.foldr_append, List.foldr_cons]
      change packet.onto (coalesce packets) = _
      rw [packet.onto_eq_foldr_tokens, inductionHypothesis]
      rfl

private theorem tokens_onto (packet : Packet) (later : List Packet) :
    tokens (packet.onto later) = packet.tokens ++ tokens later := by
  obtain ⟨type, data⟩ := packet
  cases type with
  | null =>
      rfl
  | control =>
      rfl
  | data =>
      by_cases empty : data = []
      · subst data
        rfl
      · rcases later with _ | ⟨⟨type, more⟩, others⟩
        · simp [Packet.onto, empty, tokens]
        · cases type <;>
            simp [Packet.onto, empty, tokens, Packet.tokens]

private theorem tokens_coalesce (packets : List Packet) :
    tokens (coalesce packets) = tokens packets := by
  induction packets with
  | nil =>
      rfl
  | cons packet packets inductionHypothesis =>
      change tokens (packet.onto (coalesce packets)) = _
      rw [tokens_onto, inductionHypothesis]
      rfl

/-- Two sequences of packets agree up to the cutting of data exactly when
they carry the same bytes and messages. -/
theorem coalesce_eq_iff (packets others : List Packet) :
    coalesce packets = coalesce others ↔ tokens packets = tokens others := by
  constructor
  · intro same
    rw [← tokens_coalesce packets, same, tokens_coalesce]
  · intro same
    rw [coalesce_eq_coalesce_tokens packets, same,
      ← coalesce_eq_coalesce_tokens]

/-- The length that the decoder has accumulated after some digits. -/
def accumulated (len : Nat) (digits : Bytes) : Nat :=
  digits.foldl (fun value digit => value * 128 + digit.toNat) len

theorem le_accumulated (len : Nat) (digits : Bytes) :
    len ≤ accumulated len digits := by
  induction digits generalizing len with
  | nil =>
      exact Nat.le_refl len
  | cons digit digits inductionHypothesis =>
      have := inductionHypothesis (len * 128 + digit.toNat)
      change len ≤ accumulated (len * 128 + digit.toNat) digits
      omega

theorem accumulated_append_singleton
    (len : Nat) (front : Bytes) (last : UInt8) :
    accumulated len (front ++ [last]) =
      accumulated len front * 128 + last.toNat := by
  simp [accumulated, List.foldl_append]

private theorem lowDigit_toNat (len : Nat) :
    (UInt8.ofNat (len &&& 0x7f)).toNat = len % 128 := by
  have masked : len &&& 0x7f = len % 128 :=
    Nat.and_two_pow_sub_one_eq_mod len 7
  have small : len % 128 < 256 := by
    omega
  rw [masked, UInt8.toNat_ofNat_of_lt' small]

private theorem headerDigits_succ (free len : Nat) (hdr : Bytes) :
    headerDigits (free + 1) len hdr =
      if 0 < len / 128 then
        headerDigits free (len / 128) (UInt8.ofNat (len &&& 0x7f) :: hdr)
      else some (UInt8.ofNat (len &&& 0x7f) :: hdr) := by
  have shifted : len >>> 7 = len / 128 :=
    Nat.shiftRight_eq_div_pow len 7
  rw [headerDigits, shifted]

/-- The bytes are base 128 digits that append `len` to what was accumulated
before. -/
structure DigitsOf (len : Nat) (digits : Bytes) : Prop where
  small : ∀ digit ∈ digits, digit.toNat < 128
  value :
    ∀ initial,
      accumulated initial digits = initial * 128 ^ digits.length + len

/-- The loop of `send_control` produces the digits of the length. -/
theorem headerDigits_eq_some
    {count free len : Nat} (hdr : Bytes)
    (fits : count < free)
    (bound : len < 128 ^ (count + 1)) :
    ∃ front last,
      headerDigits free len hdr = some (front ++ [last] ++ hdr) ∧
        front.length ≤ count ∧ DigitsOf len (front ++ [last]) := by
  obtain ⟨free, rfl⟩ : ∃ smaller, free = smaller + 1 :=
    ⟨free - 1, by omega⟩
  have lastSmall : (UInt8.ofNat (len &&& 0x7f)).toNat < 128 := by
    rw [lowDigit_toNat]
    exact Nat.mod_lt len (by decide)
  rw [headerDigits_succ]
  by_cases more : 0 < len / 128
  · rw [if_pos more]
    cases count with
    | zero =>
        omega
    | succ count =>
        have shorter : len / 128 < 128 ^ (count + 1) := by
          rw [pow_succ] at bound
          exact Nat.div_lt_of_lt_mul (by omega)
        obtain ⟨front, last, filled, length, small, value⟩ :=
          headerDigits_eq_some (UInt8.ofNat (len &&& 0x7f) :: hdr)
            (show count < free by omega) shorter
        refine ⟨front ++ [last], UInt8.ofNat (len &&& 0x7f), ?_, ?_,
          ?_, ?_⟩
        · rw [filled]
          simp
        · simpa using length
        · intro digit member
          rcases List.mem_append.mp member with earlier | isLast
          · exact small digit earlier
          · rw [List.mem_singleton.mp isLast]
            exact lastSmall
        · intro initial
          have lengthSucc :
              (front ++ [last] ++ [UInt8.ofNat (len &&& 0x7f)]).length =
                (front ++ [last]).length + 1 :=
            List.length_append
          have split : len / 128 * 128 + len % 128 = len :=
            Nat.div_add_mod' len 128
          rw [accumulated_append_singleton, value, lowDigit_toNat,
            lengthSucc, pow_succ, Nat.add_mul, Nat.add_assoc, split,
            Nat.mul_assoc]
  · rw [if_neg more]
    refine ⟨[], UInt8.ofNat (len &&& 0x7f), rfl, Nat.zero_le count,
      ?_, ?_⟩
    · intro digit member
      rw [List.nil_append, List.mem_singleton] at member
      rw [member]
      exact lastSmall
    · intro initial
      rw [accumulated_append_singleton, lowDigit_toNat]
      simp only [accumulated, List.foldl_nil, List.nil_append,
        List.length_singleton, pow_one]
      omega

private theorem markLast_append (front : Bytes) (last : UInt8) :
    markLast (front ++ [last]) = front ++ [last ||| 0x80] := by
  induction front with
  | nil =>
      rfl
  | cons digit front inductionHypothesis =>
      have later : markLast (digit :: (front ++ [last])) =
          digit :: markLast (front ++ [last]) := by
        cases front <;> rfl
      rw [List.cons_append, later, inductionHypothesis]
      rfl

/-- A control message within the size limit. -/
def Sendable (msg : Bytes) : Prop :=
  1 ≤ msg.length ∧ msg.length ≤ maxControlMessage

/-- The header of a sendable message: at most four digits, the last one with
its high bit set. -/
theorem sendControl_eq_some
    {msg : Bytes} (sendable : Sendable msg) :
    ∃ front last,
      sendControl msg =
          some [controlMarker :: (front ++ [last ||| 0x80]), msg] ∧
        DigitsOf msg.length (front ++ [last]) := by
  have bound : msg.length < 128 ^ (3 + 1) :=
    Nat.lt_of_le_of_lt sendable.2 (by decide)
  obtain ⟨front, last, filled, length, digits⟩ :=
    headerDigits_eq_some [] (show 3 < 10 by decide) bound
  refine ⟨front, last, ?_, digits⟩
  have short : (front ++ [last]).length < 10 := by
    simp only [List.length_append, List.length_singleton]
    omega
  rw [sendControl, if_pos (show 0 < msg.length from sendable.1), filled,
    List.append_nil, Option.bind_eq_bind, Option.bind_some,
    if_pos short, markLast_append]
  rfl

/-- The encoding of a byte or message. -/
def encode : Token → Bytes
  | .byte value =>
      if value = controlMarker then [controlMarker, 0x80] else [value]
  | .message body => ((sendControl body).getD []).flatten

private theorem encode_marker :
    encode (.byte controlMarker) = [controlMarker, 0x80] := by
  rw [encode, if_pos rfl]

/-- What a call sends. -/
def SendCall.item : SendCall → Packet
  | .sendData data => ⟨.data, data⟩
  | .sendControl msg => ⟨.control, msg⟩

/-- The bytes and messages that a sequence of calls sends. -/
def sentTokens (calls : List SendCall) : List Token :=
  tokens (calls.map SendCall.item)

/-- All control messages are within the size limit. -/
def AllSendable (calls : List SendCall) : Prop :=
  ∀ msg, SendCall.sendControl msg ∈ calls → Sendable msg

/-- Messages within the size limit and any bytes. -/
def Token.Encodable : Token → Prop
  | .byte _ => True
  | .message body => Sendable body

private theorem encode_unmarked
    {bytes : Bytes} (unmarked : controlMarker ∉ bytes) :
    (bytes.map Token.byte).flatMap encode = bytes := by
  induction bytes with
  | nil =>
      rfl
  | cons byte bytes inductionHypothesis =>
      rw [List.mem_cons, not_or] at unmarked
      have alone : encode (.byte byte) = [byte] :=
        if_neg (Ne.symm unmarked.1)
      rw [List.map_cons, List.flatMap_cons, alone,
        inductionHypothesis unmarked.2]
      rfl

private theorem sendData_of_unmarked
    {data : Bytes} (notFound : memchr data controlMarker = none) :
    sendData data = [data] := by
  rw [sendData]
  split
  · rfl
  · next found =>
      rw [notFound] at found
      cases found

private theorem sendData_of_marked
    {data : Bytes} {mark : Nat}
    (found : memchr data controlMarker = some mark) :
    sendData data =
      data.take (mark + 1) :: [0x80] ::
        sendData (data.drop (mark + 1)) := by
  rw [sendData]
  split
  · next notFound =>
      rw [notFound] at found
      cases found
  · next other foundOther =>
      rw [found] at foundOther
      injection foundOther with same
      rw [same]

private theorem sendData_flatten (data : Bytes) :
    (sendData data).flatten = (data.map Token.byte).flatMap encode := by
  induction data using sendData.induct with
  | case1 data notFound =>
      rw [sendData_of_unmarked notFound,
        encode_unmarked (memchr_eq_none_iff.mp notFound)]
      simp
  | case2 data mark found amt inductionHypothesis =>
      obtain ⟨unmarked, split⟩ := memchr_eq_some found
      have upToMark :
          data.take (mark + 1) = data.take mark ++ [controlMarker] := by
        have inside := memchr_lt found
        have takeLength : (data.take mark).length = mark :=
          List.length_take_of_le (Nat.le_of_lt inside)
        nth_rewrite 1 [split]
        rw [List.take_append, takeLength,
          List.take_of_length_le (by omega)]
        simp
      rw [sendData_of_marked found, List.flatten_cons, List.flatten_cons,
        inductionHypothesis, upToMark]
      nth_rewrite 3 [split]
      rw [List.map_append, List.flatMap_append, encode_unmarked unmarked,
        List.map_cons, List.flatMap_cons, encode_marker]
      simp [amt]

private theorem encodable_byte_map (data : Bytes) :
    ∀ token ∈ data.map Token.byte, token.Encodable := by
  intro token member
  obtain ⟨byte, _, rfl⟩ := List.mem_map.mp member
  trivial

private theorem sentTokens_cons (call : SendCall) (calls : List SendCall) :
    sentTokens (call :: calls) =
      call.item.tokens ++ sentTokens calls :=
  rfl

/-- Sending succeeds and writes the encodings of what is sent. -/
theorem sendAll_eq_some
    {calls : List SendCall} (allSendable : AllSendable calls) :
    ∃ writes,
      sendAll calls = some writes ∧
        writes.flatten = (sentTokens calls).flatMap encode ∧
        ∀ token ∈ sentTokens calls, token.Encodable := by
  induction calls with
  | nil =>
      exact ⟨[], rfl, rfl, by simp [sentTokens, tokens]⟩
  | cons call calls inductionHypothesis =>
      obtain ⟨later, sentLater, laterFlatten, laterEncodable⟩ :=
        inductionHypothesis fun msg member =>
          allSendable msg (List.mem_cons_of_mem call member)
      have headSent :
          ∃ writes,
            call.run = some writes ∧
              writes.flatten = call.item.tokens.flatMap encode ∧
              ∀ token ∈ call.item.tokens, token.Encodable := by
        cases call with
        | sendData data =>
            exact ⟨sendData data, rfl, sendData_flatten data,
              encodable_byte_map data⟩
        | sendControl msg =>
            have sendable : Sendable msg :=
              allSendable msg List.mem_cons_self
            obtain ⟨front, last, sent, _⟩ := sendControl_eq_some sendable
            refine ⟨_, sent, ?_, ?_⟩
            · simp [SendCall.item, Packet.tokens, encode, sent]
            · intro token member
              rw [List.mem_singleton.mp member]
              exact sendable
      obtain ⟨writes, sent, headFlatten, headEncodable⟩ := headSent
      refine ⟨writes ++ later, ?_, ?_, ?_⟩
      · simp only [sendAll, sent, sentLater, Option.bind_eq_bind,
          Option.bind_some, Option.pure_def]
      · rw [List.flatten_append, headFlatten, laterFlatten,
          sentTokens_cons, List.flatMap_append]
      · intro token member
        rw [sentTokens_cons] at member
        exact
          (List.mem_append.mp member).elim
            (headEncodable token) (laterEncodable token)

/-! ## Decoding what was encoded -/

theorem marked_toNat
    {digit : UInt8} (small : digit.toNat < 128) :
    (digit ||| 0x80).toNat = digit.toNat + 128 := by
  have low : digit.toNat < 2 ^ 7 := small
  rw [UInt8.toNat_or, Nat.or_comm]
  have sum := Nat.two_pow_add_eq_or_of_lt low 1
  simp only [Nat.mul_one] at sum
  change 2 ^ 7 ||| digit.toNat = _
  rw [← sum]
  omega

theorem decoder_leading_digits
    {digits : Bytes}
    (small : ∀ digit ∈ digits, digit.toNat < 128) (len : Nat) :
    decoder.emitted (.length len) digits = [] ∧
      (decoder.after (.length len) digits =
          .length (accumulated len digits) ∨
        decoder.after (.length len) digits = .failed ∧
          maxControlMessage ≤ accumulated len digits) := by
  induction digits generalizing len with
  | nil =>
      exact ⟨rfl, Or.inl rfl⟩
  | cons digit digits inductionHypothesis =>
      have digitSmall := small digit List.mem_cons_self
      have grows := le_accumulated (len * 128 + digit.toNat) digits
      rw [Transducer.emitted_cons, Transducer.after_cons]
      by_cases tooLarge : maxControlMessage ≤ len
      · rw [decoder_past_limit tooLarge]
        refine ⟨decoder_failed_sink.emitted_eq digits,
          Or.inr ⟨decoder_failed_sink.after_eq digits, ?_⟩⟩
        change maxControlMessage ≤
          accumulated (len * 128 + digit.toNat) digits
        omega
      · rw [decoder_leading_digit (Nat.not_le.mp tooLarge) digitSmall,
          Nat.mod_eq_of_lt digitSmall]
        exact
          inductionHypothesis
            (fun other member =>
              small other (List.mem_cons_of_mem digit member))
            (len * 128 + digit.toNat)

/-- The digits of a length take the decoder to the message, or to failure
where the length before the last digit reaches the limit. -/
theorem decoder_length_digits
    {front : Bytes} {last : UInt8} {len : Nat}
    (small : ∀ digit ∈ front ++ [last], digit.toNat < 128)
    (nonzero : accumulated len (front ++ [last]) ≠ 0) :
    decoder.emitted (.length len) (front ++ [last ||| 0x80]) = [] ∧
      (decoder.after (.length len) (front ++ [last ||| 0x80]) =
          .message (accumulated len (front ++ [last])) [] ∨
        decoder.after (.length len) (front ++ [last ||| 0x80]) =
            .failed ∧
          maxControlMessage ≤ accumulated len front) := by
  have lastSmall : last.toNat < 128 :=
    small last (by simp)
  obtain ⟨emitted, after⟩ :=
    decoder_leading_digits
      (fun digit member =>
        small digit (List.mem_append_left [last] member))
      len
  rw [Transducer.emitted_append, Transducer.after_append, emitted,
    Transducer.emitted_cons, Transducer.after_cons]
  have fromFailed :
      decoder.step .failed (last ||| 0x80) = (.failed, []) :=
    rfl
  rcases after with reached | ⟨failed, limit⟩
  · rw [reached]
    by_cases tooLarge : maxControlMessage ≤ accumulated len front
    · rw [decoder_past_limit tooLarge]
      exact ⟨rfl, Or.inr ⟨rfl, tooLarge⟩⟩
    · rw [accumulated_append_singleton] at nonzero ⊢
      have digit : (last ||| 0x80).toNat % 128 = last.toNat := by
        rw [marked_toNat lastSmall]
        omega
      have high : 128 ≤ (last ||| 0x80).toNat := by
        rw [marked_toNat lastSmall]
        omega
      rw [← digit] at nonzero
      rw [decoder_last_digit (Nat.not_le.mp tooLarge) high nonzero, digit]
      exact ⟨rfl, Or.inl rfl⟩
  · rw [failed, fromFailed]
    exact ⟨rfl, Or.inr ⟨rfl, limit⟩⟩

private theorem encode_message
    {body : Bytes} (sendable : Sendable body) :
    ∃ front last,
      encode (.message body) =
          controlMarker :: (front ++ [last ||| 0x80]) ++ body ∧
        DigitsOf body.length (front ++ [last]) := by
  obtain ⟨front, last, sent, digits⟩ := sendControl_eq_some sendable
  refine ⟨front, last, ?_, digits⟩
  simp [encode, sent]

private theorem decoder_marker :
    decoder.step .normal controlMarker = (.length 0, []) :=
  rfl

theorem decoder_encode_message
    {body : Bytes} (sendable : Sendable body) :
    decoder.emitted .normal (encode (.message body)) =
        [.message body] ∧
      decoder.after .normal (encode (.message body)) = .normal := by
  obtain ⟨front, last, encoded, small, value⟩ := encode_message sendable
  have total : accumulated 0 (front ++ [last]) = body.length := by
    rw [value, Nat.zero_mul, Nat.zero_add]
  have nonzero : accumulated 0 (front ++ [last]) ≠ 0 := by
    have := sendable.1
    omega
  have belowLimit : ¬ maxControlMessage ≤ accumulated 0 front := by
    have bound := sendable.2
    have last128 := accumulated_append_singleton 0 front last
    have positive := sendable.1
    unfold maxControlMessage at bound ⊢
    omega
  obtain ⟨emitted, after⟩ := decoder_length_digits small nonzero
  have reached := after.resolve_right fun failed => belowLimit failed.2
  have bodyNonempty : body ≠ [] :=
    List.length_pos_iff.mp sendable.1
  obtain ⟨bodyEmitted, bodyAfter⟩ :=
    decoder_message_complete bodyNonempty
      (show ([] : Bytes).length + body.length =
          accumulated 0 (front ++ [last]) by
        rw [total, List.length_nil, Nat.zero_add])
  generalize front ++ [last ||| 0x80] = header at encoded emitted reached
  rw [encoded, List.cons_append, Transducer.emitted_cons,
    Transducer.after_cons, decoder_marker, Transducer.emitted_append,
    Transducer.after_append, emitted, reached, bodyEmitted, bodyAfter]
  exact ⟨rfl, rfl⟩

private theorem decoder_encode_unmarked
    {sent : List Token}
    (encodable : ∀ token ∈ sent, token.Encodable)
    (unmarked : Token.byte controlMarker ∉ sent) :
    decoder.emitted .normal (sent.flatMap encode) = sent ∧
      decoder.after .normal (sent.flatMap encode) = .normal := by
  induction sent with
  | nil =>
      exact ⟨rfl, rfl⟩
  | cons token sent inductionHypothesis =>
      rw [List.mem_cons, not_or] at unmarked
      have single :
          decoder.emitted .normal (encode token) = [token] ∧
            decoder.after .normal (encode token) = .normal := by
        cases token with
        | byte value =>
            have different : value ≠ controlMarker := by
              rintro rfl
              exact unmarked.1 rfl
            have step :
                decoder.step .normal value =
                  (.normal, [.byte value]) :=
              if_neg different
            rw [encode, if_neg different, Transducer.emitted_cons,
              Transducer.after_cons, step]
            exact ⟨rfl, rfl⟩
        | message body =>
            exact
              decoder_encode_message
                (encodable (.message body) List.mem_cons_self)
      obtain ⟨emitted, after⟩ :=
        inductionHypothesis
          (fun other member =>
            encodable other (List.mem_cons_of_mem token member))
          unmarked.2
      rw [List.flatMap_cons, Transducer.emitted_append,
        Transducer.after_append, single.1, single.2, emitted, after]
      exact ⟨rfl, rfl⟩

private theorem decoder_encode_marker :
    decoder.emitted .normal (encode (.byte controlMarker)) =
        [.byte controlMarker] ∧
      decoder.after .normal (encode (.byte controlMarker)) =
        .length 0 := by
  rw [encode_marker]
  decide

/-- While it reads a message, the next thing the decoder emits is a message
of the announced length. -/
theorem decoder_message_head
    {len : Nat} {received bytes : Bytes} {token : Token}
    (room : received.length < len)
    (first :
      (decoder.emitted (.message len received) bytes).head? =
        some token) :
    ∃ body, token = .message body ∧ body.length = len := by
  induction bytes generalizing received with
  | nil =>
      cases first
  | cons byte bytes inductionHypothesis =>
      have longer :
          (received ++ [byte]).length = received.length + 1 :=
        List.length_append
      rw [Transducer.emitted_cons] at first
      by_cases complete : (received ++ [byte]).length = len
      · have step :
            decoder.step (.message len received) byte =
              (.normal, [.message (received ++ [byte])]) :=
          if_pos complete
        rw [step] at first
        injection first with same
        exact ⟨received ++ [byte], same.symm, complete⟩
      · have step :
            decoder.step (.message len received) byte =
              (.message len (received ++ [byte]), []) :=
          if_neg complete
        rw [step] at first
        exact inductionHypothesis (by omega) first

/-- While it reads a length, the decoder can emit no byte but the marker. -/
theorem decoder_length_head
    {len : Nat} {bytes : Bytes} {value : UInt8}
    (first :
      (decoder.emitted (.length len) bytes).head? =
        some (.byte value)) :
    value = controlMarker := by
  induction bytes generalizing len with
  | nil =>
      cases first
  | cons byte bytes inductionHypothesis =>
      rw [Transducer.emitted_cons] at first
      by_cases tooLarge : maxControlMessage ≤ len
      · rw [decoder_past_limit tooLarge,
          decoder_failed_sink.emitted_eq] at first
        cases first
      · have small := Nat.not_le.mp tooLarge
        by_cases high : 128 ≤ byte.toNat
        · by_cases zero : len * 128 + byte.toNat % 128 = 0
          · rw [decoder_last_zero small high zero] at first
            injection first with same
            injection same with sameValue
            exact sameValue.symm
          · rw [decoder_last_digit small high zero] at first
            obtain ⟨body, impossible, _⟩ :=
              decoder_message_head (Nat.pos_of_ne_zero zero) first
            cases impossible
        · rw [decoder_leading_digit small (Nat.not_le.mp high)] at first
          exact inductionHypothesis first

/-- Right after an escaped marker nothing is decoded as it was sent. -/
theorem decoder_after_marker_head
    {token : Token} (encodable : token.Encodable) (rest : Bytes) :
    (decoder.emitted (.length 0) (encode token ++ rest)).head? ≠
      some token := by
  intro first
  cases token with
  | byte value =>
      obtain rfl := decoder_length_head first
      have steps :
          decoder.emitted (.length 0) [controlMarker, 0x80] = [] ∧
            decoder.after (.length 0) [controlMarker, 0x80] =
              .message 128 [] := by
        decide
      rw [encode_marker, Transducer.emitted_append, steps.1, steps.2]
        at first
      obtain ⟨body, impossible, _⟩ :=
        decoder_message_head (show ([] : Bytes).length < 128 by decide)
          first
      cases impossible
  | message body =>
      obtain ⟨front, last, encoded, small, value⟩ :=
        encode_message encodable
      have afterMarker :
          decoder.step (.length 0) controlMarker = (.length 1, []) := by
        decide
      have longer : body.length < accumulated 1 (front ++ [last]) := by
        have power : 0 < 128 ^ (front ++ [last]).length :=
          Nat.pow_pos (by decide)
        rw [value]
        omega
      obtain ⟨emitted, after⟩ :=
        decoder_length_digits small (show
          accumulated 1 (front ++ [last]) ≠ 0 by omega)
      generalize front ++ [last ||| 0x80] = header
        at encoded emitted after
      rw [encoded, List.cons_append, List.cons_append,
        Transducer.emitted_cons, afterMarker, List.append_assoc,
        Transducer.emitted_append, emitted] at first
      rcases after with reached | ⟨failed, _⟩
      · rw [reached] at first
        obtain ⟨other, same, otherLength⟩ :=
          decoder_message_head
            (show ([] : Bytes).length <
                accumulated 1 (front ++ [last]) by
              rw [List.length_nil]
              omega)
            first
        injection same with sameBody
        rw [← sameBody] at otherLength
        omega
      · rw [failed, decoder_failed_sink.emitted_eq] at first
        cases first

/-- No marker is sent as data, except as the very last thing sent. -/
def MarkerOnlyLast (calls : List SendCall) : Prop :=
  Token.byte controlMarker ∉ (sentTokens calls).dropLast

private theorem decoder_encode_iff
    {sent : List Token} (encodable : ∀ token ∈ sent, token.Encodable) :
    decoder.emitted .normal (sent.flatMap encode) = sent ↔
      Token.byte controlMarker ∉ sent.dropLast := by
  constructor
  · intro same marked
    obtain ⟨before, after, split, unmarked⟩ :=
      List.eq_append_cons_of_mem marked
    have nonempty : sent ≠ [] := by
      rintro rfl
      cases marked
    obtain ⟨next, later, following⟩ :
        ∃ next later, after ++ [sent.getLast nonempty] = next :: later := by
      cases after with
      | nil =>
          exact ⟨_, _, rfl⟩
      | cons next later =>
          exact ⟨_, _, rfl⟩
    have whole :
        sent = before ++ .byte controlMarker :: next :: later := by
      rw [← List.dropLast_concat_getLast nonempty, split,
        List.append_assoc, List.cons_append, following]
    have nextEncodable : next.Encodable :=
      encodable next (by simp [whole])
    obtain ⟨emitted, afterBefore⟩ :=
      decoder_encode_unmarked
        (fun token member => encodable token (by simp [whole, member]))
        unmarked
    obtain ⟨markerEmitted, afterMarker⟩ := decoder_encode_marker
    rw [whole, List.flatMap_append, List.flatMap_cons, List.flatMap_cons,
      Transducer.emitted_append, Transducer.emitted_append, emitted,
      afterBefore, markerEmitted, afterMarker] at same
    have tailSame := List.append_cancel_left same
    rw [List.singleton_append] at tailSame
    injection tailSame with _ laterSame
    exact
      decoder_after_marker_head nextEncodable (later.flatMap encode)
        (by rw [laterSame]; rfl)
  · intro unmarked
    by_cases marked : Token.byte controlMarker ∈ sent
    · have nonempty : sent ≠ [] := by
        rintro rfl
        cases marked
      have split := List.dropLast_concat_getLast nonempty
      have lastMarker : sent.getLast nonempty = .byte controlMarker := by
        rw [← split] at marked
        exact
          (List.mem_singleton.mp
            ((List.mem_append.mp marked).resolve_left unmarked)).symm
      rw [lastMarker] at split
      obtain ⟨emitted, after⟩ :=
        decoder_encode_unmarked
          (fun token member =>
            encodable token (List.dropLast_subset sent member))
          unmarked
      rw [← split, List.flatMap_append, Transducer.emitted_append,
        emitted, after, List.flatMap_singleton, decoder_encode_marker.1]
    · exact (decoder_encode_unmarked encodable marked).1

/-- The packets of enough `receive` calls are what was sent, up to the
cutting of data. -/
def RoundTrips (calls : List SendCall) (peer : ShellStream) : Prop :=
  ∃ enough, ∀ count, enough ≤ count →
    ∃ packets next,
      receives count peer = some (packets, next) ∧
        coalesce packets = coalesce (calls.map SendCall.item)

private theorem roundTrips_iff_remaining
    {peer : ShellStream} (wellFormed : peer.WellFormed)
    (calls : List SendCall) :
    RoundTrips calls peer ↔ peer.remaining = sentTokens calls := by
  constructor
  · intro found
    rcases found with ⟨enough, delivered⟩
    obtain ⟨packets, next, received, same⟩ :=
      delivered (max enough (peer.effort + 1)) (Nat.le_max_left _ _)
    obtain ⟨others, final, receivedOthers, complete⟩ :=
      receives_complete wellFormed
        (show peer.effort < max enough (peer.effort + 1) by omega)
    rw [received] at receivedOthers
    cases receivedOthers
    rw [← complete]
    exact (coalesce_eq_iff packets _).mp same
  · intro same
    refine ⟨peer.effort + 1, ?_⟩
    intro count enough
    obtain ⟨packets, next, received, complete⟩ :=
      receives_complete wellFormed (show peer.effort < count by omega)
    refine ⟨packets, next, received, ?_⟩
    rw [coalesce_eq_iff, complete, same]
    rfl

theorem ShellStream.create_remaining
    (ctlLen ctlGot : Nat) (chunks : List Bytes) :
    (ShellStream.create ctlLen ctlGot chunks).remaining =
      decoder.emitted .normal chunks.flatten :=
  rfl

/-- However the sent bytes are cut into chunks, they come back as what was
sent exactly when no marker was sent as data before the end. -/
theorem shell_round_trip_iff
    (calls : List SendCall) (allSendable : AllSendable calls)
    (ctlLen ctlGot : Nat) :
    ∃ writes,
      sendAll calls = some writes ∧
        ∀ chunks : List Bytes,
          chunks.flatten = writes.flatten →
          (RoundTrips calls (ShellStream.create ctlLen ctlGot chunks) ↔
            MarkerOnlyLast calls) := by
  obtain ⟨writes, sent, encoded, encodable⟩ := sendAll_eq_some allSendable
  refine ⟨writes, sent, ?_⟩
  intro chunks delivered
  rw [roundTrips_iff_remaining (ShellStream.create_wellFormed _ _ _),
    ShellStream.create_remaining, delivered, encoded]
  exact decoder_encode_iff encodable

theorem shell_round_trip_of_data_and_control :
    ∃ writes,
      sendAll [.sendData [0x41], .sendControl [0x02, 0x01]] =
          some writes ∧
        ∀ chunks : List Bytes,
          chunks.flatten = writes.flatten →
          (RoundTrips [.sendData [0x41], .sendControl [0x02, 0x01]]
              (ShellStream.create 0 0 chunks) ↔
            MarkerOnlyLast
              [.sendData [0x41], .sendControl [0x02, 0x01]]) := by
  refine shell_round_trip_iff _ ?_ 0 0
  intro msg member
  have same : msg = [0x02, 0x01] := by
    simpa using member
  subst msg
  exact ⟨by decide, by decide⟩

/-- The letter after an escaped marker never arrives. -/
theorem shell_round_trip_fails_after_escaped_marker :
    ∃ writes,
      sendAll [.sendData [0x01, 0x41]] = some writes ∧
        ¬ RoundTrips [.sendData [0x01, 0x41]]
            (ShellStream.create 0 0 writes) := by
  have allSendable : AllSendable [.sendData [0x01, 0x41]] := by
    intro msg member
    simp at member
  obtain ⟨writes, sent, encoded, encodable⟩ := sendAll_eq_some allSendable
  refine ⟨writes, sent, ?_⟩
  rw [roundTrips_iff_remaining (ShellStream.create_wellFormed _ _ _),
    ShellStream.create_remaining, encoded, decoder_encode_iff encodable]
  decide

end StructuredStreams.Shell

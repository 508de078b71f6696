import StructuredStreams.Shell.Batching
import StructuredStreams.Shell.Chunking

/-!
# Control messages in flight

One side of a connection sends control messages and the other side has
received some of the bytes.  `Carries` says which messages are still to come,
out of the bytes that were not processed yet and the bytes in flight.
Sending adds a message, a chunk that arrives changes nothing, and `receive`
takes the first message or says that nothing is left to process.
-/

namespace StructuredStreams.Shell

open ByteCodec

/-- A chunk becomes available to `read_data`. -/
def ShellStream.arriveChunk (shell : ShellStream) (chunk : Bytes) :
    ShellStream :=
  { shell with pending := shell.pending ++ [chunk] }

/-- A call adds no chunks.  A Data packet has data, and a Null packet without
an error comes when there is nothing left. -/
structure Yields
    (shell : ShellStream) (packet : Packet) (next : ShellStream) :
    Prop where
  pending : next.pending <:+ shell.pending
  data : packet.type = .data → packet.data ≠ []
  null :
    packet.type = .null → next.errors = shell.errors → next.unread = []

/-- What one pass yields. -/
def PassYields (shell : ShellStream) : Pass → Prop
  | .again next =>
      next.pending <:+ shell.pending ∧ next.errors = shell.errors
  | .returned packet next => Yields shell packet next
  | .asserted => True

private theorem passNormal_yields
    {shell : ShellStream} {head : UInt8} {tail : Bytes}
    (unreadBytes : shell.rxData = head :: tail) :
    PassYields shell (passNormal shell head) := by
  unfold passNormal
  split
  · exact ⟨List.suffix_refl _, rfl⟩
  · next unmarked =>
      have positive :
          0 < (memchr shell.rxData controlMarker).getD
            shell.rxData.length := by
        rw [unreadBytes]
        exact memchr_getD_pos unmarked
      refine ⟨List.suffix_refl _, ?_, ?_⟩
      · intro _
        split
        · next whole =>
            exact List.ne_nil_of_length_pos (whole ▸ positive)
        · have some : 0 < shell.rxData.length := by
            simp [unreadBytes]
          apply List.ne_nil_of_length_pos
          rw [List.length_take]
          exact Nat.lt_min.mpr ⟨positive, some⟩
      · intro isNull
        cases isNull

private theorem passLength_yields (shell : ShellStream) (head : UInt8) :
    PassYields shell (passLength shell head) := by
  unfold passLength
  split
  · refine ⟨List.suffix_refl _, ?_, ?_⟩
    · intro isData
      cases isData
    · intro _ same
      simp at same
  · dsimp only
    split
    · split
      · refine ⟨List.suffix_refl _, ?_, ?_⟩
        · intro _
          exact List.cons_ne_nil _ _
        · intro isNull
          cases isNull
      · exact ⟨List.suffix_refl _, rfl⟩
    · exact ⟨List.suffix_refl _, rfl⟩

private theorem passMessage_yields (shell : ShellStream) :
    PassYields shell (passMessage shell) := by
  unfold passMessage
  dsimp only
  split
  · split
    · refine ⟨List.suffix_refl _, ?_, ?_⟩
      · intro isData
        cases isData
      · intro isNull
        cases isNull
    · trivial
  · exact ⟨List.suffix_refl _, rfl⟩

private theorem ShellStream.fill_pending (shell : ShellStream) :
    shell.fill.pending <:+ shell.pending := by
  unfold ShellStream.fill
  split
  · exact List.tail_suffix _
  · exact List.suffix_refl _

/-- Where no chunk is empty, a read that brings nothing says that nothing is
left. -/
theorem ShellStream.fill_unread_nil
    {shell : ShellStream} (chunks : [] ∉ shell.pending)
    (nothing : shell.fill.rxData = []) :
    shell.fill.unread = [] := by
  have empty : shell.rxData = [] := by
    by_contra nonempty
    rw [ShellStream.fill, if_neg nonempty] at nothing
    exact nonempty nothing
  cases pending : shell.pending with
  | nil =>
      rw [shell.fill_unread, ShellStream.unread, empty, pending]
      rfl
  | cons chunk later =>
      rw [ShellStream.fill, if_pos empty, pending] at nothing
      have isEmpty : chunk = [] := nothing
      rw [pending, isEmpty] at chunks
      exact absurd List.mem_cons_self chunks

theorem PassYields.of_fill
    {shell : ShellStream} {pass : Pass}
    (yields : PassYields shell.fill pass) :
    PassYields shell pass := by
  cases pass with
  | again next =>
      exact ⟨yields.1.trans shell.fill_pending,
        yields.2.trans shell.fill_errors⟩
  | returned packet next =>
      refine ⟨yields.pending.trans shell.fill_pending, yields.data, ?_⟩
      intro isNull same
      exact yields.null isNull (same.trans shell.fill_errors.symm)
  | asserted =>
      trivial

private theorem receivePass_yields
    {shell : ShellStream} (chunks : [] ∉ shell.pending) :
    PassYields shell (receivePass shell) := by
  simp only [receivePass]
  split
  · next nothing =>
      refine ⟨shell.fill_pending, ?_, ?_⟩
      · intro isData
        cases isData
      · intro _ _
        exact ShellStream.fill_unread_nil chunks nothing
  · next head tail unreadBytes =>
      apply PassYields.of_fill
      split
      · exact passNormal_yields unreadBytes
      · exact passLength_yields _ head
      · exact passMessage_yields _

private theorem receiveLoop_yields
    {shell : ShellStream} (chunks : [] ∉ shell.pending)
    {fuel : Nat} {packet : Packet} {next : ShellStream}
    (received : receiveLoop fuel shell = some (packet, next)) :
    Yields shell packet next := by
  induction fuel generalizing shell with
  | zero =>
      cases received
  | succ fuel inductionHypothesis =>
      have yields := receivePass_yields chunks
      unfold receiveLoop at received
      cases outcome : receivePass shell with
      | returned first middle =>
          rw [outcome] at received yields
          cases received
          exact yields
      | again middle =>
          rw [outcome] at received yields
          obtain ⟨pending, errors⟩ := yields
          have later :=
            inductionHypothesis (mt (pending.subset ·) chunks) received
          refine ⟨later.pending.trans pending, later.data, ?_⟩
          intro isNull same
          exact later.null isNull (same.trans errors.symm)
      | asserted =>
          rw [outcome] at received
          cases received

/-- The unread bytes and the bytes in flight are those of the messages. -/
structure Carries
    (shell : ShellStream) (flight : Bytes) (messages : List Bytes) :
    Prop where
  wellFormed : shell.WellFormed
  chunks : [] ∉ shell.pending
  quiet : shell.errors = []
  emitted :
    decoder.emitted shell.decoderState (shell.unread ++ flight) =
      messages.map Token.message
  after :
    decoder.after shell.decoderState (shell.unread ++ flight) = .normal

namespace Carries

theorem create (ctlLen ctlGot : Nat) :
    Carries (ShellStream.create ctlLen ctlGot []) [] [] where
  wellFormed := ShellStream.create_wellFormed ctlLen ctlGot []
  chunks := List.not_mem_nil
  quiet := rfl
  emitted := rfl
  after := rfl

variable {shell next : ShellStream} {flight : Bytes} {messages : List Bytes}

/-- A message that is sent comes after those in flight. -/
theorem send
    (carries : Carries shell flight messages)
    {msg : Bytes} (sendable : Sendable msg) :
    ∃ writes,
      sendControl msg = some writes ∧
        Carries shell (flight ++ writes.flatten) (messages ++ [msg]) := by
  obtain ⟨front, last, sent, _⟩ := sendControl_eq_some sendable
  have encoded :
      [controlMarker :: (front ++ [last ||| 0x80]), msg].flatten =
        encode (.message msg) := by
    rw [encode, sent]
    rfl
  obtain ⟨emitted, after⟩ := decoder_encode_message sendable
  refine
    ⟨_, sent, carries.wellFormed, carries.chunks, carries.quiet, ?_, ?_⟩
  · rw [encoded, ← List.append_assoc, Transducer.emitted_append,
      carries.emitted, carries.after, emitted, List.map_append]
    rfl
  · rw [encoded, ← List.append_assoc, Transducer.after_append,
      carries.after, after]

/-- A chunk of the bytes in flight arrives. -/
theorem arrive
    {chunk : Bytes} (nonempty : chunk ≠ [])
    (carries : Carries shell (chunk ++ flight) messages) :
    Carries (shell.arriveChunk chunk) flight messages := by
  have unread :
      (shell.arriveChunk chunk).unread ++ flight =
        shell.unread ++ (chunk ++ flight) := by
    simp [ShellStream.unread, ShellStream.arriveChunk]
  refine
    ⟨⟨carries.wellFormed.unreadSuffix, carries.wellFormed.messageRoom⟩, ?_,
      carries.quiet, ?_, ?_⟩
  · intro member
    rcases List.mem_append.mp member with earlier | isLast
    · exact carries.chunks earlier
    · exact nonempty (List.mem_singleton.mp isLast).symm
  · rw [unread]
    exact carries.emitted
  · rw [unread]
    exact carries.after

/-- The decoder does not give up on bytes that lead to character data. -/
theorem not_stuck
    (after :
      decoder.after shell.decoderState (shell.unread ++ flight) = .normal) :
    ¬ shell.Stuck := by
  intro stuck
  rw [Transducer.after_append, stuck.1,
    decoder_failed_sink.after_eq] at after
  cases after

/-- What a call processes is the beginning of what is still to come. -/
theorem consume
    (carries : Carries shell flight messages)
    {output : List Token} (consumed : Consumes shell output next) :
    messages.map Token.message =
        output ++
          decoder.emitted next.decoderState (next.unread ++ flight) ∧
      decoder.after next.decoderState (next.unread ++ flight) =
        .normal := by
  obtain ⟨front, unread, emitted, after⟩ := consumed
  have emittedAll := carries.emitted
  have afterAll := carries.after
  rw [unread, List.append_assoc, Transducer.emitted_append, emitted,
    after] at emittedAll
  rw [unread, List.append_assoc, Transducer.after_append, after] at afterAll
  exact ⟨emittedAll.symm, afterAll⟩

/-- A call that emits something processes some bytes. -/
theorem unread_lt
    {output : List Token} (consumed : Consumes shell output next)
    (something : output ≠ []) :
    next.unread.length < shell.unread.length := by
  obtain ⟨front, unread, emitted, _⟩ := consumed
  have positive : 0 < front.length := by
    apply List.length_pos_iff.mpr
    rintro rfl
    exact something emitted.symm
  rw [unread, List.length_append]
  omega

/-- `receive` returns the first of the messages, or it returns the Null
packet and there is nothing left to process. -/
theorem receive
    (carries : Carries shell flight messages) :
    ∃ packet next,
      Shell.receive shell = some (packet, next) ∧
        (packet.type = .null ∧ next.unread = [] ∧
            Carries next flight messages ∨
          packet.type = .control ∧
            next.unread.length < shell.unread.length ∧
            ∃ rest,
              messages = packet.data :: rest ∧ packet.data ≠ [] ∧
                Carries next flight rest) := by
  obtain ⟨packet, next, received, wellFormed, consumed, _⟩ :=
    receive_sound carries.wellFormed
  have yields := receiveLoop_yields carries.chunks received
  have chunks : [] ∉ next.pending :=
    mt (yields.pending.subset ·) carries.chunks
  obtain ⟨split, after⟩ := carries.consume consumed
  have errors : next.errors = shell.errors := by
    rcases receiveLoop_reports carries.wellFormed received with
      quiet | signalled
    · exact quiet.1
    · exact absurd signalled.2 (not_stuck after)
  refine ⟨packet, next, received, ?_⟩
  cases typeEq : packet.type with
  | null =>
      left
      rw [Packet.tokens, typeEq] at split
      exact ⟨rfl, yields.null typeEq errors, wellFormed, chunks,
        errors.trans carries.quiet, split.symm, after⟩
  | data =>
      -- Only messages are on their way.
      exfalso
      rw [Packet.tokens, typeEq] at split
      cases dataEq : packet.data with
      | nil =>
          exact yields.data typeEq dataEq
      | cons byte bytes =>
          rw [dataEq] at split
          cases messages with
          | nil =>
              cases split
          | cons first rest =>
              injection split with headEq _
              cases headEq
  | control =>
      right
      have tokens : packet.tokens = [.message packet.data] := by
        rw [Packet.tokens, typeEq]
      rw [tokens] at split
      have shorter :=
        unread_lt consumed (by rw [tokens]; exact List.cons_ne_nil _ _)
      have isReceived :=
        receive_received carries.wellFormed received (by simp [typeEq])
      rw [Packet.Received, typeEq] at isReceived
      cases messages with
      | nil =>
          cases split
      | cons first rest =>
          injection split with headEq tailEq
          injection headEq with bodyEq
          exact ⟨rfl, shorter, rest, by rw [bodyEq], isReceived,
            wellFormed, chunks, errors.trans carries.quiet, tailEq.symm,
            after⟩

end Carries

end StructuredStreams.Shell

import StructuredStreams.Shell.RoundTrip

/-!
# Decoding does not depend on the chunks

`drain` calls `receive` until all bytes were processed or the size error was
signalled.  It ends, and both the joined packets and the error are those of
the decoder on the bytes of all chunks together.
-/

namespace StructuredStreams.Shell

open ByteCodec

/-- Call `receive` until everything was processed or an error was
signalled. -/
def drain :
    (fuel : Nat) → ShellStream → Option (List Packet × ShellStream)
  | 0, _ => none
  | fuel + 1, shell =>
      if shell.unread = [] ∨ shell.errors ≠ [] then some ([], shell)
      else do
        let (packet, shell) ← receive shell
        let (packets, shell) ← drain fuel shell
        return (packet :: packets, shell)

/-- The decoder has given up on the bytes that are left. -/
def ShellStream.Stuck (shell : ShellStream) : Prop :=
  decoder.after shell.decoderState shell.unread = .failed ∧
    shell.remaining = []

/-- A call signals nothing and gets ahead, or it signals the size error and
the decoder gives up there. -/
def Reports (shell next : ShellStream) : Prop :=
  next.errors = shell.errors ∧
      (next.effort < shell.effort ∨ next.unread = []) ∨
    next.errors = shell.errors ++ ["Control message too large"] ∧
      next.Stuck

/-- What one pass signals. -/
def PassReports (shell : ShellStream) : Pass → Prop
  | .again next => next.errors = shell.errors
  | .returned _ next => Reports shell next
  | .asserted => False

theorem ShellStream.fill_errors (shell : ShellStream) :
    shell.fill.errors = shell.errors := by
  unfold ShellStream.fill
  split <;> rfl

private theorem ShellStream.decoderState_ne_failed (shell : ShellStream) :
    shell.decoderState ≠ .failed := by
  unfold ShellStream.decoderState
  split <;> exact DecoderState.noConfusion

private theorem passNormal_reports
    {shell : ShellStream} {head : UInt8} {tail : Bytes}
    (unreadBytes : shell.rxData = head :: tail) :
    PassReports shell (passNormal shell head) := by
  unfold passNormal
  split
  · rfl
  · next unmarked =>
      have nonempty : shell.rxData ≠ [] := by
        simp [unreadBytes]
      have positive :
          0 <
            (memchr shell.rxData controlMarker).getD
              shell.rxData.length := by
        rw [unreadBytes]
        exact memchr_getD_pos unmarked
      have less := shell.effort_advance_lt positive nonempty
      exact Or.inl ⟨rfl, Or.inl less⟩

private theorem passLength_reports
    {shell : ShellStream} {head : UInt8} {tail : Bytes}
    (unreadBytes : shell.rxData = head :: tail)
    (readingLength : shell.rstate = .recvLength) :
    PassReports shell (passLength shell head) := by
  have nonempty : shell.rxData ≠ [] := by
    simp [unreadBytes]
  have less := shell.effort_advance_lt Nat.one_pos nonempty
  unfold passLength
  by_cases tooLarge : maxControlMessage ≤ shell.ctlLen
  · rw [if_pos tooLarge]
    have state : shell.decoderState = .length shell.ctlLen := by
      rw [ShellStream.decoderState, readingLength]
    have unreadHead :
        shell.unread = head :: (shell.advance 1).unread := by
      rw [shell.unread_advance 1, unreadBytes]
      rfl
    have step := decoder_past_limit tooLarge head
    refine Or.inr ⟨rfl, ?_, ?_⟩
    · change decoder.after shell.decoderState shell.unread = .failed
      rw [state, unreadHead, Transducer.after_cons, step]
      exact decoder_failed_sink.after_eq _
    · change decoder.emitted shell.decoderState shell.unread = []
      rw [state, unreadHead, Transducer.emitted_cons, step]
      exact decoder_failed_sink.emitted_eq _
  · rw [if_neg tooLarge]
    dsimp only
    split
    · split
      · exact Or.inl ⟨rfl, Or.inl less⟩
      · rfl
    · rfl

private theorem passMessage_reports
    {shell : ShellStream}
    (wellFormed : shell.WellFormed)
    (nonempty : shell.rxData ≠ [])
    (readingMessage : shell.rstate = .recvMessage) :
    PassReports shell (passMessage shell) := by
  have sound := passMessage_sound wellFormed nonempty readingMessage
  obtain ⟨room, _⟩ := wellFormed.messageRoom readingMessage
  have amount := List.length_pos_iff.mpr nonempty
  have positive :
      0 < min shell.rxData.length (shell.ctlLen - shell.ctlGot) := by
    omega
  have less := shell.effort_advance_lt positive nonempty
  unfold passMessage at sound ⊢
  dsimp only at sound ⊢
  split
  · next complete =>
      rw [if_pos complete] at sound
      split
      · exact Or.inl ⟨rfl, Or.inl less⟩
      · next short =>
          rw [if_neg short] at sound
          exact sound
  · rfl

theorem Reports.of_fill
    {shell next : ShellStream} (reports : Reports shell.fill next) :
    Reports shell next := by
  rw [Reports, shell.fill_errors] at reports
  refine reports.imp_left ?_
  intro quiet
  refine ⟨quiet.1, quiet.2.imp_left ?_⟩
  intro less
  exact Nat.lt_of_lt_of_le less shell.fill_effort_le

theorem PassReports.of_fill
    {shell : ShellStream} {pass : Pass}
    (reports : PassReports shell.fill pass) :
    PassReports shell pass := by
  cases pass with
  | again next =>
      have same : next.errors = shell.fill.errors := reports
      exact same.trans shell.fill_errors
  | returned packet next =>
      exact Reports.of_fill reports
  | asserted =>
      exact reports

private theorem receivePass_reports
    {shell : ShellStream} (wellFormed : shell.WellFormed) :
    PassReports shell (receivePass shell) := by
  simp only [receivePass]
  split
  · next nothing =>
      exact
        Or.inl ⟨shell.fill_errors, ShellStream.fill_empty_unread nothing⟩
  · next head tail unreadBytes =>
      apply PassReports.of_fill
      split
      · exact passNormal_reports unreadBytes
      · next readingLength =>
          exact passLength_reports unreadBytes readingLength
      · next readingMessage =>
          exact
            passMessage_reports wellFormed.fill (by simp [unreadBytes])
              readingMessage

theorem receiveLoop_reports
    {shell : ShellStream} (wellFormed : shell.WellFormed)
    {fuel : Nat} {packet : Packet} {next : ShellStream}
    (received : receiveLoop fuel shell = some (packet, next)) :
    Reports shell next := by
  induction fuel generalizing shell with
  | zero =>
      cases received
  | succ fuel inductionHypothesis =>
      have sound := receivePass_sound wellFormed
      have reports := receivePass_reports wellFormed
      unfold receiveLoop at received
      cases outcome : receivePass shell with
      | returned first middle =>
          rw [outcome] at received reports
          cases received
          exact reports
      | again middle =>
          rw [outcome] at received reports sound
          obtain ⟨middleWellFormed, _, pending, shorter⟩ := sound
          have same : middle.errors = shell.errors := reports
          have less : middle.effort < shell.effort :=
            Nat.add_lt_add_of_lt_of_le shorter pending
          have later := inductionHypothesis middleWellFormed received
          rw [Reports, same] at later
          apply later.imp_left
          intro quiet
          refine ⟨quiet.1, quiet.2.imp_left ?_⟩
          intro smaller
          exact smaller.trans less
      | asserted =>
          rw [outcome] at received
          cases received

/-- The errors that the decoder calls for. -/
def ShellStream.expectedErrors (shell : ShellStream) : List String :=
  if decoder.after shell.decoderState shell.unread = .failed then
    ["Control message too large"]
  else []

private theorem Consumes.expectedErrors_eq
    {shell next : ShellStream} {output : List Token}
    (consumed : Consumes shell output next) :
    shell.expectedErrors = next.expectedErrors := by
  obtain ⟨front, unread, _, after⟩ := consumed
  rw [ShellStream.expectedErrors, unread, Transducer.after_append, after]
  rfl

private theorem ShellStream.expectedErrors_of_unread_nil
    {shell : ShellStream} (processed : shell.unread = []) :
    shell.expectedErrors = [] := by
  rw [ShellStream.expectedErrors, processed, Transducer.after_nil]
  exact if_neg shell.decoderState_ne_failed

/-- There is nothing more to call for. -/
def ShellStream.Done (shell : ShellStream) : Prop :=
  shell.unread = [] ∨ shell.errors ≠ []

private theorem drain_of_done
    {shell : ShellStream} (done : shell.Done) {fuel : Nat}
    (positive : 0 < fuel) :
    drain fuel shell = some ([], shell) := by
  cases fuel with
  | zero =>
      exact absurd positive (Nat.lt_irrefl 0)
  | succ fuel =>
      exact if_pos done

private theorem drain_of_not_done
    {shell middle next : ShellStream} {packet : Packet}
    {packets : List Packet} {fuel : Nat} (notDone : ¬ shell.Done)
    (received : receive shell = some (packet, middle))
    (later : drain fuel middle = some (packets, next)) :
    drain (fuel + 1) shell = some (packet :: packets, next) := by
  unfold drain
  unfold ShellStream.Done at notDone
  rw [if_neg notDone, received]
  simp only [Option.bind_eq_bind, Option.bind_some, later, Option.pure_def]

/-- Calling `receive` until the end returns, emits what the decoder emits and
signals what it calls for. -/
theorem drain_spec
    {shell : ShellStream} (wellFormed : shell.WellFormed)
    (quiet : shell.errors = [])
    {fuel : Nat} (enough : shell.effort + 2 ≤ fuel) :
    ∃ packets next,
      drain fuel shell = some (packets, next) ∧
        tokens packets = shell.remaining ∧
        next.errors = shell.expectedErrors := by
  induction fuel generalizing shell with
  | zero =>
      omega
  | succ fuel inductionHypothesis =>
      by_cases processed : shell.unread = []
      · refine
          ⟨[], shell, drain_of_done (Or.inl processed) (Nat.succ_pos fuel),
            ?_, ?_⟩
        · rw [ShellStream.remaining, processed]
          rfl
        · rw [ShellStream.expectedErrors_of_unread_nil processed, quiet]
      · have notDone : ¬ shell.Done := by
          intro done
          exact done.elim processed fun signalled => signalled quiet
        obtain ⟨packet, middle, received, middleWellFormed, consumed, _⟩ :=
          receive_sound wellFormed
        have reports := receiveLoop_reports wellFormed received
        rw [Reports, quiet] at reports
        rcases reports with
          ⟨stillQuiet, less | middleProcessed⟩ | ⟨signalled, stuck⟩
        · obtain ⟨packets, next, drained, emitted, errors⟩ :=
            inductionHypothesis middleWellFormed stillQuiet (by omega)
          refine
            ⟨packet :: packets, next,
              drain_of_not_done notDone received drained, ?_, ?_⟩
          · rw [consumed.remaining_eq, ← emitted]
            rfl
          · rw [errors, consumed.expectedErrors_eq]
        · have drained :=
            drain_of_done (Or.inl middleProcessed)
              (show 0 < fuel by omega)
          refine
            ⟨[packet], middle,
              drain_of_not_done notDone received drained, ?_, ?_⟩
          · rw [consumed.remaining_eq, ShellStream.remaining,
              middleProcessed]
            rfl
          · rw [consumed.expectedErrors_eq, stillQuiet,
              ShellStream.expectedErrors_of_unread_nil middleProcessed]
        · have middleDone : middle.Done := by
            right
            simp [signalled]
          have drained := drain_of_done middleDone (show 0 < fuel by omega)
          refine
            ⟨[packet], middle,
              drain_of_not_done notDone received drained, ?_, ?_⟩
          · rw [consumed.remaining_eq, stuck.2]
            rfl
          · rw [consumed.expectedErrors_eq, signalled,
              ShellStream.expectedErrors, if_pos stuck.1]
            rfl

/-- Two ways of cutting the same bytes lead to the same packets, up to the
cutting of data, and to the same errors. -/
theorem decoding_independent_of_chunks
    (ctlLen ctlGot otherCtlLen otherCtlGot : Nat)
    (chunks others : List Bytes)
    (sameBytes : chunks.flatten = others.flatten) :
    ∃ enough, ∀ fuel, enough ≤ fuel →
      ∃ packets next otherPackets otherNext,
        drain fuel (ShellStream.create ctlLen ctlGot chunks) =
            some (packets, next) ∧
          drain fuel (ShellStream.create otherCtlLen otherCtlGot others) =
            some (otherPackets, otherNext) ∧
          coalesce packets = coalesce otherPackets ∧
          next.errors = otherNext.errors := by
  refine
    ⟨max (ShellStream.create ctlLen ctlGot chunks).effort
        (ShellStream.create otherCtlLen otherCtlGot others).effort + 2, ?_⟩
  intro fuel enough
  obtain ⟨packets, next, drained, emitted, errors⟩ :=
    drain_spec (ShellStream.create_wellFormed ctlLen ctlGot chunks) rfl
      (show _ ≤ fuel by omega)
  obtain ⟨otherPackets, otherNext, otherDrained, otherEmitted,
      otherErrors⟩ :=
    drain_spec
      (ShellStream.create_wellFormed otherCtlLen otherCtlGot others) rfl
      (show _ ≤ fuel by omega)
  refine
    ⟨packets, next, otherPackets, otherNext, drained, otherDrained, ?_, ?_⟩
  · rw [coalesce_eq_iff, emitted, otherEmitted,
      ShellStream.create_remaining, ShellStream.create_remaining,
      sameBytes]
  · have sameUnread :
        (ShellStream.create ctlLen ctlGot chunks).unread =
          (ShellStream.create otherCtlLen otherCtlGot others).unread :=
      sameBytes
    rw [errors, otherErrors, ShellStream.expectedErrors, sameUnread]
    rfl

/-- A marker, a length and a message are cut in two different ways. -/
theorem decoding_independent_of_chunks_around_message :
    ∃ enough, ∀ fuel, enough ≤ fuel →
      ∃ packets next otherPackets otherNext,
        drain fuel
              (ShellStream.create 0 0 [[0x41, 0x01], [0x82, 0x02], [0x03]]) =
            some (packets, next) ∧
          drain fuel
              (ShellStream.create 0 0
                [[0x41], [], [0x01, 0x82], [0x02, 0x03]]) =
            some (otherPackets, otherNext) ∧
          coalesce packets = coalesce otherPackets ∧
          next.errors = otherNext.errors :=
  decoding_independent_of_chunks 0 0 0 0 _ _ rfl

end StructuredStreams.Shell

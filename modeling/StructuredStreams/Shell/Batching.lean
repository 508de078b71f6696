import StructuredStreams.Shell.Decoder
import StructuredStreams.Shell.Session

/-!
# Input of a shell session

`in_ready` takes packets from the shell stream until there is none left.
Whether the terminal is open is looked up once, before the first packet, so
that a command to start a shell is not seen by the data that follows it in
the same invocation: what is written depends on how the packets are divided
among the invocations.
-/

namespace StructuredStreams.Shell

open ByteCodec

def shellBufferSize : Nat :=
  16384

/-- A message of the decoder has at least one byte. -/
theorem decoder_message_ne_nil
    (symbols : Bytes) (state : DecoderState) (body : Bytes)
    (emitted : Token.message body ∈ decoder.emitted state symbols) :
    body ≠ [] := by
  induction symbols generalizing state with
  | nil =>
      simp at emitted
  | cons symbol symbols inductionHypothesis =>
      rw [Transducer.emitted_cons, List.mem_append] at emitted
      rcases emitted with now | later
      · cases state with
        | normal =>
            simp only [decoder] at now
            split at now <;> simp at now
        | length len =>
            simp only [decoder] at now
            split at now
            · simp at now
            · split at now
              · split at now <;> simp at now
              · simp at now
        | message len received =>
            simp only [decoder] at now
            split at now
            · simp only [List.mem_singleton, Token.message.injEq] at now
              simp [now]
            · simp at now
        | failed =>
            simp [decoder] at now
      · exact inductionHypothesis _ later

/-- A packet that `in_ready` has to deal with. -/
def Packet.Received (packet : Packet) : Prop :=
  match packet.type with
  | .null => False
  | .data => True
  | .control => packet.data ≠ []

/-- The packets of `receive` satisfy the assertion of
`got_control_packet`. -/
theorem receive_received
    {shell next : ShellStream} {packet : Packet}
    (wellFormed : shell.WellFormed)
    (returned : receive shell = some (packet, next))
    (something : packet.type ≠ .null) :
    packet.Received := by
  obtain ⟨other, final, otherReturned, _, consumed, _⟩ :=
    receive_sound wellFormed
  rw [returned] at otherReturned
  cases otherReturned
  cases typeEq : packet.type with
  | null =>
      exact absurd typeEq something
  | data =>
      simp only [Packet.Received, typeEq]
  | control =>
      simp only [Packet.Received, typeEq]
      obtain ⟨front, _, emitted, _⟩ := consumed
      apply decoder_message_ne_nil front shell.decoderState
      rw [emitted, Packet.tokens, typeEq]
      exact List.mem_singleton.mpr rfl

/-- A packet from the shell stream and the answers that the system gives to
the calls made for it. -/
structure SessionInput where
  packet : Packet
  answers : Answers
  received : packet.Received

section Input

variable (decode : Bytes → ControlMessage)

namespace ShellSession

def gotControlPacket
    (session : ShellSession) (msg : Bytes) (answers : Answers) :
    Option ShellSession := do
  guard (msg ≠ [])
  session.control (decode msg) answers

/-- The case of a Data packet.  `aftty.write` returns `-1` whatever it is
given. -/
def gotData
    (session : ShellSession) (ttyopen : Bool) (data : Bytes) :
    ShellSession :=
  if ttyopen then
    { session with written := session.written ++ [data] }.error
      session.aftty.errorString
  else
    session.error "Received shell data before command to start shell"

/-- The loop of `in_ready` on the packets that the shell stream has; after
the last one it returns the Null packet. -/
def inReadyLoop (ttyopen : Bool) :
    ShellSession → List SessionInput → Option ShellSession
  | session, [] => some session
  | session, input :: inputs =>
      if ttyopen ∧ shellBufferSize ≤ session.aftty.bytesToWrite then
        some session
      else
        match input.packet.type with
        | .null => some session
        | .data =>
            inReadyLoop ttyopen
              (session.gotData ttyopen input.packet.data) inputs
        | .control => do
            let session ←
              session.gotControlPacket decode input.packet.data
                input.answers
            inReadyLoop ttyopen session inputs

def inReady (session : ShellSession) (inputs : List SessionInput) :
    Option ShellSession :=
  session.inReadyLoop decode session.aftty.isOpen inputs

/-- One invocation for each batch of packets. -/
def inReadyAll
    (session : ShellSession) (batches : List (List SessionInput)) :
    Option ShellSession :=
  batches.foldlM (fun session inputs => session.inReady decode inputs)
    session

end ShellSession

/-- The control messages among the packets. -/
def requests (inputs : List SessionInput) : List Request :=
  inputs.filterMap fun input =>
    match input.packet.type with
    | .control => some ⟨decode input.packet.data, input.answers⟩
    | _ => none

/-- The payloads of the data packets. -/
def payloads (inputs : List SessionInput) : List Bytes :=
  inputs.filterMap fun input =>
    match input.packet.type with
    | .data => some input.packet.data
    | _ => none

private theorem requests_append (front back : List SessionInput) :
    requests decode (front ++ back) =
      requests decode front ++ requests decode back :=
  List.filterMap_append

private theorem payloads_append (front back : List SessionInput) :
    payloads (front ++ back) = payloads front ++ payloads back :=
  List.filterMap_append

end Input

namespace ShellSession

/-- A session without its record of data and errors. -/
def controlPart (session : ShellSession) : ShellSession :=
  { session with written := [], errors := [] }

theorem eq_of_controlPart_eq
    {left right : ShellSession}
    (same : left.controlPart = right.controlPart) :
    left.aftty = right.aftty ∧ left.mode = right.mode ∧
      left.actions = right.actions := by
  have sameFile : left.controlPart.aftty = right.controlPart.aftty := by
    rw [same]
  have sameMode : left.controlPart.mode = right.controlPart.mode := by
    rw [same]
  have sameActions :
      left.controlPart.actions = right.controlPart.actions := by
    rw [same]
  exact ⟨sameFile, sameMode, sameActions⟩

@[simp]
theorem controlPart_error (session : ShellSession) (text : String) :
    (session.error text).controlPart = session.controlPart :=
  rfl

@[simp]
theorem controlPart_act (session : ShellSession) (action : ControlAction) :
    (session.act action).controlPart = session.controlPart.act action :=
  rfl

@[simp]
theorem controlPart_gotData
    (session : ShellSession) (ttyopen : Bool) (data : Bytes) :
    (session.gotData ttyopen data).controlPart = session.controlPart := by
  rw [gotData]
  split <;> rfl

@[simp]
theorem controlPart_ptyfd (session : ShellSession) :
    session.controlPart.ptyfd = session.ptyfd :=
  rfl

@[simp]
theorem controlPart_ttyfd (session : ShellSession) :
    session.controlPart.ttyfd = session.ttyfd :=
  rfl

private theorem openPty_controlPart
    (session : ShellSession) (request : TerminalRequest)
    (answers : Answers) :
    (session.openPty request answers).controlPart =
      (session.controlPart.openPty request answers).controlPart := by
  rw [openPty, openPty, controlPart_ptyfd, controlPart_ttyfd]
  by_cases terminal : 0 ≤ session.ptyfd
  · rw [if_pos terminal, if_pos terminal]
    rfl
  · rw [if_neg terminal, if_neg terminal]
    by_cases socket : 0 ≤ session.ttyfd
    · rw [if_pos socket, if_pos socket]
      rfl
    · rw [if_neg socket, if_neg socket]
      cases answers.posixOpenpt <;> rfl

private theorem closeChildfd_controlPart
    (session : ShellSession) (childfd : Int) :
    (session.closeChildfd childfd).controlPart =
      session.controlPart.closeChildfd childfd := by
  simp only [closeChildfd]
  split <;> rfl

private theorem forkChild_controlPart
    (session : ShellSession) (childfd : Int) (answers : Answers) :
    (session.forkChild childfd answers).map controlPart =
      (session.controlPart.forkChild childfd answers).map controlPart := by
  rw [forkChild, forkChild, controlPart_ptyfd, controlPart_ttyfd]
  rw [guard]
  by_cases oneOpen :
      (xor (decide (0 ≤ session.ptyfd)) (decide (0 ≤ session.ttyfd))) =
        true
  · rw [if_pos oneOpen]
    cases answers.fork with
    | error reason =>
        simp only [Option.bind_eq_bind, Option.pure_def,
          Option.bind_some, Option.map_some, controlPart_error,
          closeChildfd_controlPart]
        rfl
    | ok childpid =>
        simp only [Option.bind_eq_bind, Option.pure_def,
          Option.bind_some, Option.map_some, closeChildfd]
        split <;> rfl
  · rw [if_neg oneOpen]
    rfl

private theorem run_controlPart (session : ShellSession) (answers : Answers) :
    (session.run answers).map controlPart =
      (session.controlPart.run answers).map controlPart := by
  rw [run, run, controlPart_ptyfd, controlPart_ttyfd]
  by_cases socket : 0 ≤ session.ttyfd
  · rw [if_pos socket, if_pos socket]
    rfl
  · rw [if_neg socket, if_neg socket]
    by_cases noTerminal : session.ptyfd < 0
    · rw [if_pos noTerminal, if_pos noTerminal]
      cases answers.socketpair with
      | error reason =>
          rfl
      | ok fds =>
          exact forkChild_controlPart _ _ answers
    · rw [if_neg noTerminal, if_neg noTerminal]
      exact forkChild_controlPart session _ answers

private theorem control_controlPart
    (session : ShellSession) (message : ControlMessage)
    (answers : Answers) :
    (session.control message answers).map controlPart =
      (session.controlPart.control message answers).map controlPart := by
  cases message with
  | terminal request =>
      exact congrArg some (openPty_controlPart session request answers)
  | shell =>
      exact run_controlPart session answers
  | exec cmd =>
      exact run_controlPart session answers
  | unknown cmd =>
      rfl

/-- Sessions that agree on everything but data and errors process control
messages alike. -/
theorem controlAll_congr
    {left right leftFinal : ShellSession} {requests : List Request}
    (same : left.controlPart = right.controlPart)
    (processed : left.controlAll requests = some leftFinal) :
    ∃ rightFinal,
      right.controlAll requests = some rightFinal ∧
        leftFinal.controlPart = rightFinal.controlPart := by
  induction requests generalizing left right with
  | nil =>
      cases processed
      exact ⟨right, rfl, same⟩
  | cons request requests inductionHypothesis =>
      rw [controlAll, List.foldlM_cons, bind_eq_some_iff] at processed
      obtain ⟨middle, controlled, processed⟩ := processed
      have agree :
          (right.control request.message request.answers).map
              controlPart =
            some middle.controlPart := by
        rw [control_controlPart, ← same, ← control_controlPart, controlled]
        rfl
      obtain ⟨rightMiddle, rightControlled, sameMiddle⟩ :=
        Option.map_eq_some_iff.mp agree
      obtain ⟨rightFinal, rightProcessed, sameFinal⟩ :=
        inductionHypothesis sameMiddle.symm processed
      refine ⟨rightFinal, ?_, sameFinal⟩
      rw [controlAll, List.foldlM_cons, rightControlled]
      exact rightProcessed

section Batches

variable (decode : Bytes → ControlMessage)

/-- The next session is what the control messages among the packets make of
the session, apart from data and errors. -/
def Processed
    (session : ShellSession) (inputs : List SessionInput)
    (next : ShellSession) : Prop :=
  ∃ controlled,
    session.controlAll (requests decode inputs) = some controlled ∧
      next.controlPart = controlled.controlPart

/-- The terminal is open once the packets are processed. -/
def opened (session : ShellSession) (inputs : List SessionInput) : Bool :=
  session.aftty.isOpen ||
    decide (0 < shellsFrom session.mode (requests decode inputs))

variable {decode}

theorem Processed.append
    {session middle next : ShellSession} {front back : List SessionInput}
    (first : Processed decode session front middle)
    (second : Processed decode middle back next) :
    Processed decode session (front ++ back) next := by
  obtain ⟨controlled, processed, same⟩ := first
  obtain ⟨final, processedLater, sameLater⟩ := second
  obtain ⟨controlledFinal, continued, sameFinal⟩ :=
    controlAll_congr same processedLater
  refine ⟨controlledFinal, ?_, sameLater.trans sameFinal⟩
  rw [requests_append, controlAll, List.foldlM_append]
  exact bind_eq_some_iff.mpr ⟨controlled, processed, continued⟩

private theorem Processed.unique
    {session left right : ShellSession} {inputs : List SessionInput}
    (first : Processed decode session inputs left)
    (second : Processed decode session inputs right) :
    left.actions = right.actions := by
  obtain ⟨controlled, processed, sameLeft⟩ := first
  obtain ⟨other, processedAgain, sameRight⟩ := second
  rw [processed] at processedAgain
  cases processedAgain
  exact (eq_of_controlPart_eq (sameLeft.trans sameRight.symm)).2.2

theorem Processed.spec
    {session next : ShellSession} {inputs : List SessionInput}
    (processed : Processed decode session inputs next) :
    next.aftty.isOpen = opened decode session inputs ∧
      next.aftty.bytesToWrite = session.aftty.bytesToWrite ∧
      ∀ more,
        opened decode next more =
          opened decode session (inputs ++ more) := by
  obtain ⟨controlled, returned, same⟩ := processed
  obtain ⟨final, returnedAgain, starts, counted⟩ :=
    session.controlAll_spec (requests decode inputs)
  rw [returned] at returnedAgain
  cases returnedAgain
  obtain ⟨sameFile, sameMode, _⟩ := eq_of_controlPart_eq same
  have openNow : next.aftty.isOpen = opened decode session inputs := by
    rw [sameFile, starts.isOpen]
    rfl
  refine ⟨openNow, ?_, ?_⟩
  · rw [sameFile, starts.bytesToWrite]
  · intro more
    rw [opened, openNow, opened, opened, requests_append, counted,
      sameMode, Bool.or_assoc, ← Bool.decide_or]
    congr 1
    exact decide_eq_decide.mpr Nat.add_pos_iff_pos_or_pos.symm

variable (decode)

/-- What one invocation of `in_ready` does, for the value of `ttyopen` it
works with. -/
theorem inReadyLoop_spec
    (ttyopen : Bool) (session : ShellSession)
    (inputs : List SessionInput)
    (room : session.aftty.bytesToWrite < shellBufferSize) :
    ∃ next,
      session.inReadyLoop decode ttyopen inputs = some next ∧
        Processed decode session inputs next ∧
        next.written =
          session.written ++ if ttyopen then payloads inputs else [] := by
  induction inputs generalizing session with
  | nil =>
      refine ⟨session, rfl, ⟨session, rfl, rfl⟩, ?_⟩
      simp [payloads]
  | cons input inputs inductionHypothesis =>
      have goesOn :
          ¬ (ttyopen = true ∧
            shellBufferSize ≤ session.aftty.bytesToWrite) := by
        omega
      rw [inReadyLoop, if_neg goesOn]
      have received := input.received
      cases typeEq : input.packet.type with
      | null =>
          rw [Packet.Received, typeEq] at received
          exact received.elim
      | data =>
          have part :=
            session.controlPart_gotData ttyopen input.packet.data
          have roomLeft :
              (session.gotData ttyopen input.packet.data).aftty.bytesToWrite
                < shellBufferSize := by
            rw [(eq_of_controlPart_eq part).1]
            exact room
          obtain ⟨next, returned, ⟨controlled, processed, same⟩,
              written⟩ :=
            inductionHypothesis _ roomLeft
          obtain ⟨other, processedHere, sameHere⟩ :=
            controlAll_congr part processed
          refine ⟨next, returned, ⟨other, ?_, same.trans sameHere⟩, ?_⟩
          · simpa [requests, typeEq] using processedHere
          · rw [written]
            cases ttyopen <;> simp [gotData, error, payloads, typeEq]
      | control =>
          rw [Packet.Received, typeEq] at received
          obtain ⟨middle, count, controlled, starts, _⟩ :=
            session.control_spec
              ⟨decode input.packet.data, input.answers⟩
          have handled :
              session.gotControlPacket decode input.packet.data
                  input.answers =
                some middle :=
            guard_bind_eq_some_iff.mpr ⟨received, controlled⟩
          obtain ⟨next, returned, ⟨other, processed, same⟩, written⟩ :=
            inductionHypothesis middle (starts.bytesToWrite ▸ room)
          refine ⟨next, ?_, ⟨other, ?_, same⟩, ?_⟩
          · exact bind_eq_some_iff.mpr ⟨middle, handled, returned⟩
          · simpa [requests, typeEq, controlAll, controlled]
              using processed
          · rw [written, starts.written]
            cases ttyopen <;> simp [payloads, typeEq]

private theorem inReady_spec
    (session : ShellSession) (inputs : List SessionInput)
    (room : session.aftty.bytesToWrite < shellBufferSize) :
    ∃ next,
      session.inReady decode inputs = some next ∧
        Processed decode session inputs next ∧
        next.written =
          session.written ++
            if session.aftty.isOpen then payloads inputs else [] :=
  inReadyLoop_spec decode session.aftty.isOpen session inputs room

/-- No data packet comes while the terminal is open. -/
def Quiet (session : ShellSession) (inputs : List SessionInput) : Prop :=
  ∀ before input after,
    inputs = before ++ input :: after →
    input.packet.type = .data →
    opened decode session before = false

variable {decode}

private theorem Quiet.payloads_of_open
    {session : ShellSession} {inputs : List SessionInput}
    (quiet : Quiet decode session inputs)
    (isOpen : session.aftty.isOpen = true) :
    payloads inputs = [] := by
  rw [payloads, List.filterMap_eq_nil_iff]
  intro input member
  obtain ⟨before, after, split⟩ := List.append_of_mem member
  cases typeEq : input.packet.type with
  | null | control =>
      rfl
  | data =>
      have notOpen := quiet before input after split typeEq
      rw [opened, isOpen, Bool.true_or] at notOpen
      cases notOpen

theorem Quiet.left
    {session : ShellSession} {front back : List SessionInput}
    (quiet : Quiet decode session (front ++ back)) :
    Quiet decode session front := by
  intro before input after split isData
  apply quiet before input (after ++ back) _ isData
  rw [split, List.append_assoc, List.cons_append]

theorem Quiet.right
    {session next : ShellSession} {front back : List SessionInput}
    (quiet : Quiet decode session (front ++ back))
    (processed : Processed decode session front next) :
    Quiet decode next back := by
  intro before input after split isData
  rw [processed.spec.2.2 before]
  apply quiet (front ++ before) input after _ isData
  rw [split, List.append_assoc]

variable (decode)

/-- What a sequence of invocations does: everything is written when the
terminal is open at the start, nothing when no data comes while it is
open. -/
theorem inReadyAll_spec
    (session : ShellSession) (batches : List (List SessionInput))
    (room : session.aftty.bytesToWrite < shellBufferSize) :
    ∃ final,
      session.inReadyAll decode batches = some final ∧
        Processed decode session batches.flatten final ∧
        (session.aftty.isOpen = true →
          final.written =
            session.written ++ payloads batches.flatten) ∧
        (Quiet decode session batches.flatten →
          final.written = session.written) := by
  induction batches generalizing session with
  | nil =>
      refine ⟨session, rfl, ⟨session, rfl, rfl⟩, ?_, ?_⟩
      · intro _
        simp [payloads]
      · intro _
        rfl
  | cons inputs batches inductionHypothesis =>
      obtain ⟨next, returned, processed, written⟩ :=
        session.inReady_spec decode inputs room
      obtain ⟨openNext, sameBytes, _⟩ := processed.spec
      obtain ⟨final, returnedRest, processedRest, writtenOpen,
          writtenQuiet⟩ :=
        inductionHypothesis next (sameBytes ▸ room)
      refine ⟨final, ?_, ?_, ?_, ?_⟩
      · exact bind_eq_some_iff.mpr ⟨next, returned, returnedRest⟩
      · exact processed.append processedRest
      · intro isOpen
        rw [opened, isOpen, Bool.true_or] at openNext
        rw [writtenOpen openNext, written, if_pos isOpen,
          List.flatten_cons, payloads_append, List.append_assoc]
      · intro quiet
        rw [writtenQuiet (quiet.right processed), written]
        cases isOpen : session.aftty.isOpen with
        | false =>
            simp
        | true =>
            simp [quiet.left.payloads_of_open isOpen]

/-- One invocation that starts with a closed terminal writes nothing, where
two of them write the data that follows the start of a shell. -/
theorem inReadyAll_differ
    {session : ShellSession} (before after : List SessionInput)
    {input : SessionInput}
    (room : session.aftty.bytesToWrite < shellBufferSize)
    (notOpen : session.aftty.isOpen = false)
    (openBefore : opened decode session before = true)
    (isData : input.packet.type = .data) :
    ∃ left right,
      session.inReadyAll decode [before ++ input :: after] = some left ∧
        session.inReadyAll decode [before, input :: after] = some right ∧
        left.written ≠ right.written := by
  obtain ⟨left, leftReturned, _, leftWritten⟩ :=
    session.inReady_spec decode (before ++ input :: after) room
  obtain ⟨middle, middleReturned, middleProcessed, middleWritten⟩ :=
    session.inReady_spec decode before room
  obtain ⟨middleOpen, middleBytes, _⟩ := middleProcessed.spec
  obtain ⟨right, rightReturned, _, rightWritten⟩ :=
    middle.inReady_spec decode (input :: after) (middleBytes ▸ room)
  have split :
      session.inReadyAll decode [before, input :: after] = some right :=
    bind_eq_some_iff.mpr
      ⟨middle, middleReturned,
        bind_eq_some_iff.mpr ⟨right, rightReturned, rfl⟩⟩
  refine ⟨left, right, ?_, split, ?_⟩
  · exact bind_eq_some_iff.mpr ⟨left, leftReturned, rfl⟩
  · rw [leftWritten, rightWritten, middleWritten, middleOpen, notOpen,
      openBefore]
    simp [payloads, isData]

/-- Two divisions of the packets lead to the same data and actions when the
terminal is open at the start or no data comes while it is open. -/
theorem inReadyAll_agree
    {session : ShellSession} (first second : List (List SessionInput))
    (room : session.aftty.bytesToWrite < shellBufferSize)
    (samePackets : first.flatten = second.flatten)
    (condition :
      session.aftty.isOpen = true ∨
        Quiet decode session second.flatten) :
    ∃ left right,
      session.inReadyAll decode first = some left ∧
        session.inReadyAll decode second = some right ∧
        left.written = right.written ∧
        left.actions = right.actions := by
  obtain ⟨left, leftReturned, leftProcessed, leftOpen, leftQuiet⟩ :=
    session.inReadyAll_spec decode first room
  obtain ⟨right, rightReturned, rightProcessed, rightOpen, rightQuiet⟩ :=
    session.inReadyAll_spec decode second room
  rw [samePackets] at leftProcessed leftOpen leftQuiet
  refine ⟨left, right, leftReturned, rightReturned, ?_,
    leftProcessed.unique rightProcessed⟩
  rcases condition with isOpen | quiet
  · rw [leftOpen isOpen, rightOpen isOpen]
  · rw [leftQuiet quiet, rightQuiet quiet]

end Batches

end ShellSession

/-! ## Batching -/

section Batching

variable (decode : Bytes → ControlMessage)

/-- After the earlier invocations, the data written and the control actions
do not depend on how the packets are divided among further invocations. -/
def BatchingIrrelevant
    (earlier : List (List SessionInput)) (inputs : List SessionInput) :
    Prop :=
  ∀ first second : List (List SessionInput),
    first.flatten = inputs →
    second.flatten = inputs →
    ∃ left right,
      ShellSession.create.inReadyAll decode (earlier ++ first) =
          some left ∧
        ShellSession.create.inReadyAll decode (earlier ++ second) =
          some right ∧
        left.written = right.written ∧
        left.actions = right.actions

/-- No data comes after the control message that starts a shell. -/
def NoDataAfterStart
    (earlier inputs : List SessionInput) : Prop :=
  ∀ before input after,
    inputs = before ++ input :: after →
    input.packet.type = .data →
    shellsStarted (requests decode (earlier ++ before)) = 0

private theorem opened_create (inputs : List SessionInput) :
    ShellSession.opened decode ShellSession.create inputs =
      decide (0 < shellsStarted (requests decode inputs)) :=
  rfl

/-- The session after some invocations: its terminal is open exactly when a
shell was started. -/
theorem inReadyAll_create
    (earlier : List (List SessionInput)) :
    ∃ session,
      session.aftty.bytesToWrite < shellBufferSize ∧
        (∀ batches,
          ShellSession.create.inReadyAll decode (earlier ++ batches) =
            session.inReadyAll decode batches) ∧
        (session.aftty.isOpen = true ↔
          0 < shellsStarted (requests decode earlier.flatten)) ∧
        ∀ inputs,
          ShellSession.opened decode session inputs = true ↔
            0 < shellsStarted
              (requests decode (earlier.flatten ++ inputs)) := by
  obtain ⟨session, returned, processed, _, _⟩ :=
    ShellSession.create.inReadyAll_spec decode earlier
      (show 0 < shellBufferSize by decide)
  obtain ⟨openNow, sameBytes, openLater⟩ := processed.spec
  refine ⟨session, ?_, ?_, ?_, ?_⟩
  · rw [sameBytes]
    decide
  · intro batches
    rw [ShellSession.inReadyAll] at returned
    rw [ShellSession.inReadyAll, List.foldlM_append, returned]
    rfl
  · rw [openNow, opened_create, decide_eq_true_iff]
  · intro inputs
    rw [openLater, opened_create, decide_eq_true_iff]

/-- Batching does not matter exactly when a shell was started before the
packets or no data among them comes after the start of a shell. -/
theorem batchingIrrelevant_iff
    (earlier : List (List SessionInput)) (inputs : List SessionInput) :
    BatchingIrrelevant decode earlier inputs ↔
      0 < shellsStarted (requests decode earlier.flatten) ∨
        NoDataAfterStart decode earlier.flatten inputs := by
  obtain ⟨session, room, continued, openNow, openLater⟩ :=
    inReadyAll_create decode earlier
  constructor
  · intro irrelevant
    by_contra! neither
    obtain ⟨notStarted, dataAfterStart⟩ := neither
    have notOpen : session.aftty.isOpen = false := by
      rw [← Bool.not_eq_true, openNow]
      omega
    apply dataAfterStart
    intro before input after split isData
    by_contra started
    obtain ⟨left, right, leftReturned, rightReturned, different⟩ :=
      ShellSession.inReadyAll_differ decode before after room notOpen
        ((openLater before).mpr (Nat.pos_of_ne_zero started)) isData
    obtain ⟨whole, cut, wholeReturned, cutReturned, same, _⟩ :=
      irrelevant [inputs] [before, input :: after] (by simp)
        (by simp [split])
    rw [continued, split, leftReturned] at wholeReturned
    rw [continued, rightReturned] at cutReturned
    cases wholeReturned
    cases cutReturned
    exact different same
  · intro condition first second firstFlatten secondFlatten
    obtain ⟨left, right, leftReturned, rightReturned, same⟩ :=
      ShellSession.inReadyAll_agree decode first second room
        (firstFlatten.trans secondFlatten.symm)
        (by
          rw [secondFlatten]
          refine condition.imp openNow.mpr ?_
          intro noData before input after split isData
          have none := noData before input after split isData
          rw [← Bool.not_eq_true, openLater]
          omega)
    refine ⟨left, right, ?_, ?_, same⟩
    · rw [continued, leftReturned]
    · rw [continued, rightReturned]

end Batching

/-- The commands as the archive packs them: an integer below 128 is one
byte. -/
def decodeCommand (msg : Bytes) : ControlMessage :=
  match msg with
  | [2] => .shell
  | _ => .unknown 0

def everythingWorks : Answers :=
  ⟨.ok 5, .ok (6, 7), .ok 100⟩

def shellCommand : SessionInput where
  packet := ⟨.control, [2]⟩
  answers := everythingWorks
  received := List.cons_ne_nil 2 []

def inputLine : SessionInput where
  packet := ⟨.data, [108, 115, 10]⟩
  answers := everythingWorks
  received := trivial

theorem input_line_lost_behind_shell_command :
    (ShellSession.create.inReadyAll decodeCommand
          [[shellCommand, inputLine]]).map
        ShellSession.written =
        some [] ∧
      (ShellSession.create.inReadyAll decodeCommand
            [[shellCommand], [inputLine]]).map
          ShellSession.written =
        some [[108, 115, 10]] ∧
      ¬ BatchingIrrelevant decodeCommand []
        [shellCommand, inputLine] := by
  have whole :
      (ShellSession.create.inReadyAll decodeCommand
            [[shellCommand, inputLine]]).map
          ShellSession.written =
        some [] := by
    rfl
  have cut :
      (ShellSession.create.inReadyAll decodeCommand
            [[shellCommand], [inputLine]]).map
          ShellSession.written =
        some [[108, 115, 10]] := by
    rfl
  refine ⟨whole, cut, ?_⟩
  intro irrelevant
  obtain ⟨left, right, leftReturned, rightReturned, same, _⟩ :=
    irrelevant [[shellCommand, inputLine]] [[shellCommand], [inputLine]]
      rfl rfl
  rw [List.nil_append] at leftReturned rightReturned
  rw [leftReturned] at whole
  rw [rightReturned] at cut
  have leftWritten : left.written = [] := Option.some.inj whole
  have rightWritten : right.written = [[108, 115, 10]] :=
    Option.some.inj cut
  rw [leftWritten, rightWritten] at same
  cases same

end StructuredStreams.Shell

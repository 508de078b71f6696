import StructuredStreams.Foundation.Run
import StructuredStreams.Shell.Endpoints

/-!
# A remote shell from start to exit

A client and a session exchange bytes in both directions; each direction
delivers its bytes in order and in chunks of any size.  Chunks arrive, files
and streams signal, the child ends and the stream of the client ends in any
order.  Through all of this the session handles the requests of the client in
order and nothing else, and the client exits with what became of the child.

The requests have to be within the limit on control messages, and no run goes
on after the client has input of its own.
-/

namespace StructuredStreams.Shell

open ByteCodec

variable {host : TermiosConstants}

structure RemoteShell (host : TermiosConstants) where
  client : ShellClient host
  /-- What the client wrote and the session did not receive yet. -/
  toSession : Bytes
  remote : RemoteSession
  /-- How the child ended, once `child_done` was called. -/
  finished : Option WaitStatus
  /-- What the session wrote and the client did not receive yet. -/
  toClient : Bytes
  /-- Whether the stream of the client is at its end. -/
  ended : Bool

inductive ShellEvent where
  /-- A chunk arrives at the session. -/
  | sessionReceives (count : Nat)
  /-- The file of the session signals that it wrote something. -/
  | sessionReady
  /-- The file has something to read, or the stream of the session wrote
  something. -/
  | sessionOutput
  | childDone (status : WaitStatus)
  /-- A chunk arrives at the client. -/
  | clientReceives (count : Nat)
  /-- The output file of the client signals that it wrote something. -/
  | clientReady
  /-- The input file of the client has something to read. -/
  | clientInput
  | streamEnds
  deriving DecidableEq, Repr

namespace ShellEvent

/-- Chunks are not empty, a child that was forked ends once, and a client
that has exited does nothing. -/
def Enabled (state : RemoteShell host) : ShellEvent → Prop
  | .sessionReceives count =>
      0 < count ∧ count ≤ state.toSession.length
  | .sessionReady => True
  | .sessionOutput =>
      state.remote.session.aftty.isOpen = true ∨ state.finished ≠ none
  | .childDone _ =>
      state.remote.session.children ≠ [] ∧ state.finished = none
  | .clientReceives count =>
      state.client.outcome = .running ∧
        0 < count ∧ count ≤ state.toClient.length
  | .clientReady | .clientInput | .streamEnds =>
      state.client.outcome = .running

instance (state : RemoteShell host) (event : ShellEvent) :
    Decidable (event.Enabled state) :=
  match event with
  | .sessionReceives _ => inferInstanceAs (Decidable (_ ∧ _))
  | .sessionReady => inferInstanceAs (Decidable True)
  | .sessionOutput => inferInstanceAs (Decidable (_ ∨ _))
  | .childDone _ => inferInstanceAs (Decidable (_ ∧ _))
  | .clientReceives _ => inferInstanceAs (Decidable (_ ∧ _ ∧ _))
  | .clientReady | .clientInput => inferInstanceAs (Decidable (_ = _))
  | .streamEnds => inferInstanceAs (Decidable (_ = _))

section Run

variable (archive : ControlArchive) (system : Nat → Answers)

/-- The state after an event, or none where an assertion fails, an archive
throws or nothing is defined any more. -/
def run (state : RemoteShell host) :
    ShellEvent → Option (RemoteShell host)
  | .sessionReceives count => do
      let shs := state.remote.shs.arriveChunk (state.toSession.take count)
      let remote ←
        { state.remote with shs := shs }.inReady archive system
      return { state with
        remote := remote
        toSession := state.toSession.drop count }
  | .sessionReady => do
      let remote ← state.remote.inReady archive system
      return { state with remote := remote }
  | .sessionOutput => do
      let remote ← state.remote.outReady
      return { state with remote := remote }
  | .childDone status => do
      let writes ← RemoteSession.childDone archive status
      return { state with
        finished := some status
        toClient := state.toClient ++ writes.flatten }
  | .clientReceives count => do
      let shs := state.client.shs.arriveChunk (state.toClient.take count)
      let client ←
        { state.client with shs := shs }.outReady archive state.ended
      return { state with
        client := client
        toClient := state.toClient.drop count }
  | .clientReady => do
      let client ← state.client.outReady archive state.ended
      return { state with client := client }
  | .clientInput => do
      let writes ← state.client.inReady
      return { state with toSession := state.toSession ++ writes.flatten }
  | .streamEnds => some { state with ended := true }

end Run

end ShellEvent

section System

variable (archive : ControlArchive) (system : Nat → Answers)

/-- The client has started and nothing has arrived. -/
def RemoteShell.start
    (ctlLen ctlGot : Nat) (terminal : Option (LocalTerminal host))
    (cmd : String) : Option (RemoteShell host) := do
  let client :=
    ShellClient.create ctlLen ctlGot (terminal.map LocalTerminal.tios)
  let (client, writes) ← client.start archive terminal cmd
  return ⟨client, writes.flatten, RemoteSession.create ctlLen ctlGot, none,
    [], false⟩

def ShellStep
    (state : RemoteShell host) (event : ShellEvent)
    (next : RemoteShell host) : Prop :=
  event.Enabled state ∧ event.run archive system state = some next

/-! ## What holds all the time -/

/-- What the client ended with is what became of the child. -/
def TellsOf (client : ShellClient host) : WaitStatus → Prop
  | .exited code => client.outcome = .exited (Int32.ofNat code.toNat)
  | .signaled signal core =>
      client.outcome = .exited 1 ∧
        client.told = some (signal.signame, core)
  | .other => False

/-- The client waits for the exit message or has ended with it. -/
inductive ClientState
    (terminal : Option (LocalTerminal host)) (state : RemoteShell host) :
    Prop
  | waiting :
      state.client.Waiting terminal →
      Carries state.client.shs state.toClient
        (exitMessages archive state.finished) →
      state.client.shs.unread = [] →
      ClientState terminal state
  | exited (status : WaitStatus) :
      state.client.terminal = terminal.map LocalTerminal.tios →
      state.finished = some status →
      TellsOf state.client status →
      ClientState terminal state
  | streamEnded :
      state.client.terminal = terminal.map LocalTerminal.tios →
      state.client.outcome = .exited 0 →
      state.ended = true →
      ClientState terminal state

/-- The session has handled the first requests of the client, up to its
record of data and errors, and the others are on their way. -/
structure SessionState
    (requests : List (WireRequest archive)) (state : RemoteShell host) :
    Prop where
  bound : state.remote.handled ≤ requests.length
  handled :
    ∃ ideal,
      ShellSession.create.controlAll
          (answered system 0 (requests.take state.remote.handled)) =
        some ideal ∧
      state.remote.session.controlPart = ideal.controlPart
  coming :
    Carries state.remote.shs state.toSession
      ((requests.drop state.remote.handled).map WireRequest.bytes)
  processed : state.remote.shs.unread = []

/-- A child that has ended was forked. -/
structure Consistent
    (terminal : Option (LocalTerminal host)) (cmd : String)
    (state : RemoteShell host) : Prop where
  session :
    SessionState archive system (clientRequests archive terminal cmd) state
  forked : state.finished ≠ none → state.remote.session.children ≠ []
  client : ClientState archive terminal state

variable {archive system} {terminal : Option (LocalTerminal host)}
  {cmd : String} {state : RemoteShell host}

/-- What a session has written and its errors do not matter. -/
theorem ShellSession.Starts.of_controlPart
    {session ideal : ShellSession} {count : Nat}
    (same : session.controlPart = ideal.controlPart)
    (starts : ShellSession.Starts count ShellSession.create ideal) :
    session.children.length = count ∧
      session.aftty.isOpen = decide (0 < count) ∧
      session.aftty.bytesToWrite = 0 := by
  obtain ⟨sameFile, _, sameActions⟩ :=
    ShellSession.eq_of_controlPart_eq same
  rw [ShellSession.children, sameFile, sameActions]
  exact ⟨starts.children.trans (Nat.zero_add _), starts.isOpen,
    starts.bytesToWrite⟩

/-- The file of the session is open once a child was forked, and nothing
waits in it. -/
theorem SessionState.file
    {requests : List (WireRequest archive)}
    (consistent : SessionState archive system requests state) :
    (state.remote.session.children ≠ [] →
        state.remote.session.aftty.isOpen = true) ∧
      state.remote.session.aftty.bytesToWrite < shellBufferSize := by
  obtain ⟨ideal, controlled, same⟩ := consistent.handled
  obtain ⟨final, returned, starts, _⟩ :=
    ShellSession.create.controlAll_spec
      (answered system 0 (requests.take state.remote.handled))
  rw [controlled] at returned
  cases returned
  obtain ⟨children, isOpen, bytes⟩ :=
    ShellSession.Starts.of_controlPart same starts
  constructor
  · intro forked
    rw [isOpen, ← children]
    exact decide_eq_true (List.length_pos_iff.mpr forked)
  · rw [bytes]
    decide

/-- `in_ready` handles what has arrived. -/
theorem SessionState.inReady
    {requests : List (WireRequest archive)}
    (consistent : SessionState archive system requests state)
    {shs : ShellStream} {flight : Bytes}
    (coming :
      Carries shs flight
        ((requests.drop state.remote.handled).map WireRequest.bytes)) :
    ∃ remote,
      { state.remote with shs := shs }.inReady archive system =
          some remote ∧
        SessionState archive system requests
          { state with remote := remote, toSession := flight } ∧
        (state.remote.session.children ≠ [] →
          remote.session.children ≠ []) := by
  obtain ⟨ideal, controlled, same⟩ := consistent.handled
  obtain ⟨remote, count, returned, bound, handled, controlledMore,
      processed, comingOn⟩ :=
    RemoteSession.inReadyLoop_spec system
      state.remote.session.aftty.isOpen
      { state.remote with shs := shs }
      (requests.drop state.remote.handled) coming consistent.file.2
      (Nat.lt_succ_self _)
  obtain ⟨other, controlledOther, sameOther⟩ :=
    ShellSession.controlAll_congr same controlledMore
  have taken :
      answered system 0 (requests.take remote.handled) =
        answered system 0 (requests.take state.remote.handled) ++
          answered system state.remote.handled
            ((requests.drop state.remote.handled).take count) := by
    rw [handled, List.take_add, answered_append, Nat.zero_add,
      List.length_take_of_le consistent.bound]
  refine ⟨remote, returned, ⟨?_, ⟨other, ?_, sameOther⟩, ?_, processed⟩,
    ?_⟩
  · rw [List.length_drop] at bound
    have before := consistent.bound
    change remote.handled ≤ requests.length
    rw [handled]
    dsimp only
    omega
  · rw [ShellSession.controlAll] at controlled controlledOther ⊢
    rw [taken, List.foldlM_append, controlled]
    exact controlledOther
  · rw [List.drop_drop] at comingOn
    rw [handled]
    exact comingOn
  · intro forked
    obtain ⟨final, returnedMore, starts, _⟩ :=
      state.remote.session.controlAll_spec
        (answered system state.remote.handled
          ((requests.drop state.remote.handled).take count))
    rw [controlledMore] at returnedMore
    cases returnedMore
    have grown := starts.children
    have positive := List.length_pos_iff.mpr forked
    exact List.length_pos_iff.mp (by omega)

/-- Telling the user of a signal leaves the terminal alone. -/
theorem ShellClient.report_terminal
    (client : ShellClient host) {status : WaitStatus}
    (ended : status ≠ .other) :
    (client.report status).terminal = client.termiosRestore.terminal := by
  cases status with
  | other =>
      exact absurd rfl ended
  | exited code =>
      rfl
  | signaled signal core =>
      rfl

private theorem ShellClient.report_tells
    (client : ShellClient host) {status : WaitStatus}
    (ended : status ≠ .other) :
    TellsOf (client.report status) status := by
  cases status with
  | other =>
      exact absurd rfl ended
  | exited code =>
      rfl
  | signaled signal core =>
      exact ⟨rfl, rfl⟩

/-- `out_ready` ends the client with what became of the child, or with the
end of the stream, or it goes on waiting. -/
theorem ShellClient.Waiting.outReady
    {client : ShellClient host} (waiting : client.Waiting terminal)
    {flight : Bytes}
    (coming :
      Carries client.shs flight (exitMessages archive state.finished)) :
    ∃ next,
      client.outReady archive state.ended = some next ∧
        ClientState archive terminal
          { state with client := next, toClient := flight } := by
  obtain ⟨shs, ⟨status, finished, ended, returned⟩ |
      ⟨processed, comingOn, returned⟩⟩ :=
    client.outReady_spec state.ended coming waiting.room
  · refine ⟨_, returned, .exited status ?_ finished ?_⟩
    · exact (ShellClient.report_terminal _ ended).trans waiting.restores
    · exact ShellClient.report_tells _ ended
  · refine ⟨_, returned, ?_⟩
    cases isEnd : state.ended with
    | true =>
        exact .streamEnded waiting.restores rfl rfl
    | false =>
        exact
          .waiting ⟨waiting.running, waiting.room, waiting.restores⟩
            comingOn processed

/-- A client that has not exited is waiting. -/
theorem ClientState.of_running
    (client : ClientState archive terminal state)
    (running : state.client.outcome = .running) :
    state.client.Waiting terminal ∧
      Carries state.client.shs state.toClient
        (exitMessages archive state.finished) ∧
      state.client.shs.unread = [] := by
  cases client with
  | waiting waiting coming processed =>
      exact ⟨waiting, coming, processed⟩
  | exited status _ _ tells =>
      cases status with
      | other =>
          exact tells.elim
      | exited code =>
          rw [TellsOf, running] at tells
          cases tells
      | signaled signal core =>
          have exited := tells.1
          rw [running] at exited
          cases exited
  | streamEnded _ exited _ =>
      rw [running] at exited
      cases exited

/-- What the session's side does is no concern of the client. -/
theorem ClientState.of_eq
    {next : RemoteShell host}
    (client : ClientState archive terminal state)
    (sameClient : next.client = state.client)
    (sameFlight : next.toClient = state.toClient)
    (sameFinished : next.finished = state.finished)
    (stillEnded : state.ended = true → next.ended = true) :
    ClientState archive terminal next := by
  cases client with
  | waiting waiting coming processed =>
      rw [← sameClient] at waiting coming processed
      rw [← sameFlight, ← sameFinished] at coming
      exact .waiting waiting coming processed
  | exited status restored finished tells =>
      rw [← sameClient] at restored tells
      rw [← sameFinished] at finished
      exact .exited status restored finished tells
  | streamEnded restored exited isEnd =>
      rw [← sameClient] at restored exited
      exact .streamEnded restored exited (stillEnded isEnd)

/-- `child_done` sends the exit message, if there is one. -/
theorem childDone_spec
    {shell : ShellStream} {flight : Bytes}
    (coming : Carries shell flight []) (status : WaitStatus) :
    ∃ writes,
      RemoteSession.childDone archive status = some writes ∧
        Carries shell (flight ++ writes.flatten)
          (exitMessages archive (some status)) := by
  cases status with
  | other =>
      refine ⟨[], rfl, ?_⟩
      rw [List.flatten_nil, List.append_nil]
      exact coming
  | exited code =>
      have sendable :=
        archive.exitMessage_sendable
          (WaitStatus.noConfusion : WaitStatus.exited code ≠ .other)
      obtain ⟨writes, sent, comingOn⟩ := coming.send sendable
      refine ⟨writes, ?_, comingOn⟩
      rw [RemoteSession.childDone,
        if_neg (List.length_pos_iff.mp sendable.1), sent]
  | signaled signal core =>
      have sendable :=
        archive.exitMessage_sendable
          (WaitStatus.noConfusion :
            WaitStatus.signaled signal core ≠ .other)
      obtain ⟨writes, sent, comingOn⟩ := coming.send sendable
      refine ⟨writes, ?_, comingOn⟩
      rw [RemoteSession.childDone,
        if_neg (List.length_pos_iff.mp sendable.1), sent]

/-! ## Every event -/

/-- What the client's side does is no concern of the session. -/
theorem SessionState.of_eq
    {requests : List (WireRequest archive)} {next : RemoteShell host}
    (session : SessionState archive system requests state)
    (sameRemote : next.remote = state.remote)
    (sameFlight : next.toSession = state.toSession) :
    SessionState archive system requests next where
  bound := by
    rw [sameRemote]
    exact session.bound
  handled := by
    rw [sameRemote]
    exact session.handled
  coming := by
    rw [sameRemote, sameFlight]
    exact session.coming
  processed := by
    rw [sameRemote]
    exact session.processed

/-- The client has acted. -/
theorem Consistent.clientActs
    (consistent : Consistent archive system terminal cmd state)
    {client : ShellClient host} {flight : Bytes}
    (acted :
      ClientState archive terminal
        { state with client := client, toClient := flight }) :
    Consistent archive system terminal cmd
      { state with client := client, toClient := flight } :=
  ⟨consistent.session.of_eq rfl rfl, consistent.forked, acted⟩

/-- The session has received what is in flight, up to the rest of it. -/
theorem Consistent.sessionActs
    (consistent : Consistent archive system terminal cmd state)
    {shs : ShellStream} {flight : Bytes}
    (coming :
      Carries shs flight
        (((clientRequests archive terminal cmd).drop
          state.remote.handled).map WireRequest.bytes)) :
    ∃ remote,
      { state.remote with shs := shs }.inReady archive system =
          some remote ∧
        Consistent archive system terminal cmd
          { state with remote := remote, toSession := flight } := by
  obtain ⟨remote, returned, handled, stillForked⟩ :=
    consistent.session.inReady coming
  refine
    ⟨remote, returned, handled, ?_,
      consistent.client.of_eq rfl rfl rfl id⟩
  intro finished
  exact stillForked (consistent.forked finished)

/-- The exit message is on its way then, unless the client has ended
before. -/
theorem Consistent.childDone
    (consistent : Consistent archive system terminal cmd state)
    (children : state.remote.session.children ≠ [])
    (notFinished : state.finished = none) (status : WaitStatus) :
    ∃ next,
      (ShellEvent.childDone status).run archive system state = some next ∧
        Consistent archive system terminal cmd next := by
  cases consistent.client with
  | waiting waiting coming processed =>
      rw [notFinished] at coming
      obtain ⟨writes, sent, comingOn⟩ := childDone_spec coming status
      exact ⟨_, bind_eq_some_iff.mpr ⟨writes, sent, rfl⟩,
        consistent.session.of_eq rfl rfl, fun _ => children,
        .waiting waiting comingOn processed⟩
  | exited _ _ finished _ =>
      rw [notFinished] at finished
      cases finished
  | streamEnded restored exited isEnd =>
      obtain ⟨writes, sent, _⟩ :=
        childDone_spec (Carries.create 0 0) status
      exact ⟨_, bind_eq_some_iff.mpr ⟨writes, sent, rfl⟩,
        consistent.session.of_eq rfl rfl, fun _ => children,
        .streamEnded restored exited isEnd⟩

private theorem take_ne_nil
    {flight : Bytes} {count : Nat} (positive : 0 < count)
    (available : count ≤ flight.length) :
    flight.take count ≠ [] := by
  apply List.ne_nil_of_length_pos
  rw [List.length_take_of_le available]
  exact positive

/-- Nothing is defined after the client has called `logger::fatal` for what it
could not read. -/
theorem ShellEvent.ne_clientInput
    {event : ShellEvent} {next : RemoteShell host}
    (returned : event.run archive system state = some next) :
    event ≠ .clientInput := by
  rintro rfl
  cases returned

/-- Every other event that can happen returns and keeps the two sides
consistent. -/
theorem Consistent.step
    (consistent : Consistent archive system terminal cmd state)
    {event : ShellEvent} (enabled : event.Enabled state)
    (notInput : event ≠ .clientInput) :
    ∃ next,
      event.run archive system state = some next ∧
        Consistent archive system terminal cmd next := by
  cases event with
  | sessionReceives count =>
      have chunk := take_ne_nil enabled.1 enabled.2
      have coming := consistent.session.coming
      rw [← List.take_append_drop count state.toSession] at coming
      obtain ⟨remote, returned, handled⟩ :=
        consistent.sessionActs (coming.arrive chunk)
      exact ⟨_, bind_eq_some_iff.mpr ⟨remote, returned, rfl⟩, handled⟩
  | sessionReady =>
      obtain ⟨remote, returned, handled⟩ :=
        consistent.sessionActs consistent.session.coming
      exact ⟨_, bind_eq_some_iff.mpr ⟨remote, returned, rfl⟩, handled⟩
  | sessionOutput =>
      have isOpen : state.remote.session.aftty.isOpen = true :=
        enabled.elim id fun finished =>
          consistent.session.file.1 (consistent.forked finished)
      have returned :
          state.remote.outReady =
            some
              { state.remote with
                session :=
                  state.remote.session.error
                    state.remote.session.aftty.errorString } :=
        guard_bind_of_holds isOpen
      have session := consistent.session
      exact ⟨_, bind_eq_some_iff.mpr ⟨_, returned, rfl⟩,
        ⟨session.bound, session.handled, session.coming,
          session.processed⟩,
        consistent.forked, consistent.client.of_eq rfl rfl rfl id⟩
  | childDone status =>
      exact consistent.childDone enabled.1 enabled.2 status
  | clientReceives count =>
      obtain ⟨running, positive, available⟩ := enabled
      obtain ⟨waiting, coming, _⟩ := consistent.client.of_running running
      have chunk := take_ne_nil positive available
      rw [← List.take_append_drop count state.toClient] at coming
      have arrived :
          ShellClient.Waiting terminal
            { state.client with
              shs := state.client.shs.arriveChunk
                (state.toClient.take count) } :=
        ⟨waiting.running, waiting.room, waiting.restores⟩
      obtain ⟨next, returned, acted⟩ :=
        arrived.outReady (coming.arrive chunk)
      exact ⟨_, bind_eq_some_iff.mpr ⟨next, returned, rfl⟩,
        consistent.clientActs acted⟩
  | clientReady =>
      obtain ⟨waiting, coming, _⟩ := consistent.client.of_running enabled
      obtain ⟨next, returned, acted⟩ := waiting.outReady coming
      exact ⟨_, bind_eq_some_iff.mpr ⟨next, returned, rfl⟩,
        consistent.clientActs acted⟩
  | clientInput =>
      exact absurd rfl notInput
  | streamEnds =>
      exact ⟨_, rfl, consistent.session.of_eq rfl rfl, consistent.forked,
        consistent.client.of_eq rfl rfl rfl fun _ => rfl⟩

/-- The client starts by sending its requests. -/
theorem RemoteShell.start_consistent
    (ctlLen ctlGot : Nat)
    (fits :
      ∀ request ∈ clientRequests archive terminal cmd,
        request.bytes.length ≤ maxControlMessage) :
    ∃ state,
      RemoteShell.start archive ctlLen ctlGot terminal cmd = some state ∧
        Consistent archive system terminal cmd state := by
  obtain ⟨client, writes, started, stream, waiting, coming⟩ :=
    ShellClient.start_spec ctlLen ctlGot terminal cmd
      (Carries.create ctlLen ctlGot) fits
  have start :
      RemoteShell.start archive ctlLen ctlGot terminal cmd =
        some
          ⟨client, writes.flatten, RemoteSession.create ctlLen ctlGot, none,
            [], false⟩ := by
    rw [RemoteShell.start]
    dsimp only
    rw [started]
    rfl
  refine ⟨_, start, ⟨Nat.zero_le _, ⟨_, rfl, rfl⟩, coming, rfl⟩, ?_,
    .waiting waiting ?_ ?_⟩
  · intro finished
    exact absurd rfl finished
  · rw [stream]
    exact Carries.create ctlLen ctlGot
  · rw [stream]
    rfl

/-- A run of the remote shell. -/
def ShellRun
    (archive : ControlArchive) (system : Nat → Answers)
    (terminal : Option (LocalTerminal host)) (cmd : String)
    (events : List ShellEvent) (state : RemoteShell host) : Prop :=
  ∃ ctlLen ctlGot start,
    RemoteShell.start archive ctlLen ctlGot terminal cmd = some start ∧
      Run (ShellStep archive system) start events state

/-- No run goes on after input at the client. -/
theorem ShellRun.no_clientInput
    {events : List ShellEvent}
    (run : ShellRun archive system terminal cmd events state) :
    .clientInput ∉ events := by
  obtain ⟨_, _, start, _, run⟩ := run
  refine run.induct (fun events _ => .clientInput ∉ events) ?_ ?_
  · exact List.not_mem_nil
  · intro events _ event _ _ noInput taken
    simp only [List.mem_append, List.mem_singleton, not_or]
    exact ⟨noInput, (ShellEvent.ne_clientInput taken.2).symm⟩

/-- The requests of the client are within the limit on control messages. -/
def RequestsFit
    (archive : ControlArchive) (terminal : Option (LocalTerminal host))
    (cmd : String) : Prop :=
  ∀ request ∈ clientRequests archive terminal cmd,
    request.bytes.length ≤ maxControlMessage

theorem ShellRun.consistent
    {events : List ShellEvent}
    (run : ShellRun archive system terminal cmd events state)
    (fits : RequestsFit archive terminal cmd) :
    Consistent archive system terminal cmd state := by
  obtain ⟨ctlLen, ctlGot, start, started, run⟩ := run
  obtain ⟨first, startedOther, initial⟩ :=
    RemoteShell.start_consistent ctlLen ctlGot fits
  rw [started] at startedOther
  cases startedOther
  refine
    run.induct (fun _ => Consistent archive system terminal cmd) initial ?_
  intro _ reached event next _ consistent taken
  obtain ⟨after, returned, stillConsistent⟩ :=
    consistent.step taken.1 (ShellEvent.ne_clientInput taken.2)
  rw [taken.2] at returned
  cases returned
  exact stillConsistent

/-- Messages that are nowhere in the bytes do not come. -/
theorem Carries.eq_nil
    {shell : ShellStream} {messages : List Bytes}
    (coming : Carries shell [] messages) (processed : shell.unread = []) :
    messages = [] := by
  have emitted := coming.emitted
  rw [processed] at emitted
  exact List.map_eq_nil_iff.mp emitted.symm

/-- At any moment of any run, of what can happen next all returns but input
at the client, and the session has done what the client asked for first, as
if it had been asked directly.  With nothing in flight it has done all of
it. -/
theorem requests_handled_in_order
    {events : List ShellEvent}
    (run : ShellRun archive system terminal cmd events state)
    (fits : RequestsFit archive terminal cmd) :
    (∀ event : ShellEvent, event.Enabled state →
        ((∃ next, event.run archive system state = some next) ↔
          event ≠ .clientInput)) ∧
      ∃ handled ideal,
        handled ≤ (clientRequests archive terminal cmd).length ∧
          (state.toSession = [] →
            handled = (clientRequests archive terminal cmd).length) ∧
          ShellSession.create.controlAll
              (answered system 0
                ((clientRequests archive terminal cmd).take handled)) =
            some ideal ∧
          state.remote.session.controlPart = ideal.controlPart := by
  have consistent := run.consistent fits
  obtain ⟨bound, ⟨ideal, controlled, same⟩, coming, processed⟩ :=
    consistent.session
  refine ⟨?_, state.remote.handled, ideal, bound, ?_, controlled, same⟩
  · intro event enabled
    constructor
    · rintro ⟨next, returned⟩
      exact ShellEvent.ne_clientInput returned
    · intro notInput
      obtain ⟨next, returned, _⟩ := consistent.step enabled notInput
      exact ⟨next, returned⟩
  · intro nothing
    rw [nothing] at coming
    have none := List.map_eq_nil_iff.mp (coming.eq_nil processed)
    exact Nat.le_antisymm bound (List.drop_eq_nil_iff.mp none)

end System

section Terminal

variable {archive : ControlArchive} {system : Nat → Answers}

/-- A shell on a pseudo-terminal is one child that is watched. -/
theorem ShellSession.run_on_terminal
    {session : ShellSession} {answers : Answers} {childpid : Nat}
    (terminal : 0 ≤ session.ptyfd) (noSocket : ¬ 0 ≤ session.ttyfd)
    (forked : answers.fork = .ok childpid) :
    ∃ next,
      session.run answers = some next ∧
        next.actions =
          session.actions ++ [.fork childpid, .watchPid childpid] := by
  have oneOpen :
      xor (decide (0 ≤ session.ptyfd)) (decide (0 ≤ session.ttyfd)) =
        true := by
    simp [terminal, noSocket]
  have noChildfd :
      (session.act (.fork childpid)).closeChildfd (-1) =
        session.act (.fork childpid) :=
    if_neg (by decide)
  rw [run, if_neg noSocket, if_neg (by omega), forkChild,
    guard_bind_of_holds oneOpen, forked]
  dsimp only
  rw [noChildfd]
  refine ⟨_, rfl, ?_⟩
  simp [act]

/-- The session that was asked for a terminal and then for a shell. -/
theorem ShellSession.controlAll_terminal_shell
    (cmd : String) (request : TerminalRequest) {first second : Answers}
    {fd childpid : Nat}
    (opened : first.posixOpenpt = .ok fd)
    (forked : second.fork = .ok childpid) :
    ∃ final,
      create.controlAll
          [⟨.terminal request, first⟩,
            ⟨if cmd = "" then .shell else .exec cmd, second⟩] =
        some final ∧
      final.actions =
        [.openPseudoTerminal fd request, .fork childpid,
          .watchPid childpid] := by
  let session :=
    { create with termname := request.termname, ptyfd := fd }.act
      (.openPseudoTerminal fd request)
  have terminal :
      create.control (.terminal request) first = some session := by
    have notYet : ¬ (0 : Int) ≤ create.ptyfd := by
      decide
    have noSocket : ¬ (0 : Int) ≤ create.ttyfd := by
      decide
    rw [control, openPty, if_neg notYet, if_neg noSocket, opened]
  obtain ⟨final, returned, actions⟩ :=
    session.run_on_terminal (Int.natCast_nonneg fd)
      (show ¬ (0 : Int) ≤ create.ttyfd by decide) forked
  have runs :
      session.control (if cmd = "" then .shell else .exec cmd) second =
        some final := by
    split <;> exact returned
  refine ⟨final, ?_, actions⟩
  rw [controlAll, List.foldlM_cons, terminal]
  change (session.control _ second >>= _) = _
  rw [runs]
  rfl

/-- Once the requests of a client with a terminal have arrived, the session
has opened one pseudo-terminal of that name, window and modes, and has started
one child on it, provided that the requests are within the limit and that
both `posix_openpt` and `fork` succeed. -/
theorem shell_runs_on_same_terminal
    {platform : Platform}
    {terminal : LocalTerminal platform.toTermiosConstants} {cmd : String}
    {events : List ShellEvent}
    {state : RemoteShell platform.toTermiosConstants}
    (run : ShellRun archive system (some terminal) cmd events state)
    (fits : RequestsFit archive (some terminal) cmd)
    (delivered : state.toSession = [])
    {fd childpid : Nat}
    (opened : (system 0).posixOpenpt = .ok fd)
    (forked : (system 1).fork = .ok childpid) :
    ∃ request : TerminalRequest,
      state.remote.session.actions =
          [.openPseudoTerminal fd request, .fork childpid,
            .watchPid childpid] ∧
        request.termname = terminal.termname ∧
        request.width = terminal.ws.wsCol.toUInt32 ∧
        request.height = terminal.ws.wsRow.toUInt32 ∧
        request.xpixels = terminal.ws.wsXpixel.toUInt32 ∧
        request.ypixels = terminal.ws.wsYpixel.toUInt32 ∧
        SameModes platform terminal.tios
          (platform.unpackModes request.tios) := by
  have consistent := run.consistent fits
  obtain ⟨bound, ⟨ideal, controlled, same⟩, coming, processed⟩ :=
    consistent.session
  rw [delivered] at coming
  have none := List.map_eq_nil_iff.mp (coming.eq_nil processed)
  rw [List.take_of_length_le (List.drop_eq_nil_iff.mp none)] at controlled
  obtain ⟨final, returned, actions⟩ :=
    ShellSession.controlAll_terminal_shell cmd terminal.request opened
      forked
  have asked :
      ShellSession.create.controlAll
          (answered system 0 (clientRequests archive (some terminal) cmd)) =
        some final :=
    returned
  rw [controlled] at asked
  cases asked
  refine ⟨terminal.request, ?_, rfl, rfl, rfl, rfl, rfl,
    sameModes_round_trip terminal.tios⟩
  rw [(ShellSession.eq_of_controlPart_eq same).2.2, actions]

/-! ## The exit -/

/-- In a run, which has no input at the client, that ends only with what
became of the child, or with the end of its stream, and leaves its terminal
as it was.  Once the exit message of a child that exited or was terminated by
a signal has arrived, it has ended. -/
theorem exit_tells_what_became_of_child
    {terminal : Option (LocalTerminal host)} {cmd : String}
    {events : List ShellEvent} {state : RemoteShell host}
    (run : ShellRun archive system terminal cmd events state)
    (fits : RequestsFit archive terminal cmd) :
    .clientInput ∉ events ∧
      (∀ code, state.client.outcome = .exited code →
        state.client.terminal = terminal.map LocalTerminal.tios ∧
          (code = 0 ∧ state.ended = true ∨
            ∃ status,
              state.finished = some status ∧
                TellsOf state.client status)) ∧
      ∀ status,
        state.finished = some status →
        status ≠ .other →
        state.toClient = [] →
        state.client.outcome ≠ .running := by
  have client := (run.consistent fits).client
  refine ⟨run.no_clientInput, ?_, ?_⟩
  · intro code exited
    cases client with
    | waiting waiting _ _ =>
        rw [waiting.running] at exited
        cases exited
    | exited status restored finished tells =>
        exact ⟨restored, Or.inr ⟨status, finished, tells⟩⟩
    | streamEnded restored exitedZero isEnd =>
        rw [exited] at exitedZero
        cases exitedZero
        exact ⟨restored, Or.inl ⟨rfl, isEnd⟩⟩
  · intro status finished ended nothing running
    obtain ⟨_, coming, processed⟩ := client.of_running running
    rw [nothing, finished] at coming
    have none := coming.eq_nil processed
    cases status with
    | other => exact ended rfl
    | exited code => cases none
    | signaled signal core => cases none

/-- The state after an event that can happen. -/
def ShellEvent.next
    (archive : ControlArchive) (system : Nat → Answers)
    (state : RemoteShell host) (event : ShellEvent) :
    Option (RemoteShell host) :=
  if event.Enabled state then event.run archive system state else none

/-- The state after a start and some events. -/
def runEvents
    (archive : ControlArchive) (system : Nat → Answers)
    (terminal : Option (LocalTerminal host)) (cmd : String)
    (events : List ShellEvent) : Option (RemoteShell host) := do
  let start ← RemoteShell.start archive 0 0 terminal cmd
  events.foldlM (ShellEvent.next archive system) start

private theorem ShellRun.of_runEvents
    {terminal : Option (LocalTerminal host)} {cmd : String}
    {events : List ShellEvent} {state : RemoteShell host}
    (returned :
      runEvents archive system terminal cmd events = some state) :
    ShellRun archive system terminal cmd events state := by
  obtain ⟨start, started, returned⟩ := bind_eq_some_iff.mp returned
  refine ⟨0, 0, start, started, Run.of_foldlM ?_ returned⟩
  intro before event after taken
  rw [ShellEvent.next] at taken
  split at taken
  · next enabled => exact ⟨enabled, taken⟩
  · cases taken

private theorem ShellRun.exists_of_runEvents
    {terminal : Option (LocalTerminal host)} {cmd : String}
    (events : List ShellEvent) (check : RemoteShell host → Bool)
    (found :
      (runEvents archive system terminal cmd events).any check = true) :
    ∃ state,
      ShellRun archive system terminal cmd events state ∧
        check state = true := by
  cases returned : runEvents archive system terminal cmd events with
  | none =>
      rw [returned] at found
      cases found
  | some state =>
      rw [returned] at found
      exact ⟨state, ShellRun.of_runEvents returned, found⟩

end Terminal

section Linux

def linuxTerminal : LocalTerminal Platform.linux.toTermiosConstants where
  termname := "xterm"
  ws := ⟨80, 24, 0, 0⟩
  tios := linuxModes

def linuxAnswers : Nat → Answers :=
  fun _ => ⟨.ok 5, .ok (6, 7), .ok 100⟩

private theorem linuxRequests_fit :
    RequestsFit ControlArchive.compact (some linuxTerminal) "" := by
  intro request member
  rcases List.mem_cons.mp member with first | later
  · rw [first]
    decide +kernel
  · rw [List.mem_singleton.mp later]
    decide +kernel

/-- The Terminal message in two chunks, cut within the modes. -/
def terminalArrives : List ShellEvent :=
  [.sessionReceives 20, .sessionReceives 16, .sessionReady]

/-- The Shell message, too. -/
def shellArrives : List ShellEvent :=
  terminalArrives ++ [.sessionReceives 3]

/-- The shell is killed, and the exit message arrives in two chunks. -/
def shellKilled : List ShellEvent :=
  shellArrives ++
    [.sessionOutput, .childDone (.signaled .sigkill true),
      .clientReceives 3, .clientReady, .clientReceives 11]

theorem requests_handled_in_order_half_way :
    ∃ state : RemoteShell Platform.linux.toTermiosConstants,
      state.toSession = [1, 129, 2] ∧
        ShellEvent.clientInput.Enabled state ∧
        (¬ ∃ next,
          ShellEvent.clientInput.run ControlArchive.compact linuxAnswers
            state = some next) ∧
        (∃ next,
          (ShellEvent.sessionReceives 3).run ControlArchive.compact
            linuxAnswers state = some next) ∧
        ∃ handled ideal,
          handled ≤
              (clientRequests ControlArchive.compact (some linuxTerminal)
                "").length ∧
            ShellSession.create.controlAll
                (answered linuxAnswers 0
                  ((clientRequests ControlArchive.compact
                    (some linuxTerminal) "").take handled)) =
              some ideal ∧
            state.remote.session.controlPart = ideal.controlPart := by
  obtain ⟨state, run, waits⟩ :=
    ShellRun.exists_of_runEvents terminalArrives
      (fun state =>
        decide
          (state.toSession = [1, 129, 2] ∧
            state.client.outcome = .running))
      (show (runEvents ControlArchive.compact linuxAnswers
          (some linuxTerminal) "" terminalArrives).any _ = true by
        decide +kernel)
  obtain ⟨arriving, running⟩ := of_decide_eq_true waits
  obtain ⟨returns, handled, ideal, bound, _, controlled, same⟩ :=
    requests_handled_in_order run linuxRequests_fit
  refine ⟨state, arriving, running, ?_, ?_, handled, ideal, bound,
    controlled, same⟩
  · rw [returns .clientInput running]
    exact not_not_intro rfl
  · rw [returns (.sessionReceives 3) (by
      rw [ShellEvent.Enabled, arriving]
      decide)]
    exact ShellEvent.noConfusion

theorem shell_runs_on_same_terminal_linux :
    ∃ (state : RemoteShell Platform.linux.toTermiosConstants)
      (request : TerminalRequest),
      state.remote.session.actions =
          [.openPseudoTerminal 5 request, .fork 100, .watchPid 100] ∧
        request.termname = "xterm" ∧
        SameModes .linux linuxModes
          (Platform.linux.unpackModes request.tios) := by
  obtain ⟨state, run, delivered⟩ :=
    ShellRun.exists_of_runEvents shellArrives
      (fun state => decide (state.toSession = []))
      (show (runEvents ControlArchive.compact linuxAnswers
          (some linuxTerminal) "" shellArrives).any _ = true by
        decide +kernel)
  obtain ⟨request, actions, termname, _, _, _, _, modes⟩ :=
    shell_runs_on_same_terminal run linuxRequests_fit
      (of_decide_eq_true delivered)
      (show (linuxAnswers 0).posixOpenpt = .ok 5 from rfl)
      (show (linuxAnswers 1).fork = .ok 100 from rfl)
  exact ⟨state, request, actions, termname, modes⟩

theorem exit_tells_of_killed_shell :
    ∃ state : RemoteShell Platform.linux.toTermiosConstants,
      state.client.outcome = .exited 1 ∧
        ∃ status,
          state.finished = some status ∧ TellsOf state.client status := by
  obtain ⟨state, run, checked⟩ :=
    ShellRun.exists_of_runEvents shellKilled
      (fun state =>
        decide (state.client.outcome = .exited 1 ∧ state.ended = false))
      (show (runEvents ControlArchive.compact linuxAnswers
          (some linuxTerminal) "" shellKilled).any _ = true by
        decide +kernel)
  obtain ⟨exited, notEnded⟩ := of_decide_eq_true checked
  obtain ⟨_, restored, _⟩ :=
    exit_tells_what_became_of_child run linuxRequests_fit
  obtain ⟨_, ⟨_, ended⟩ | told⟩ := restored 1 exited
  · rw [notEnded] at ended
    cases ended
  · exact ⟨state, exited, told⟩

end Linux

end StructuredStreams.Shell

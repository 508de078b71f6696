import StructuredStreams.Logger
import StructuredStreams.Shell.Messages

/-!
# The two ends of a remote shell

The client of `msh` sends its requests when it starts and then waits for the
exit message; the session answers the requests one by one and sends the exit
message when the child is done.  Between them are two shell streams.  The
file behind either end never returns nor takes data: `async_file::read` and
`async_file::write` return `-1`.  The session puts up with that.  The client
calls `logger::fatal`; it drops data that arrived and goes on, but after
input of its own it sends `-1` bytes, of which nothing is defined.

Left out are the system calls of the client that fail, also with
`logger::fatal`, and the messages of the log other than that and what the
user is told of a signal.
-/

namespace StructuredStreams.Shell

open ByteCodec

/-- The terminal on the standard input of the client: its name in the
environment, its window and its modes. -/
structure LocalTerminal (host : TermiosConstants) where
  termname : String
  ws : WinSize
  tios : Termios host

inductive ClientOutcome where
  | running
  | exited (code : Int32)
  deriving DecidableEq, Repr

structure ShellClient (host : TermiosConstants) where
  shs : ShellStream
  afin : AsyncFile
  afout : AsyncFile
  /-- The modes of the terminal on standard input, if it is one. -/
  terminal : Option (Termios host)
  /-- `termiosSave` while `termiosChanged`. -/
  termiosSave : Option (Termios host)
  /-- The signal that the user was told of, and whether it dumped core. -/
  told : Option (String × Bool)
  outcome : ClientOutcome

namespace ShellClient

variable {host : TermiosConstants}

/-- The constructor leaves two fields of the shell stream unset. -/
def create
    (ctlLen ctlGot : Nat) (terminal : Option (Termios host)) :
    ShellClient host where
  shs := ShellStream.create ctlLen ctlGot []
  afin := AsyncFile.create
  afout := AsyncFile.create
  terminal := terminal
  termiosSave := none
  told := none
  outcome := .running

/-- The handler that `setup_terminal` installs for the exit.  It does nothing
where no modes were saved. -/
def termiosRestore (client : ShellClient host) : ShellClient host :=
  { client with
    terminal := client.termiosSave.or client.terminal
    termiosSave := none }

def exit (client : ShellClient host) (code : Int32) : ShellClient host :=
  { client.termiosRestore with outcome := .exited code }

/-- Terminal input processing turned off. -/
def rawInput (tios : Termios host) : Termios host :=
  { tios with
    cLflag :=
      tios.cLflag &&& ~~~(host.icanon ||| host.isig ||| host.echo) }

/-- Save the modes for the exit and turn off input processing. -/
def takeTerminal (client : ShellClient host) (tios : Termios host) :
    ShellClient host :=
  { client with
    termiosSave := client.termiosSave.or (some tios)
    terminal := some (rawInput tios) }

/-- Set up input and output forwarding. -/
def openFiles (client : ShellClient host) (infd outfd : Int) :
    ShellClient host :=
  { client with
    afin := client.afin.open infd
    afout := client.afout.open outfd }

section Functions

variable (archive : ControlArchive)

/-- The new client and the writes to its stream. -/
def setupTerminal
    (client : ShellClient host) (terminal : LocalTerminal host) :
    Option (ShellClient host × List Bytes) := do
  let msg :=
    archive.terminalMessage terminal.termname terminal.ws terminal.tios
  let writes ← sendControl msg
  return (client.takeTerminal terminal.tios, writes)

def runShell
    (client : ShellClient host) (cmd : String) (infd outfd : Int) :
    Option (ShellClient host × List Bytes) := do
  let writes ← sendControl (archive.shellMessage cmd)
  return (client.openFiles infd outfd, writes)

/-- The calls of `main`. -/
def start
    (client : ShellClient host) (terminal : Option (LocalTerminal host))
    (cmd : String) : Option (ShellClient host × List Bytes) := do
  let (client, setup) ←
    match terminal with
    | none => some (client, [])
    | some terminal => client.setupTerminal archive terminal
  let (client, writes) ← client.runShell archive cmd 0 1
  return (client, setup ++ writes)

/-- `got_control_packet`, with none where the archive throws. -/
def gotControlPacket (client : ShellClient host) (msg : Bytes) :
    Option (ShellClient host) := do
  let (cmd, rest) ← (archive.int32.read msg).toOption
  if cmd = Command.exitStatus.number then do
    let (code, _) ← (archive.int32.read rest).toOption
    return client.exit code
  else if cmd = Command.exitSignal.number then do
    let (flags, rest) ← (archive.int32.read rest).toOption
    let (signame, rest) ← (archive.string.read rest).toOption
    let (_errmsg, rest) ← (archive.string.read rest).toOption
    let (_langtag, _) ← (archive.string.read rest).toOption
    let told := some (signame, decide (flags &&& 1 ≠ 0))
    return { client with told := told }.exit 1
  else
    return client

/-- The loop of `in_ready`, cut off after `fuel` passes, with its writes to
the stream.  Where nothing was read it returns: the file is at its end only
after `in_ready` itself has closed it. -/
def inReadyLoop :
    (fuel : Nat) → ShellClient host → Option (List Bytes)
  | 0, _ => none
  | fuel + 1, client =>
      match client.afin.read 4096 with
      -- `send_data` is called for `-1` bytes then.
      | none => Logger.fatal none
      | some [] => some []
      | some data => do
          let writes ← inReadyLoop fuel client
          return sendData data ++ writes

/-- One pass is enough, as `read` never returns data. -/
def inReady (client : ShellClient host) : Option (List Bytes) :=
  client.inReadyLoop 1

/-- The loop of `out_ready`, cut off after `fuel` passes.  The end of the
stream is asked for after a Null packet, and data is not written. -/
def outReadyLoop (atEnd : Bool) :
    (fuel : Nat) → ShellClient host → Option (ShellClient host)
  | 0, _ => none
  | fuel + 1, client =>
      if shellBufferSize ≤ client.afout.bytesToWrite then some client
      else do
        let (packet, shs) ← receive client.shs
        let client := { client with shs := shs }
        match packet.type with
        | .null => if atEnd then some (client.exit 0) else some client
        | .data => Logger.fatal (outReadyLoop atEnd fuel client)
        | .control => do
            let client ← client.gotControlPacket archive packet.data
            if client.outcome = .running then
              outReadyLoop atEnd fuel client
            else some client

/-- Every pass but the last takes a packet of one byte at least. -/
def outReady (client : ShellClient host) (atEnd : Bool) :
    Option (ShellClient host) :=
  client.outReadyLoop archive atEnd (client.shs.unread.length + 1)

end Functions

end ShellClient

/-- A session with its shell stream. -/
structure RemoteSession where
  shs : ShellStream
  session : ShellSession
  /-- The number of control messages so far. -/
  handled : Nat
  deriving DecidableEq, Repr

namespace RemoteSession

def create (ctlLen ctlGot : Nat) : RemoteSession :=
  ⟨ShellStream.create ctlLen ctlGot [], ShellSession.create, 0⟩

section Functions

variable (archive : ControlArchive) (system : Nat → Answers)

/-- The loop of `in_ready`, cut off after `fuel` passes.  The system answers
the calls made for one control message after the other. -/
def inReadyLoop (ttyopen : Bool) :
    (fuel : Nat) → RemoteSession → Option RemoteSession
  | 0, _ => none
  | fuel + 1, remote =>
      if ttyopen ∧
          shellBufferSize ≤ remote.session.aftty.bytesToWrite then
        some remote
      else do
        let (packet, shs) ← receive remote.shs
        match packet.type with
        | .null => some { remote with shs := shs }
        | .data =>
            inReadyLoop ttyopen fuel
              { remote with
                shs := shs
                session := remote.session.gotData ttyopen packet.data }
        | .control => do
            let session ←
              remote.session.gotControlMessage archive packet.data
                (system remote.handled)
            inReadyLoop ttyopen fuel ⟨shs, session, remote.handled + 1⟩

def inReady (remote : RemoteSession) : Option RemoteSession :=
  remote.inReadyLoop archive system remote.session.aftty.isOpen
    (remote.shs.unread.length + 1)

/-- `out_ready`, with none where its assertion fails. -/
def outReady (remote : RemoteSession) : Option RemoteSession := do
  guard (remote.session.aftty.isOpen = true)
  let session := remote.session.error remote.session.aftty.errorString
  return { remote with session := session }

/-- The writes of `child_done`. -/
def childDone (status : WaitStatus) : Option (List Bytes) :=
  let cmsg := archive.exitMessage status
  if cmsg = [] then some [] else sendControl cmsg

end Functions

end RemoteSession

/-- A control message and what the session takes it for. -/
structure WireRequest (archive : ControlArchive) where
  bytes : Bytes
  message : ControlMessage
  understood :
    ∀ (session : ShellSession) answers,
      session.gotControlMessage archive bytes answers =
        session.control message answers

section Requests

variable {host : TermiosConstants} (archive : ControlArchive)

def LocalTerminal.request (terminal : LocalTerminal host) :
    TerminalRequest :=
  terminalRequest terminal.termname terminal.ws
    (host.packModes terminal.tios)

def WireRequest.terminal (terminal : LocalTerminal host) :
    WireRequest archive where
  bytes :=
    archive.terminalMessage terminal.termname terminal.ws terminal.tios
  message := .terminal terminal.request
  understood := fun session answers =>
    session.gotControlMessage_terminal _ _ _ answers

def WireRequest.shell (cmd : String) : WireRequest archive where
  bytes := archive.shellMessage cmd
  message := if cmd = "" then .shell else .exec cmd
  understood := fun session answers =>
    session.gotControlMessage_shell cmd answers

/-- What the client asks for when it starts. -/
def clientRequests
    (terminal : Option (LocalTerminal host)) (cmd : String) :
    List (WireRequest archive) :=
  (terminal.map (WireRequest.terminal archive)).toList ++
    [WireRequest.shell archive cmd]

variable {archive}

/-- The requests with the answers of the system, from the given one on. -/
def answered (system : Nat → Answers) :
    Nat → List (WireRequest archive) → List Request
  | _, [] => []
  | index, request :: requests =>
      ⟨request.message, system index⟩ ::
        answered system (index + 1) requests

theorem answered_append
    (system : Nat → Answers) (index : Nat)
    (front back : List (WireRequest archive)) :
    answered system index (front ++ back) =
      answered system index front ++
        answered system (index + front.length) back := by
  induction front generalizing index with
  | nil =>
      rfl
  | cons request front inductionHypothesis =>
      rw [List.cons_append, answered, inductionHypothesis, answered,
        List.length_cons, List.cons_append, Nat.add_assoc,
        Nat.add_comm 1]

end Requests

section Specs

variable {host : TermiosConstants} {archive : ControlArchive}
  {flight : Bytes}

/-- The client waits for the exit message, and an exit would restore the
modes of the terminal. -/
structure ShellClient.Waiting
    (terminal : Option (LocalTerminal host)) (client : ShellClient host) :
    Prop where
  running : client.outcome = .running
  room : client.afout.bytesToWrite < shellBufferSize
  restores :
    client.termiosRestore.terminal = terminal.map LocalTerminal.tios

/-- Setting up the terminal sends the first request. -/
theorem ShellClient.setupTerminal_eq_some
    (client : ShellClient host) (terminal : LocalTerminal host)
    {writes : List Bytes}
    (sent :
      sendControl (WireRequest.terminal archive terminal).bytes =
        some writes) :
    client.setupTerminal archive terminal =
      some (client.takeTerminal terminal.tios, writes) := by
  rw [WireRequest.terminal] at sent
  rw [setupTerminal]
  dsimp only at sent ⊢
  rw [sent]
  rfl

private theorem ShellClient.runShell_eq_some
    (client : ShellClient host) (cmd : String) (infd outfd : Int)
    {writes : List Bytes}
    (sent :
      sendControl (WireRequest.shell archive cmd).bytes = some writes) :
    client.runShell archive cmd infd outfd =
      some (client.openFiles infd outfd, writes) := by
  rw [WireRequest.shell] at sent
  dsimp only at sent
  rw [runShell, sent]
  rfl

/-- The start of the client sends its requests, and then it waits. -/
theorem ShellClient.start_spec
    (ctlLen ctlGot : Nat) (terminal : Option (LocalTerminal host))
    (cmd : String) {shell : ShellStream}
    (carries : Carries shell [] [])
    (fits :
      ∀ request ∈ clientRequests archive terminal cmd,
        request.bytes.length ≤ maxControlMessage) :
    ∃ next writes,
      (create ctlLen ctlGot (terminal.map LocalTerminal.tios)).start
            archive terminal cmd =
          some (next, writes) ∧
        next.shs = ShellStream.create ctlLen ctlGot [] ∧
        next.Waiting terminal ∧
        Carries shell writes.flatten
          ((clientRequests archive terminal cmd).map
            WireRequest.bytes) := by
  have shellNonempty :
      0 < (WireRequest.shell archive cmd).bytes.length :=
    List.length_pos_iff.mpr (archive.shellMessage_ne_nil cmd)
  have shellFits := fits (WireRequest.shell archive cmd) (by
    simp [clientRequests])
  have noBytes : 0 < shellBufferSize := by
    decide
  cases terminal with
  | none =>
      obtain ⟨writes, sent, carriesOn⟩ :=
        carries.send ⟨shellNonempty, shellFits⟩
      refine
        ⟨(create ctlLen ctlGot none).openFiles 0 1, writes, ?_, rfl,
          ⟨rfl, noBytes, rfl⟩, carriesOn⟩
      rw [start]
      dsimp only [Option.map_none]
      rw [Option.bind_eq_bind, Option.bind_some,
        runShell_eq_some _ cmd 0 1 sent]
      rfl
  | some terminal =>
      have nonempty :
          0 < (WireRequest.terminal archive terminal).bytes.length :=
        List.length_pos_iff.mpr (archive.terminalMessage_ne_nil _ _ _)
      have terminalFits := fits (WireRequest.terminal archive terminal) (by
        simp [clientRequests])
      obtain ⟨setup, sentSetup, carriesSetup⟩ :=
        carries.send ⟨nonempty, terminalFits⟩
      obtain ⟨writes, sent, carriesOn⟩ :=
        carriesSetup.send ⟨shellNonempty, shellFits⟩
      refine
        ⟨((create ctlLen ctlGot (some terminal.tios)).takeTerminal
            terminal.tios).openFiles 0 1,
          setup ++ writes, ?_, rfl, ⟨rfl, noBytes, rfl⟩, ?_⟩
      · rw [start]
        dsimp only [Option.map_some]
        rw [setupTerminal_eq_some _ terminal sentSetup,
          Option.bind_eq_bind, Option.bind_some,
          runShell_eq_some _ cmd 0 1 sent]
        rfl
      · rw [List.flatten_append]
        exact carriesOn

/-- `in_ready` handles the requests that have arrived as a whole and leaves
nothing to process. -/
theorem RemoteSession.inReadyLoop_spec
    (system : Nat → Answers) (ttyopen : Bool) {fuel : Nat}
    (remote : RemoteSession) (requests : List (WireRequest archive))
    (carries :
      Carries remote.shs flight (requests.map WireRequest.bytes))
    (room : remote.session.aftty.bytesToWrite < shellBufferSize)
    (enough : remote.shs.unread.length < fuel) :
    ∃ next count,
      remote.inReadyLoop archive system ttyopen fuel = some next ∧
        count ≤ requests.length ∧
        next.handled = remote.handled + count ∧
        remote.session.controlAll
            (answered system remote.handled (requests.take count)) =
          some next.session ∧
        next.shs.unread = [] ∧
        Carries next.shs flight
          ((requests.drop count).map WireRequest.bytes) := by
  induction fuel generalizing remote requests with
  | zero =>
      omega
  | succ fuel inductionHypothesis =>
      obtain ⟨packet, shs, received, ⟨isNull, processed, carriesOn⟩ |
          ⟨isControl, shorter, rest, split, _, carriesOn⟩⟩ :=
        carries.receive
      · refine ⟨{ remote with shs := shs }, 0, ?_, Nat.zero_le _, rfl, rfl,
          processed, carriesOn⟩
        rw [inReadyLoop, if_neg (by omega), received]
        simp only [Option.bind_eq_bind, Option.bind_some, isNull]
      · cases requests with
        | nil =>
            cases split
        | cons request requests =>
            injection split with bytesEq restEq
            obtain ⟨session, _, controlled, starts, _⟩ :=
              remote.session.control_spec
                ⟨request.message, system remote.handled⟩
            have understood :=
              request.understood remote.session (system remote.handled)
            rw [controlled, bytesEq] at understood
            rw [← restEq] at carriesOn
            obtain ⟨next, count, returned, bound, handled, controlledAll,
                processed, carriesRest⟩ :=
              inductionHypothesis ⟨shs, session, remote.handled + 1⟩
                requests carriesOn (starts.bytesToWrite ▸ room) (by
                  change shs.unread.length < fuel
                  omega)
            refine ⟨next, count + 1, ?_, Nat.succ_le_succ bound, ?_, ?_,
              processed, carriesRest⟩
            · rw [inReadyLoop, if_neg (by omega), received]
              simp only [Option.bind_eq_bind, Option.bind_some, isControl,
                understood]
              exact returned
            · rw [handled]
              exact Nat.add_right_comm _ 1 count
            · rw [List.take_succ_cons, answered,
                ShellSession.controlAll, List.foldlM_cons, controlled]
              exact controlledAll

/-- What the client does when it is told how the child ended. -/
def ShellClient.report (client : ShellClient host) :
    WaitStatus → ShellClient host
  | .exited code => client.exit (Int32.ofNat code.toNat)
  | .signaled signal core =>
      { client with told := some (signal.signame, core) }.exit 1
  | .other => client

/-- The flags of an ExitSignal message tell whether core was dumped. -/
theorem signalFlags_core (core : Bool) :
    decide (ControlArchive.signalFlags core &&& 1 ≠ 0) = core := by
  cases core <;> decide

private theorem ShellClient.gotControlPacket_exitMessage
    (client : ShellClient host) {status : WaitStatus}
    (ended : status ≠ .other) :
    client.gotControlPacket archive (archive.exitMessage status) =
      some (client.report status) := by
  cases status with
  | other =>
      exact absurd rfl ended
  | exited code =>
      have code := archive.int32.read_write (Int32.ofNat code.toNat) []
      rw [List.append_nil] at code
      rw [gotControlPacket, ControlArchive.exitMessage,
        toOption_bind_ok (archive.read_command _ _)]
      dsimp only
      rw [if_pos rfl, toOption_bind_ok code]
      rfl
  | signaled signal core =>
      have langtag := archive.string.read_write "" []
      rw [List.append_nil] at langtag
      rw [gotControlPacket, ControlArchive.exitMessage,
        toOption_bind_ok (archive.read_command _ _)]
      dsimp only
      rw [if_neg (by decide), if_pos rfl,
        toOption_bind_ok (archive.int32.read_write _ _),
        toOption_bind_ok (archive.string.read_write _ _),
        toOption_bind_ok (archive.string.read_write _ _),
        toOption_bind_ok langtag]
      dsimp only
      rw [signalFlags_core]
      rfl

/-- The exit message of a child, if there is one. -/
def exitMessages (archive : ControlArchive) :
    Option WaitStatus → List Bytes
  | none | some .other => []
  | some (.exited code) => [archive.exitMessage (.exited code)]
  | some (.signaled signal core) =>
      [archive.exitMessage (.signaled signal core)]

private theorem exitMessages_eq_cons
    {finished : Option WaitStatus} {msg : Bytes} {rest : List Bytes}
    (found : exitMessages archive finished = msg :: rest) :
    ∃ status,
      finished = some status ∧ status ≠ .other ∧
        msg = archive.exitMessage status := by
  cases finished with
  | none =>
      cases found
  | some status =>
      cases status with
      | other =>
          cases found
      | exited code =>
          injection found with same _
          exact ⟨_, rfl, WaitStatus.noConfusion, same.symm⟩
      | signaled signal core =>
          injection found with same _
          exact ⟨_, rfl, WaitStatus.noConfusion, same.symm⟩

/-- `out_ready` does what the exit message says once it has arrived as a
whole, and otherwise leaves nothing to process. -/
theorem ShellClient.outReady_spec
    (client : ShellClient host) (atEnd : Bool)
    {finished : Option WaitStatus}
    (carries :
      Carries client.shs flight (exitMessages archive finished))
    (room : client.afout.bytesToWrite < shellBufferSize) :
    ∃ shs,
      (∃ status,
          finished = some status ∧ status ≠ .other ∧
            client.outReady archive atEnd =
              some ({ client with shs := shs }.report status)) ∨
        shs.unread = [] ∧
          Carries shs flight (exitMessages archive finished) ∧
          client.outReady archive atEnd =
            some
              (if atEnd then { client with shs := shs }.exit 0
                else { client with shs := shs }) := by
  have goesOn : ¬ shellBufferSize ≤ client.afout.bytesToWrite := by
    omega
  obtain ⟨packet, shs, received, ⟨isNull, processed, carriesOn⟩ |
      ⟨isControl, _, rest, split, _, _⟩⟩ :=
    carries.receive
  · refine ⟨shs, Or.inr ⟨processed, carriesOn, ?_⟩⟩
    rw [outReady, outReadyLoop, if_neg goesOn, received]
    simp only [Option.bind_eq_bind, Option.bind_some, isNull]
    cases atEnd <;> rfl
  · obtain ⟨status, isFinished, ended, bytesEq⟩ :=
      exitMessages_eq_cons split
    refine ⟨shs, Or.inl ⟨status, isFinished, ended, ?_⟩⟩
    have exits :
        ({ client with shs := shs }.report status).outcome ≠
          .running := by
      cases status with
      | other => exact absurd rfl ended
      | exited code => exact ClientOutcome.noConfusion
      | signaled signal core => exact ClientOutcome.noConfusion
    rw [outReady, outReadyLoop, if_neg goesOn, received]
    simp only [Option.bind_eq_bind, Option.bind_some, isControl, bytesEq]
    rw [gotControlPacket_exitMessage _ ended, Option.bind_some,
      if_neg exits]

end Specs

end StructuredStreams.Shell

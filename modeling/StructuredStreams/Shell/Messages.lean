import StructuredStreams.Shell.Delivery
import StructuredStreams.Shell.ModeRoundTrip

/-!
# The control messages on the wire

The client writes a Terminal and a Shell or an Exec message, the session an
ExitStatus or an ExitSignal message, and the other side reads them field by
field.  The writer does not always use the type of the reader: a command is
written as an enumerator and read as an `int32_t`, the sizes of a window are
written as `unsigned short` and read as `uint32_t`.
-/

namespace StructuredStreams.Shell

open ByteCodec

inductive Command where
  | invalid
  | terminal
  | shell
  | exec
  | exitStatus
  | exitSignal
  deriving DecidableEq, Repr

def Command.number : Command → Int32
  | .invalid => 0
  | .terminal => 1
  | .shell => 2
  | .exec => 3
  | .exitStatus => 4
  | .exitSignal => 5

/-- What the serialization library provides for control messages.  A number
is read back as a wider type than it was written as, and short values have
short encodings. -/
structure ControlArchive extends Archive where
  int32 : Codec Int32
  string : Codec String
  writeCommand : Command → Bytes
  writeUint16 : UInt16 → Bytes
  read_command :
    ∀ command rest,
      int32.read (writeCommand command ++ rest) =
        .ok (command.number, rest)
  read_uint16 :
    ∀ value rest,
      uint32.read (writeUint16 value ++ rest) = .ok (value.toUInt32, rest)
  command_length : ∀ command, (writeCommand command).length ≤ 5
  int32_length : ∀ value, (int32.write value).length ≤ 5
  string_length :
    ∀ text, text.utf8ByteSize < 32 → (string.write text).length ≤ 32

section Compact

open Service

def stringBytes (text : String) : Bytes :=
  text.toUTF8.data.toList

def bytesString (bytes : Bytes) : String :=
  if valid : ByteArray.IsValidUTF8 ⟨bytes.toArray⟩ then
    String.fromUTF8 ⟨bytes.toArray⟩ valid
  else ""

private theorem bytesString_stringBytes (text : String) :
    bytesString (stringBytes text) = text := by
  have valid :
      ByteArray.IsValidUTF8 ⟨(stringBytes text).toArray⟩ :=
    text.isValidUTF8
  rw [bytesString, dif_pos valid]
  rfl

private theorem writeNumber_length (number : Nat) :
    (writeNumber number).length ≤ 5 := by
  rw [writeNumber]
  split
  · exact Nat.le_of_ble_eq_true rfl
  · split
    · simp [writeDigits_length]
    · split <;> simp [writeDigits_length]

def Archive.compactInt32 : Codec Int32 :=
  Flurry.compact.uint32.convert Int32.toBitVec Int32.ofBitVec fun _ => rfl

def Archive.compactString : Codec String :=
  Flurry.compact.string.convert stringBytes bytesString
    bytesString_stringBytes

/-- Numbers take the same form whatever their type. -/
def ControlArchive.compact : ControlArchive where
  toArchive := Archive.compact
  int32 := Archive.compactInt32
  string := Archive.compactString
  writeCommand := fun command => Archive.compactInt32.write command.number
  writeUint16 := fun value => Archive.compact.uint32.write value.toUInt32
  read_command := fun command =>
    Archive.compactInt32.read_write command.number
  read_uint16 := fun value =>
    Archive.compact.uint32.read_write value.toUInt32
  command_length := fun command => writeNumber_length _
  int32_length := fun value => writeNumber_length _
  string_length := by
    intro text short
    have bytes : (stringBytes text).length < 32 := short
    have written :
        Archive.compactString.write text = writeName (stringBytes text) :=
      rfl
    rw [written, writeName, if_pos bytes, List.length_cons]
    exact bytes

end Compact

/-- `struct winsize` -/
structure WinSize where
  wsCol : UInt16
  wsRow : UInt16
  wsXpixel : UInt16
  wsYpixel : UInt16
  deriving DecidableEq, Repr

/-- The request that a session reads out of a Terminal message. -/
def terminalRequest
    (termname : String) (ws : WinSize) (modes : TerminalModes) :
    TerminalRequest where
  termname := termname
  width := ws.wsCol.toUInt32
  height := ws.wsRow.toUInt32
  xpixels := ws.wsXpixel.toUInt32
  ypixels := ws.wsYpixel.toUInt32
  tios := modes

namespace ControlArchive

variable (archive : ControlArchive) {host : TermiosConstants}

/-- The message of `setup_terminal`. -/
def terminalMessage
    (termname : String) (ws : WinSize) (tios : Termios host) : Bytes :=
  archive.writeCommand .terminal ++
    (archive.string.write termname ++
      (archive.writeUint16 ws.wsCol ++
        (archive.writeUint16 ws.wsRow ++
          (archive.writeUint16 ws.wsXpixel ++
            (archive.writeUint16 ws.wsYpixel ++
              archive.termpack host tios)))))

/-- The message of `run_shell`. -/
def shellMessage (cmd : String) : Bytes :=
  if cmd = "" then archive.writeCommand .shell
  else archive.writeCommand .exec ++ archive.string.write cmd

/-- The rest of a Terminal message, without the conversion of the modes into
a `termios` structure. -/
def readTerminal : Reader TerminalRequest :=
  archive.string.read >>= fun termname =>
  archive.uint32.read >>= fun width =>
  archive.uint32.read >>= fun height =>
  archive.uint32.read >>= fun xpixels =>
  archive.uint32.read >>= fun ypixels =>
  archive.readModes >>= fun modes =>
  pure ⟨termname, width, height, xpixels, ypixels, modes⟩

private theorem readTerminal_written
    (termname : String) (ws : WinSize) (tios : Termios host) :
    archive.readTerminal
        (archive.string.write termname ++
          (archive.writeUint16 ws.wsCol ++
            (archive.writeUint16 ws.wsRow ++
              (archive.writeUint16 ws.wsXpixel ++
                (archive.writeUint16 ws.wsYpixel ++
                  archive.termpack host tios))))) =
      .ok (terminalRequest termname ws (host.packModes tios), []) := by
  have modes :=
    archive.readModes_writeModes (host.packModes tios) []
  rw [List.append_nil] at modes
  rw [readTerminal, Codec.read_bind,
    bind_apply_ok (archive.read_uint16 _ _),
    bind_apply_ok (archive.read_uint16 _ _),
    bind_apply_ok (archive.read_uint16 _ _),
    bind_apply_ok (archive.read_uint16 _ _), Archive.termpack,
    bind_apply_ok modes]
  rfl

/-- A command takes at least one byte: another one is read differently. -/
theorem writeCommand_ne_nil (command : Command) :
    archive.writeCommand command ≠ [] := by
  intro empty
  obtain ⟨other, different⟩ :
      ∃ other : Command, other.number ≠ command.number := by
    cases command with
    | invalid => exact ⟨.shell, by decide⟩
    | terminal | shell | exec | exitStatus | exitSignal =>
        exact ⟨.invalid, by decide⟩
  have readNothing :=
    archive.read_command command (archive.writeCommand other ++ [])
  rw [empty, List.nil_append, archive.read_command] at readNothing
  injection readNothing with pairEq
  injection pairEq with numberEq _
  exact different numberEq

theorem terminalMessage_ne_nil
    (termname : String) (ws : WinSize) (tios : Termios host) :
    archive.terminalMessage termname ws tios ≠ [] :=
  List.append_ne_nil_of_left_ne_nil (archive.writeCommand_ne_nil _) _

theorem shellMessage_ne_nil (cmd : String) :
    archive.shellMessage cmd ≠ [] := by
  rw [shellMessage]
  split
  · exact archive.writeCommand_ne_nil _
  · exact
      List.append_ne_nil_of_left_ne_nil (archive.writeCommand_ne_nil _) _

end ControlArchive

namespace ShellSession

section Reading

variable (archive : ControlArchive)

/-- `open_pty`, which reads the message after its checks. -/
def readPty
    (session : ShellSession) (rest : Bytes) (answers : Answers) :
    Option ShellSession :=
  if 0 ≤ session.ptyfd then
    some (session.error "Already have a pseudo-terminal")
  else if 0 ≤ session.ttyfd then
    some (session.error "Already have a remote shell I/O stream")
  else do
    let (request, _) ← (archive.readTerminal rest).toOption
    return session.openPty request answers

/-- `do_exec` -/
def readExec
    (session : ShellSession) (rest : Bytes) (answers : Answers) :
    Option ShellSession := do
  let (cmd, _) ← (archive.string.read rest).toOption
  session.doExec cmd answers

/-- `got_control_packet`, with none where its assertion fails or the archive
throws. -/
def gotControlMessage
    (session : ShellSession) (msg : Bytes) (answers : Answers) :
    Option ShellSession := do
  guard (0 < msg.length)
  let (cmd, rest) ← (archive.int32.read msg).toOption
  if cmd = Command.terminal.number then
    session.readPty archive rest answers
  else if cmd = Command.shell.number then
    session.runShell answers
  else if cmd = Command.exec.number then
    session.readExec archive rest answers
  else
    return session.act (.ignore cmd.toInt)

variable {archive} {host : TermiosConstants}

theorem gotControlMessage_terminal
    (session : ShellSession) (termname : String) (ws : WinSize)
    (tios : Termios host) (answers : Answers) :
    session.gotControlMessage archive
        (archive.terminalMessage termname ws tios) answers =
      session.control
        (.terminal (terminalRequest termname ws (host.packModes tios)))
        answers := by
  have nonempty := archive.terminalMessage_ne_nil termname ws tios
  rw [gotControlMessage,
    guard_bind_of_holds (List.length_pos_iff.mpr nonempty),
    ControlArchive.terminalMessage, archive.read_command]
  change session.readPty archive _ answers = _
  rw [readPty, archive.readTerminal_written]
  change _ = some (session.openPty _ answers)
  by_cases terminal : 0 ≤ session.ptyfd
  · rw [if_pos terminal, openPty, if_pos terminal]
  · rw [if_neg terminal]
    by_cases socket : 0 ≤ session.ttyfd
    · rw [if_pos socket, openPty, if_neg terminal, if_pos socket]
    · rw [if_neg socket]
      rfl

theorem gotControlMessage_shell
    (session : ShellSession) (cmd : String) (answers : Answers) :
    session.gotControlMessage archive (archive.shellMessage cmd) answers =
      session.control (if cmd = "" then .shell else .exec cmd)
        answers := by
  have nonempty := archive.shellMessage_ne_nil cmd
  rw [gotControlMessage,
    guard_bind_of_holds (List.length_pos_iff.mpr nonempty),
    ControlArchive.shellMessage]
  by_cases plain : cmd = ""
  · have read := archive.read_command .shell []
    rw [List.append_nil] at read
    rw [if_pos plain, if_pos plain, read]
    rfl
  · have read := archive.string.read_write cmd []
    rw [List.append_nil] at read
    rw [if_neg plain, if_neg plain, archive.read_command]
    change session.readExec archive _ answers = _
    rw [readExec, read]
    rfl

end Reading

end ShellSession

/-- The signals that `child_done` names. -/
inductive Signal where
  | sigabrt
  | sigalrm
  | sigbus
  | sigchld
  | sigcont
  | sigfpe
  | sighup
  | sigill
  | sigint
  | sigkill
  | sigpipe
  | sigquit
  | sigsegv
  | sigstop
  | sigterm
  | sigtstp
  | sigttin
  | sigttou
  | sigusr1
  | sigusr2
  | sigpoll
  | sigprof
  | sigsys
  | sigtrap
  | sigurg
  | sigvtalrm
  | sigxcpu
  | sigxfsz
  /-- `WTERMSIG` is below 128. -/
  | other (number : Fin 128)
  deriving DecidableEq, Repr

def Signal.signame : Signal → String
  | .sigabrt => "SIGABRT"
  | .sigalrm => "SIGALRM"
  | .sigbus => "SIGBUS"
  | .sigchld => "SIGCHLD"
  | .sigcont => "SIGCONT"
  | .sigfpe => "SIGFPE"
  | .sighup => "SIGHUP"
  | .sigill => "SIGILL"
  | .sigint => "SIGINT"
  | .sigkill => "SIGKILL"
  | .sigpipe => "SIGPIPE"
  | .sigquit => "SIGQUIT"
  | .sigsegv => "SIGSEGV"
  | .sigstop => "SIGSTOP"
  | .sigterm => "SIGTERM"
  | .sigtstp => "SIGTSTP"
  | .sigttin => "SIGTTIN"
  | .sigttou => "SIGTTOU"
  | .sigusr1 => "SIGUSR1"
  | .sigusr2 => "SIGUSR2"
  | .sigpoll => "SIGPOLL"
  | .sigprof => "SIGPROF"
  | .sigsys => "SIGSYS"
  | .sigtrap => "SIGTRAP"
  | .sigurg => "SIGURG"
  | .sigvtalrm => "SIGVTALRM"
  | .sigxcpu => "SIGXCPU"
  | .sigxfsz => "SIGXFSZ"
  | .other number => toString number.val

/-- What the macros of `<sys/wait.h>` say of a status of `waitpid`. -/
inductive WaitStatus where
  /-- `WIFEXITED`, with `WEXITSTATUS`. -/
  | exited (code : UInt8)
  /-- `WIFSIGNALED`, with `WTERMSIG` and `WCOREDUMP`. -/
  | signaled (signal : Signal) (core : Bool)
  /-- Neither of them. -/
  | other
  deriving DecidableEq, Repr

namespace ControlArchive

variable (archive : ControlArchive)

/-- The flags of an ExitSignal message. -/
def signalFlags (core : Bool) : Int32 :=
  if core then 0 ||| 1 else 0

/-- The message of `child_done`, which stays empty for a child that neither
exited nor was terminated by a signal. -/
def exitMessage : WaitStatus → Bytes
  | .exited code =>
      archive.writeCommand .exitStatus ++
        archive.int32.write (Int32.ofNat code.toNat)
  | .signaled signal core =>
      archive.writeCommand .exitSignal ++
        (archive.int32.write (signalFlags core) ++
          (archive.string.write signal.signame ++
            (archive.string.write "" ++ archive.string.write "")))
  | .other => []

private theorem signame_short (signal : Signal) :
    signal.signame.utf8ByteSize < 32 := by
  cases signal with
  | other number =>
      revert number
      decide
  | _ => decide

/-- The message of a child that ended can be sent. -/
theorem exitMessage_sendable
    {status : WaitStatus} (ended : status ≠ .other) :
    Sendable (archive.exitMessage status) := by
  have empty : ("" : String).utf8ByteSize < 32 := by decide
  cases status with
  | other =>
      exact absurd rfl ended
  | exited code =>
      have command := archive.command_length .exitStatus
      have number := archive.int32_length (Int32.ofNat code.toNat)
      have nonempty :=
        List.length_pos_iff.mpr (archive.writeCommand_ne_nil .exitStatus)
      rw [Sendable, exitMessage, List.length_append, maxControlMessage]
      omega
  | signaled signal core =>
      have command := archive.command_length .exitSignal
      have number := archive.int32_length (signalFlags core)
      have name :=
        archive.string_length signal.signame (signame_short signal)
      have nothing := archive.string_length "" empty
      have nonempty :=
        List.length_pos_iff.mpr (archive.writeCommand_ne_nil .exitSignal)
      rw [Sendable, exitMessage, maxControlMessage]
      simp only [List.length_append]
      omega

end ControlArchive

end StructuredStreams.Shell

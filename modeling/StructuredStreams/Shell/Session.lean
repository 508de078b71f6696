import StructuredStreams.Foundation.Guarded
import StructuredStreams.Shell.ShellStream

/-!
# Control messages of a shell session

A shell session opens a pseudo-terminal on request and starts one child
process, on the pseudo-terminal if there is one and on a socket pair
otherwise.  Its two descriptors `ptyfd` and `ttyfd` are `-1` until they are
opened.  A request comes with the answers that the system gives to the calls
made for it; a failed call answers with the text of its error.  The child's
side of `fork` ends in `exec` or `exit` and is not modelled.

`run` refuses a second shell by looking at `ttyfd`, which stays closed when
the shell runs on a pseudo-terminal.
-/

namespace StructuredStreams.Shell

open ByteCodec

/-- Terminal modes as they are packed in a Terminal message. -/
structure TerminalModes where
  iflag : UInt32
  oflag : UInt32
  cflag : UInt32
  lflag : UInt32
  ispeed : UInt32
  ospeed : UInt32
  cc : Bytes
  deriving DecidableEq, Repr

structure TerminalRequest where
  termname : String
  width : UInt32
  height : UInt32
  xpixels : UInt32
  ypixels : UInt32
  tios : TerminalModes
  deriving DecidableEq, Repr

/-- A control message as the archive decodes it. -/
inductive ControlMessage where
  | terminal (request : TerminalRequest)
  | shell
  | exec (cmd : String)
  | unknown (cmd : Int)
  deriving DecidableEq, Repr

/-- What the system answers to the calls made for one message. -/
structure Answers where
  posixOpenpt : Except String Nat
  socketpair : Except String (Nat × Nat)
  fork : Except String Nat

/-- The calls that succeeded. -/
inductive ControlAction where
  /-- `posix_openpt`, followed by the calls that set the window size and the
  modes of the new terminal, whose failure is only logged. -/
  | openPseudoTerminal (fd : Nat) (request : TerminalRequest)
  | socketpair (fds : Nat × Nat)
  | fork (childpid : Nat)
  | close (fd : Int)
  | watchPid (childpid : Nat)
  | ignore (cmd : Int)
  deriving DecidableEq, Repr

structure AsyncFile where
  /-- The descriptor of `sd`, `none` while it is closed. -/
  sd : Option Int
  outqd : Nat
  errorString : String
  deriving DecidableEq, Repr

namespace AsyncFile

def create : AsyncFile :=
  ⟨none, 0, ""⟩

def isOpen (file : AsyncFile) : Bool :=
  file.sd.isSome

def bytesToWrite (file : AsyncFile) : Nat :=
  file.outqd

/-- `read` into a buffer, with none for its result `-1`. -/
def read (_file : AsyncFile) (_maxSize : Nat) : Option Bytes :=
  none

def «open» (file : AsyncFile) (fd : Int) : AsyncFile :=
  if file.isOpen then
    { file with errorString := "async_file already open" }
  else { file with sd := some fd }

@[simp]
theorem isOpen_open (file : AsyncFile) (fd : Int) :
    (file.open fd).isOpen = true := by
  rw [AsyncFile.open]
  split
  · assumption
  · rfl

@[simp]
theorem bytesToWrite_open (file : AsyncFile) (fd : Int) :
    (file.open fd).bytesToWrite = file.bytesToWrite := by
  rw [AsyncFile.open]
  split <;> rfl

end AsyncFile

structure ShellSession where
  ptyfd : Int
  ttyfd : Int
  aftty : AsyncFile
  termname : String
  /-- The calls made for control messages. -/
  actions : List ControlAction
  /-- The payloads handed to `aftty.write`. -/
  written : List Bytes
  /-- The texts passed to `error`. -/
  errors : List String
  deriving DecidableEq, Repr

namespace ShellSession

def create : ShellSession where
  ptyfd := -1
  ttyfd := -1
  aftty := AsyncFile.create
  termname := ""
  actions := []
  written := []
  errors := []

def error (session : ShellSession) (text : String) : ShellSession :=
  { session with errors := session.errors ++ [text] }

def act (session : ShellSession) (action : ControlAction) : ShellSession :=
  { session with actions := session.actions ++ [action] }

def openPty
    (session : ShellSession) (request : TerminalRequest)
    (answers : Answers) : ShellSession :=
  if 0 ≤ session.ptyfd then
    session.error "Already have a pseudo-terminal"
  else if 0 ≤ session.ttyfd then
    session.error "Already have a remote shell I/O stream"
  else
    let session := { session with termname := request.termname }
    match answers.posixOpenpt with
    | .error reason =>
        { session with ptyfd := -1 }.error
          ("Can't create pseudo-terminal: " ++ reason)
    | .ok fd =>
        { session with ptyfd := fd }.act (.openPseudoTerminal fd request)

/-- Close the child's descriptor in the parent, if there is one. -/
def closeChildfd (session : ShellSession) (childfd : Int) : ShellSession :=
  if 0 ≤ childfd then session.act (.close childfd) else session

/-- `run` from its assertion on.  Nothing joins the thread that `watch_pid`
starts, so that the program ends in a second `watch_pid`, after its `fork`.
The session is followed as if the first thread had been joined. -/
def forkChild
    (session : ShellSession) (childfd : Int) (answers : Answers) :
    Option ShellSession := do
  guard (xor (decide (0 ≤ session.ptyfd)) (decide (0 ≤ session.ttyfd)))
  match answers.fork with
  | .error reason =>
      return (session.closeChildfd childfd).error
        ("Can't create child process: " ++ reason)
  | .ok childpid =>
      let session := (session.act (.fork childpid)).closeChildfd childfd
      let fd := if 0 ≤ session.ptyfd then session.ptyfd else session.ttyfd
      let session := { session with aftty := session.aftty.open fd }
      return session.act (.watchPid childpid)

/-- The command of an Exec message is not used. -/
def run (session : ShellSession) (answers : Answers) :
    Option ShellSession :=
  if 0 ≤ session.ttyfd then
    some (session.error "Already have a remote shell running")
  else if session.ptyfd < 0 then
    match answers.socketpair with
    | .error reason =>
        some (session.error ("Can't create socket pair: " ++ reason))
    | .ok fds =>
        ({ session with ttyfd := fds.1 }.act (.socketpair fds)).forkChild
          fds.2 answers
  else session.forkChild (-1) answers

def runShell (session : ShellSession) (answers : Answers) :
    Option ShellSession :=
  session.run answers

def doExec
    (session : ShellSession) (_cmd : String) (answers : Answers) :
    Option ShellSession :=
  session.run answers

/-- `got_control_packet` once the command is decoded. -/
def control
    (session : ShellSession) (message : ControlMessage)
    (answers : Answers) : Option ShellSession :=
  match message with
  | .terminal request => some (session.openPty request answers)
  | .shell => session.runShell answers
  | .exec cmd => session.doExec cmd answers
  | .unknown cmd => some (session.act (.ignore cmd))

/-- The process identifiers of the children. -/
def children (session : ShellSession) : List Nat :=
  session.actions.filterMap fun action =>
    match action with
    | .fork childpid => some childpid
    | _ => none

end ShellSession

/-- A control message and the answers of the system to its calls. -/
structure Request where
  message : ControlMessage
  answers : Answers

namespace ShellSession

/-- Process control messages one after the other. -/
def controlAll (session : ShellSession) (requests : List Request) :
    Option ShellSession :=
  requests.foldlM
    (fun session request => session.control request.message request.answers)
    session

end ShellSession

namespace Request

/-- The request is for a shell or a command. -/
def runs (request : Request) : Bool :=
  match request.message with
  | .shell | .exec _ => true
  | .terminal _ | .unknown _ => false

/-- The request is for a pseudo-terminal, and the system has one. -/
def opensTerminal (request : Request) : Bool :=
  match request.message with
  | .terminal _ => request.answers.posixOpenpt.isOk
  | .shell | .exec _ | .unknown _ => false

/-- The request is for a shell, and the system has a socket pair for it. -/
def opensSocket (request : Request) : Bool :=
  request.runs && request.answers.socketpair.isOk

/-- The request is for a shell, and the system would fork. -/
def forks (request : Request) : Bool :=
  request.runs && request.answers.fork.isOk

end Request

/-- The children of a new session: the first request that opens a descriptor
decides where shells run. -/
def shellsStarted : List Request → Nat
  | [] => 0
  | request :: requests =>
      if request.opensTerminal then requests.countP Request.forks
      else if request.opensSocket then request.forks.toNat
      else shellsStarted requests

/-- The requests that follow the opening of a pseudo-terminal. -/
def afterTerminal : List Request → List Request
  | [] => []
  | request :: requests =>
      if request.opensTerminal then requests
      else if request.opensSocket then []
      else afterTerminal requests

private theorem shellsStarted_le_one_iff (requests : List Request) :
    shellsStarted requests ≤ 1 ↔
      (afterTerminal requests).countP Request.forks ≤ 1 := by
  induction requests with
  | nil =>
      simp [shellsStarted, afterTerminal]
  | cons request requests inductionHypothesis =>
      rw [shellsStarted, afterTerminal]
      split
      · exact Iff.rfl
      · split
        · have atMostOne : request.forks.toNat ≤ 1 :=
            Bool.toNat_le request.forks
          simpa using atMostOne
        · exact inductionHypothesis

/-! ## The descriptors of a session -/

namespace ShellSession

/-- Where the next shell of a session would run. -/
inductive Mode where
  | closed
  | onTerminal
  | onSocket
  deriving DecidableEq, Repr

def mode (session : ShellSession) : Mode :=
  if 0 ≤ session.ttyfd then .onSocket
  else if 0 ≤ session.ptyfd then .onTerminal
  else .closed

private theorem mode_eq_onSocket {session : ShellSession}
    (socket : 0 ≤ session.ttyfd) : session.mode = .onSocket :=
  if_pos socket

private theorem mode_eq_onTerminal {session : ShellSession}
    (noSocket : ¬ 0 ≤ session.ttyfd) (terminal : 0 ≤ session.ptyfd) :
    session.mode = .onTerminal := by
  rw [mode, if_neg noSocket, if_pos terminal]

private theorem mode_eq_closed {session : ShellSession}
    (noSocket : ¬ 0 ≤ session.ttyfd) (noTerminal : ¬ 0 ≤ session.ptyfd) :
    session.mode = .closed := by
  rw [mode, if_neg noSocket, if_neg noTerminal]

/-- The children that the requests add to a session of the given mode. -/
def shellsFrom : Mode → List Request → Nat
  | .closed, requests => shellsStarted requests
  | .onTerminal, requests => requests.countP Request.forks
  | .onSocket, _ => 0

/-- One session comes from the other by starting that many children; the
terminal is opened with the first of them and never closed. -/
structure Starts (count : Nat) (session next : ShellSession) : Prop where
  children :
    next.children.length = session.children.length + count
  isOpen :
    next.aftty.isOpen = (session.aftty.isOpen || decide (0 < count))
  bytesToWrite : next.aftty.bytesToWrite = session.aftty.bytesToWrite
  written : next.written = session.written

theorem Starts.refl (session : ShellSession) : Starts 0 session session :=
  ⟨rfl, by simp, rfl, rfl⟩

theorem Starts.trans
    {first second : Nat} {session middle final : ShellSession}
    (earlier : Starts first session middle)
    (later : Starts second middle final) :
    Starts (first + second) session final := by
  refine ⟨?_, ?_, ?_, ?_⟩
  · rw [later.children, earlier.children, Nat.add_assoc]
  · have either :
        decide (0 < first + second) =
          (decide (0 < first) || decide (0 < second)) := by
      rw [← Bool.decide_or]
      exact decide_eq_decide.mpr Nat.add_pos_iff_pos_or_pos
    rw [later.isOpen, earlier.isOpen, either, Bool.or_assoc]
  · rw [later.bytesToWrite, earlier.bytesToWrite]
  · rw [later.written, earlier.written]

private theorem starts_error (session : ShellSession) (text : String) :
    Starts 0 session (session.error text) :=
  ⟨rfl, by simp [error], rfl, rfl⟩

@[simp]
theorem mode_error (session : ShellSession) (text : String) :
    (session.error text).mode = session.mode :=
  rfl

@[simp]
theorem mode_act (session : ShellSession) (action : ControlAction) :
    (session.act action).mode = session.mode :=
  rfl

@[simp]
theorem children_act (session : ShellSession) (action : ControlAction) :
    (session.act action).children =
      session.children ++
        (match action with
          | .fork childpid => [childpid]
          | _ => []) := by
  rw [children, act, List.filterMap_append]
  cases action <;> rfl

private theorem starts_closeChildfd (session : ShellSession) (childfd : Int) :
    Starts 0 session (session.closeChildfd childfd) := by
  rw [closeChildfd]
  split
  · exact ⟨by simp, by simp [act], rfl, rfl⟩
  · exact Starts.refl session

@[simp]
theorem mode_closeChildfd (session : ShellSession) (childfd : Int) :
    (session.closeChildfd childfd).mode = session.mode := by
  rw [closeChildfd]
  split <;> rfl

/-- The assertion of `run` holds when a shell has somewhere to run, and a
successful fork opens the terminal. -/
theorem forkChild_spec
    (session : ShellSession) (childfd : Int) (answers : Answers)
    (oneOpen :
      xor (decide (0 ≤ session.ptyfd)) (decide (0 ≤ session.ttyfd)) =
        true) :
    ∃ next,
      session.forkChild childfd answers = some next ∧
        next.mode = session.mode ∧
        Starts answers.fork.isOk.toNat session next := by
  have passes :
      (guard (xor (decide (0 ≤ session.ptyfd))
        (decide (0 ≤ session.ttyfd)) = true) : Option Unit) = some () :=
    if_pos oneOpen
  rw [forkChild, passes]
  cases answers.fork with
  | error reason =>
      refine ⟨_, rfl, by simp, ?_⟩
      exact
        (starts_closeChildfd session childfd).trans
          (starts_error _ _)
  | ok childpid =>
      have forked :
          Starts 0 (session.act (.fork childpid))
            ((session.act (.fork childpid)).closeChildfd childfd) :=
        starts_closeChildfd _ childfd
      refine ⟨_, rfl, ?_, ?_⟩
      · exact mode_closeChildfd _ childfd
      · refine ⟨?_, ?_, ?_, ?_⟩
        · simpa [children, act, Except.isOk, Except.toBool]
            using forked.children
        · simp [act, Except.isOk, Except.toBool]
        · simpa [act] using forked.bytesToWrite
        · exact forked.written

/-- The number of children started by one call of `run`. -/
theorem run_spec (session : ShellSession) (answers : Answers) :
    ∃ next,
      session.run answers = some next ∧
        match session.mode with
        | .onSocket =>
            next.mode = .onSocket ∧ Starts 0 session next
        | .onTerminal =>
            next.mode = .onTerminal ∧
              Starts answers.fork.isOk.toNat session next
        | .closed =>
            if answers.socketpair.isOk then
              next.mode = .onSocket ∧
                Starts answers.fork.isOk.toNat session next
            else next.mode = .closed ∧ Starts 0 session next := by
  rw [run]
  by_cases socket : 0 ≤ session.ttyfd
  · have modeEq := mode_eq_onSocket socket
    rw [if_pos socket, modeEq]
    exact ⟨_, rfl, modeEq, starts_error _ _⟩
  rw [if_neg socket]
  by_cases terminal : 0 ≤ session.ptyfd
  · have modeEq := mode_eq_onTerminal socket terminal
    rw [if_neg (by omega), modeEq]
    obtain ⟨next, returned, sameMode, starts⟩ :=
      session.forkChild_spec (-1) answers (by simp [terminal, socket])
    exact ⟨next, returned, sameMode.trans modeEq, starts⟩
  have modeEq := mode_eq_closed socket terminal
  rw [if_pos (by omega), modeEq]
  cases answers.socketpair with
  | error reason =>
      exact ⟨_, rfl, modeEq, starts_error _ _⟩
  | ok fds =>
      let opened :=
        { session with ttyfd := fds.1 }.act (.socketpair fds)
      have onSocket : 0 ≤ opened.ttyfd := Int.natCast_nonneg fds.1
      have noTerminal : ¬ 0 ≤ opened.ptyfd := terminal
      obtain ⟨next, returned, sameMode, starts⟩ :=
        opened.forkChild_spec fds.2 answers
          (by simp [onSocket, noTerminal])
      have created : Starts 0 session opened := by
        refine ⟨?_, by simp [opened, act], rfl, rfl⟩
        rw [children_act, List.append_nil]
        rfl
      refine ⟨next, returned, ?_, ?_⟩
      · exact sameMode.trans (mode_eq_onSocket onSocket)
      · simpa using created.trans starts

private theorem openPty_spec
    (session : ShellSession) (request : TerminalRequest)
    (answers : Answers) :
    Starts 0 session (session.openPty request answers) ∧
      (session.openPty request answers).mode =
        match session.mode with
        | .onSocket => .onSocket
        | .onTerminal => .onTerminal
        | .closed =>
            if answers.posixOpenpt.isOk then .onTerminal
            else .closed := by
  rw [openPty]
  by_cases terminal : 0 ≤ session.ptyfd
  · rw [if_pos terminal, mode_error]
    refine ⟨starts_error _ _, ?_⟩
    by_cases socket : 0 ≤ session.ttyfd
    · rw [mode_eq_onSocket socket]
    · rw [mode_eq_onTerminal socket terminal]
  rw [if_neg terminal]
  by_cases socket : 0 ≤ session.ttyfd
  · rw [if_pos socket, mode_error, mode_eq_onSocket socket]
    exact ⟨starts_error _ _, rfl⟩
  rw [if_neg socket, mode_eq_closed socket terminal]
  cases answers.posixOpenpt with
  | error reason =>
      refine ⟨⟨rfl, by simp [error], rfl, rfl⟩, ?_⟩
      have negative : ¬ (0 : Int) ≤ -1 := by decide
      exact mode_eq_closed socket negative
  | ok fd =>
      refine ⟨⟨?_, by simp [act], rfl, rfl⟩, ?_⟩
      · dsimp only
        rw [children_act, List.append_nil]
        rfl
      · exact mode_eq_onTerminal socket (Int.natCast_nonneg fd)

/-- A message that runs a shell starts as many children as the descriptors
and the answers say. -/
theorem run_counts
    (session : ShellSession) {message : ControlMessage} {answers : Answers}
    (isRun : Request.runs ⟨message, answers⟩ = true)
    (noTerminal : Request.opensTerminal ⟨message, answers⟩ = false) :
    ∃ next count,
      session.run answers = some next ∧
        Starts count session next ∧
        ∀ requests,
          shellsFrom session.mode (⟨message, answers⟩ :: requests) =
            count + shellsFrom next.mode requests := by
  obtain ⟨next, returned, effect⟩ := session.run_spec answers
  have forksEq :
      Request.forks ⟨message, answers⟩ = answers.fork.isOk := by
    rw [Request.forks, isRun, Bool.true_and]
  have opensEq :
      Request.opensSocket ⟨message, answers⟩ =
        answers.socketpair.isOk := by
    rw [Request.opensSocket, isRun, Bool.true_and]
  cases modeEq : session.mode with
  | onSocket =>
      rw [modeEq] at effect
      refine ⟨next, 0, returned, effect.2, ?_⟩
      intro requests
      rw [effect.1]
      rfl
  | onTerminal =>
      rw [modeEq] at effect
      refine ⟨next, _, returned, effect.2, ?_⟩
      intro requests
      rw [effect.1]
      simp only [shellsFrom, List.countP_cons, forksEq]
      cases answers.fork.isOk <;> simp [Nat.add_comm]
  | closed =>
      rw [modeEq] at effect
      dsimp only at effect
      cases opened : answers.socketpair.isOk with
      | true =>
          rw [opened] at effect
          refine ⟨next, _, returned, effect.2, ?_⟩
          intro requests
          rw [effect.1]
          simp [shellsFrom, shellsStarted, noTerminal, opensEq, opened,
            forksEq]
      | false =>
          rw [opened] at effect
          refine ⟨next, 0, returned, effect.2, ?_⟩
          intro requests
          rw [effect.1]
          simp [shellsFrom, shellsStarted, noTerminal, opensEq, opened]

/-- A request for a terminal starts nothing. -/
theorem openPty_counts
    (session : ShellSession) (request : TerminalRequest)
    (answers : Answers) (requests : List Request) :
    shellsFrom session.mode (⟨.terminal request, answers⟩ :: requests) =
      shellsFrom (session.openPty request answers).mode requests := by
  rw [(session.openPty_spec request answers).2]
  cases session.mode with
  | onSocket =>
      rfl
  | onTerminal =>
      simp [shellsFrom, Request.forks, Request.runs]
  | closed =>
      cases opened : answers.posixOpenpt.isOk <;>
        simp [shellsFrom, shellsStarted, Request.opensTerminal,
          Request.opensSocket, Request.runs, opened]

/-- One request returns and starts as many children as the descriptors and
the request say. -/
theorem control_spec (session : ShellSession) (request : Request) :
    ∃ next count,
      session.control request.message request.answers = some next ∧
        Starts count session next ∧
        ∀ requests,
          shellsFrom session.mode (request :: requests) =
            count + shellsFrom next.mode requests := by
  obtain ⟨message, answers⟩ := request
  cases message with
  | terminal request =>
      refine
        ⟨_, 0, rfl, (session.openPty_spec request answers).1, ?_⟩
      intro requests
      rw [Nat.zero_add]
      exact session.openPty_counts request answers requests
  | shell =>
      exact session.run_counts rfl rfl
  | exec cmd =>
      exact session.run_counts rfl rfl
  | unknown cmd =>
      refine ⟨_, 0, rfl, ⟨?_, by simp [act], rfl, rfl⟩, ?_⟩
      · rw [children_act, List.append_nil]
        rfl
      · intro requests
        rw [mode_act]
        cases session.mode <;>
          simp [shellsFrom, shellsStarted, Request.opensTerminal,
            Request.opensSocket, Request.forks, Request.runs]

/-- Every sequence of requests is processed without a failed assertion. -/
theorem controlAll_spec
    (session : ShellSession) (requests : List Request) :
    ∃ final,
      session.controlAll requests = some final ∧
        Starts (shellsFrom session.mode requests) session final ∧
        ∀ more,
          shellsFrom session.mode (requests ++ more) =
            shellsFrom session.mode requests +
              shellsFrom final.mode more := by
  induction requests generalizing session with
  | nil =>
      have none : shellsFrom session.mode [] = 0 := by
        cases session.mode <;> rfl
      rw [none]
      refine ⟨session, rfl, Starts.refl session, ?_⟩
      intro more
      rw [List.nil_append, Nat.zero_add]
  | cons request requests inductionHypothesis =>
      obtain ⟨next, count, returned, starts, counted⟩ :=
        session.control_spec request
      obtain ⟨final, processed, startsRest, countedRest⟩ :=
        inductionHypothesis next
      refine ⟨final, ?_, ?_, ?_⟩
      · rw [controlAll, List.foldlM_cons, returned]
        exact processed
      · rw [counted requests]
        exact starts.trans startsRest
      · intro more
        rw [List.cons_append, counted, counted, countedRest,
          Nat.add_assoc]

end ShellSession

/-- At most one child was forked, and the assertion of `run` held at every
call. -/
def OneShell (requests : List Request) : Prop :=
  ∃ final,
    ShellSession.create.controlAll requests = some final ∧
      final.children.length ≤ 1

/-- A session starts one shell exactly when no second fork succeeds after a
pseudo-terminal was opened. -/
theorem oneShell_iff (requests : List Request) :
    OneShell requests ↔
      (afterTerminal requests).countP Request.forks ≤ 1 := by
  obtain ⟨final, processed, starts, _⟩ :=
    ShellSession.create.controlAll_spec requests
  have counted : final.children.length = shellsStarted requests := by
    rw [starts.children]
    exact Nat.zero_add _
  rw [← shellsStarted_le_one_iff, ← counted]
  constructor
  · rintro ⟨other, returned, atMostOne⟩
    rw [processed] at returned
    cases returned
    exact atMostOne
  · intro atMostOne
    exact ⟨final, processed, atMostOne⟩

/-- A pseudo-terminal of eighty columns. -/
def xterm : TerminalRequest where
  termname := "xterm"
  width := 80
  height := 24
  xpixels := 0
  ypixels := 0
  tios := ⟨0, 0, 0, 0, 9600, 9600, []⟩

/-- A client that asks for a terminal and then twice for a shell, on a
system where every call succeeds. -/
def terminalThenTwoShells : List Request :=
  [⟨.terminal xterm, ⟨.ok 5, .ok (6, 7), .ok 100⟩⟩,
    ⟨.shell, ⟨.ok 5, .ok (6, 7), .ok 101⟩⟩,
    ⟨.shell, ⟨.ok 5, .ok (6, 7), .ok 102⟩⟩]

theorem two_shells_on_one_terminal :
    ShellSession.create.controlAll terminalThenTwoShells =
        some
          { ShellSession.create with
            ptyfd := 5
            aftty := ⟨some 5, 0, "async_file already open"⟩
            termname := "xterm"
            actions :=
              [.openPseudoTerminal 5 xterm, .fork 101, .watchPid 101,
                .fork 102, .watchPid 102] } ∧
      ¬ OneShell terminalThenTwoShells := by
  have processed :
      ShellSession.create.controlAll terminalThenTwoShells =
        some
          { ShellSession.create with
            ptyfd := 5
            aftty := ⟨some 5, 0, "async_file already open"⟩
            termname := "xterm"
            actions :=
              [.openPseudoTerminal 5 xterm, .fork 101, .watchPid 101,
                .fork 102, .watchPid 102] } := by
    rfl
  refine ⟨processed, ?_⟩
  rintro ⟨final, returned, atMostOne⟩
  rw [processed] at returned
  cases returned
  exact absurd atMostOne (by decide)

end StructuredStreams.Shell

import StructuredStreams.Foundation.ByteCodec

/-!
# The shell stream

A shell stream embeds control messages in its character data.  A control
message is introduced by the control marker and its length in base 128, most
significant digit first, with the high bit set on the last digit.  A marker
that is part of the data is followed by the digit of length zero.

`receive` is modelled pass by pass: `receivePass` is one pass of its loop.
The pointer `rx_data_` and the count `rx_amount_` are the unread bytes
`rxData`.  The stream underneath is the list of the byte arrays that its
`read_data` returns one after the other; when none is left it returns an
empty array.  Sizes are naturals: no byte array reaches `2 ^ 31` bytes.
-/

namespace StructuredStreams.Shell

open ByteCodec

def controlMarker : UInt8 :=
  1

def maxControlMessage : Nat :=
  2 ^ 24

inductive PacketType where
  | null
  | data
  | control
  deriving DecidableEq, Repr

structure Packet where
  type : PacketType
  data : Bytes
  deriving DecidableEq, Repr

/-- The packet of the default constructor arguments. -/
def Packet.nothing : Packet :=
  ⟨.null, []⟩

inductive RecvState where
  | recvNormal
  | recvLength
  | recvMessage
  deriving DecidableEq, Repr

structure ShellStream where
  rstate : RecvState
  rxBuffer : Bytes
  rxData : Bytes
  ctlBuffer : Bytes
  ctlLen : Nat
  ctlGot : Nat
  /-- What the coming calls of `read_data` return. -/
  pending : List Bytes
  /-- The messages passed to `on_error`, each followed by a reset of the
  stream. -/
  errors : List String
  deriving DecidableEq, Repr

/-- A new shell stream.  The constructor leaves `ctl_len_` and `ctl_got_`
unset. -/
def ShellStream.create
    (ctlLen ctlGot : Nat) (pending : List Bytes) : ShellStream where
  rstate := .recvNormal
  rxBuffer := []
  rxData := []
  ctlBuffer := []
  ctlLen := ctlLen
  ctlGot := ctlGot
  pending := pending
  errors := []

/-- The offset of the first occurrence of a byte. -/
def memchr (data : Bytes) (byte : UInt8) : Option Nat :=
  data.findIdx? (· == byte)

theorem memchr_eq_none_iff {data : Bytes} {byte : UInt8} :
    memchr data byte = none ↔ byte ∉ data := by
  simp only [memchr, List.findIdx?_eq_none_iff, beq_eq_false_iff_ne]
  constructor
  · intro different member
    exact different byte member rfl
  · intro absent other member equality
    exact absent (equality ▸ member)

/-- A hit splits the data at the first occurrence. -/
theorem memchr_eq_some
    {data : Bytes} {byte : UInt8} {offset : Nat}
    (found : memchr data byte = some offset) :
    byte ∉ data.take offset ∧
      data = data.take offset ++ byte :: data.drop (offset + 1) := by
  obtain ⟨bound, isByte, before⟩ :=
    List.findIdx?_eq_some_iff_getElem.mp found
  constructor
  · intro member
    obtain ⟨position, positionBound, equality⟩ :=
      List.getElem_of_mem member
    rw [List.length_take] at positionBound
    rw [List.getElem_take] at equality
    exact before position (by omega) (by simp [equality])
  · have hit : data[offset] = byte := by
      simpa using isByte
    rw [← hit, ← List.drop_eq_getElem_cons bound,
      List.take_append_drop]

theorem memchr_lt
    {data : Bytes} {byte : UInt8} {offset : Nat}
    (found : memchr data byte = some offset) :
    offset < data.length :=
  (List.findIdx?_eq_some_iff_getElem.mp found).1

/-- The writes of `send_data`: while there is a marker, everything up to and
including it and then the digit zero; at last the remainder. -/
def sendData (data : Bytes) : List Bytes :=
  match _found : memchr data controlMarker with
  | none => [data]
  | some mark =>
      let amt := mark + 1
      data.take amt :: [0x80] :: sendData (data.drop amt)
termination_by data.length
decreasing_by
  have := memchr_lt _found
  simp only [List.length_drop]
  omega

/-- The loop that fills the header backwards, with the number of free bytes
in front of what is there. -/
def headerDigits : (free : Nat) → (len : Nat) → Bytes → Option Bytes
  | 0, _, _ => none
  | free + 1, len, hdr =>
      let hdr := UInt8.ofNat (len &&& 0x7f) :: hdr
      let len := len >>> 7
      if 0 < len then headerDigits free len hdr else some hdr

/-- The high bit indicates the last length byte. -/
def markLast : Bytes → Bytes
  | [] => []
  | [digit] => [digit ||| 0x80]
  | digit :: digits => digit :: markLast digits

/-- The writes of `send_control`, or none where its assertion fails or the
header leaves its ten bytes. -/
def sendControl (msg : Bytes) : Option (List Bytes) :=
  if 0 < msg.length then do
    let hdr ← headerDigits 10 msg.length []
    if hdr.length < 10 then
      return [controlMarker :: markLast hdr, msg]
    else none
  else none

/-- The calls that send something. -/
inductive SendCall where
  | sendData (data : Bytes)
  | sendControl (msg : Bytes)
  deriving DecidableEq, Repr

def SendCall.run : SendCall → Option (List Bytes)
  | .sendData data => some (Shell.sendData data)
  | .sendControl msg => Shell.sendControl msg

/-- The writes of a sequence of calls. -/
def sendAll : List SendCall → Option (List Bytes)
  | [] => some []
  | call :: calls => do
      let writes ← call.run
      let later ← sendAll calls
      return writes ++ later

/-- How one pass of the loop of `receive` ends. -/
inductive Pass where
  | again (shell : ShellStream)
  | returned (packet : Packet) (shell : ShellStream)
  | asserted
  deriving DecidableEq, Repr

/-- Fill the receive buffer if it is empty. -/
def ShellStream.fill (shell : ShellStream) : ShellStream :=
  if shell.rxData = [] then
    { shell with
      rxBuffer := shell.pending.headD []
      rxData := shell.pending.headD []
      pending := shell.pending.tail }
  else shell

/-- Drop the bytes that were processed. -/
def ShellStream.advance (shell : ShellStream) (act : Nat) : ShellStream :=
  { shell with rxData := shell.rxData.drop act }

/-- `byte_array::resize`, with zeros behind what was there. -/
def resize (buffer : Bytes) (size : Nat) : Bytes :=
  buffer.take size ++ List.replicate (size - buffer.length) 0

/-- Overwrite the buffer from an offset on. -/
def memcpy (buffer : Bytes) (offset : Nat) (source : Bytes) : Bytes :=
  buffer.take offset ++ source ++ buffer.drop (offset + source.length)

def passNormal (shell : ShellStream) (head : UInt8) : Pass :=
  if head = controlMarker then
    .again { shell.advance 1 with rstate := .recvLength, ctlLen := 0 }
  else
    let act :=
      (memchr shell.rxData controlMarker).getD shell.rxData.length
    let ret :=
      if act = shell.rxBuffer.length then shell.rxBuffer
      else shell.rxData.take act
    .returned ⟨.data, ret⟩ (shell.advance act)

def passLength (shell : ShellStream) (head : UInt8) : Pass :=
  if maxControlMessage ≤ shell.ctlLen then
    .returned Packet.nothing
      { shell with
        errors := shell.errors ++ ["Control message too large"] }
  else
    let ctlLen := (shell.ctlLen <<< 7) ||| (head &&& 0x7f).toNat
    let shell := { shell.advance 1 with ctlLen := ctlLen }
    if head &&& 0x80 ≠ 0 then
      if ctlLen = 0 then
        .returned ⟨.data, [controlMarker]⟩ shell
      else
        .again
          { shell with
            rstate := .recvMessage
            ctlBuffer := resize shell.ctlBuffer ctlLen
            ctlGot := 0 }
    else
      .again shell

def passMessage (shell : ShellStream) : Pass :=
  let act := min shell.rxData.length (shell.ctlLen - shell.ctlGot)
  let ctlBuffer :=
    memcpy shell.ctlBuffer shell.ctlGot (shell.rxData.take act)
  let ctlGot := shell.ctlGot + act
  let shell :=
    { shell.advance act with ctlBuffer := ctlBuffer, ctlGot := ctlGot }
  if ctlGot = shell.ctlLen then
    if ctlBuffer.length = shell.ctlLen then
      .returned ⟨.control, ctlBuffer⟩
        { shell with rstate := .recvNormal, ctlBuffer := [] }
    else
      .asserted
  else
    .again shell

/-- One pass of the loop of `receive`. -/
def receivePass (shell : ShellStream) : Pass :=
  let shell := shell.fill
  match shell.rxData with
  | [] => .returned Packet.nothing shell
  | head :: _ =>
      match shell.rstate with
      | .recvNormal => passNormal shell head
      | .recvLength => passLength shell head
      | .recvMessage => passMessage shell

/-- The loop of `receive`, cut off after `fuel` passes or by its failing
assertion. -/
def receiveLoop :
    (fuel : Nat) → ShellStream → Option (Packet × ShellStream)
  | 0, _ => none
  | fuel + 1, shell =>
      match receivePass shell with
      | .returned packet shell => some (packet, shell)
      | .again shell => receiveLoop fuel shell
      | .asserted => none

/-- The bytes that were not processed yet. -/
def ShellStream.unread (shell : ShellStream) : Bytes :=
  shell.rxData ++ shell.pending.flatten

/-- A call of `receive`.  Every pass but the last takes a byte, so that one
more pass than there are bytes is enough. -/
def receive (shell : ShellStream) : Option (Packet × ShellStream) :=
  receiveLoop (shell.unread.length + 1) shell

/-- Repeated calls of `receive` and the packets they return. -/
def receives :
    (calls : Nat) → ShellStream → Option (List Packet × ShellStream)
  | 0, shell => some ([], shell)
  | calls + 1, shell => do
      let (packet, shell) ← receive shell
      let (packets, shell) ← receives calls shell
      return (packet :: packets, shell)

end StructuredStreams.Shell

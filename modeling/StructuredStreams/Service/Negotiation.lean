import StructuredStreams.Foundation.ByteCodec
import StructuredStreams.Foundation.Guarded
import StructuredStreams.Foundation.MachineInt

/-!
# Service negotiation

A client asks for a service by name and protocol in the first record of a
stream, and the host answers with a record that says whether somebody listens
for the pair.  Both records go through `read_record` of the receiver.  Its
`read_data` counts the bytes of the segments it takes, but the copy into the
caller's buffer is commented out: every record is read as zero bytes, and no
negotiation succeeds.

Strings are byte strings.  A failed assertion and an error raised by an
archive end a call with `none`.
-/

namespace StructuredStreams.Service

open ByteCodec

/-- What the serialization library provides.  Zero bytes are never read as
another number than zero. -/
structure Flurry where
  uint32 : Codec (BitVec 32)
  string : Codec Bytes
  read_zeros :
    ∀ count value rest,
      uint32.read (List.replicate count 0) = .ok (value, rest) →
        value = 0

section Compact

/-- A number below 128 is one byte, a larger one a mark and big-endian
digits. -/
def writeNumber (number : Nat) : Bytes :=
  if number < 128 then [UInt8.ofNat number]
  else if number < 256 then 0xcc :: writeDigits 1 number
  else if number < 256 ^ 2 then 0xcd :: writeDigits 2 number
  else 0xce :: writeDigits 4 number

def readNumber : Reader Nat :=
  readByte >>= fun head =>
    if head.toNat < 128 then pure head.toNat
    else if head = 0xcc then readDigits 1 0
    else if head = 0xcd then readDigits 2 0
    else if head = 0xce then readDigits 4 0
    else fun _ => .error "Not a number"

private theorem readNumber_writeNumber
    {number : Nat} (small : number < 256 ^ 4) (rest : Bytes) :
    readNumber (writeNumber number ++ rest) = .ok (number, rest) := by
  have digits :
      ∀ width, number < 256 ^ width →
        readDigits width 0 (writeDigits width number ++ rest) =
          .ok (number, rest) := by
    intro width bounded
    rw [readDigits_writeDigits, Nat.mod_eq_of_lt bounded, Nat.zero_mul,
      Nat.zero_add]
  rw [writeNumber, readNumber]
  split
  · next oneByte =>
      have value : (UInt8.ofNat number).toNat = number := by
        rw [UInt8.toNat_ofNat']
        omega
      rw [List.cons_append, List.nil_append, readByte_bind, value,
        if_pos oneByte]
      rfl
  · split
    · next _ bounded =>
        rw [List.cons_append, readByte_bind]
        exact digits 1 bounded
    · split
      · next _ _ bounded =>
          rw [List.cons_append, readByte_bind]
          exact digits 2 bounded
      · rw [List.cons_append, readByte_bind]
        exact digits 4 small

def oneByte : Codec UInt8 where
  write := fun value => [value]
  read := readByte
  read_write := readByte_cons

/-- A string below 32 bytes is announced by its length.  A longer one, for
which this format is not meant, is marked byte by byte. -/
def writeName (name : Bytes) : Bytes :=
  if name.length < 32 then UInt8.ofNat (160 + name.length) :: name
  else 0xc1 :: writeList oneByte name

def readBytes (count : Nat) : Reader Bytes := fun buffer =>
  if count ≤ buffer.length then
    .ok (buffer.take count, buffer.drop count)
  else .error "Buffer underrun"

def readName : Reader Bytes :=
  readByte >>= fun head =>
    if 160 ≤ head.toNat ∧ head.toNat < 192 then
      readBytes (head.toNat - 160)
    else if head = 0xc1 then (listOf oneByte).read
    else fun _ => .error "Not a string"

private theorem readName_writeName (name rest : Bytes) :
    readName (writeName name ++ rest) = .ok (name, rest) := by
  rw [writeName, readName]
  split
  · next short =>
      have value :
          (UInt8.ofNat (160 + name.length)).toNat = 160 + name.length := by
        rw [UInt8.toNat_ofNat']
        omega
      rw [List.cons_append, readByte_bind, value, if_pos (by omega),
        Nat.add_sub_cancel_left, readBytes, if_pos (by simp),
        List.take_left, List.drop_left]
  · rw [List.cons_append, readByte_bind]
    exact (listOf oneByte).read_write name rest

/-- An instance of the library that packs small values as the library
does. -/
def Flurry.compact : Flurry where
  uint32 :=
    { write := fun value => writeNumber value.toNat
      read := readNumber >>= fun number => pure (BitVec.ofNat 32 number)
      read_write := by
        intro value rest
        have small : value.toNat < 256 ^ 4 := value.isLt
        rw [bind_apply_ok (readNumber_writeNumber small rest)]
        simp }
  string :=
    { write := writeName
      read := readName
      read_write := readName_writeName }
  read_zeros := by
    intro count value rest read
    obtain ⟨number, after, readZero, read⟩ := of_bind_apply_ok read
    cases read
    cases count with
    | zero =>
        cases readZero
    | succ count =>
        rw [List.replicate_succ, readNumber, readByte_bind] at readZero
        cases readZero
        rfl

end Compact

def connectRequest : BitVec 32 :=
  0x101

def connectReply : BitVec 32 :=
  0x201

def replyOk : BitVec 32 :=
  0

def replyNotFound : BitVec 32 :=
  1

def maxServiceRecordSize : Int :=
  128

def text (message : String) : Bytes :=
  message.toUTF8.toList

inductive StreamState where
  | created
  | waitService
  | accepting
  | connected
  | disconnected
  deriving DecidableEq, Repr

/-- The part of a base stream that takes part in the negotiation. -/
structure ServiceStream where
  state : StreamState
  topLevel : Bool
  endRead : Bool
  /-- Whether there is a current attachment. -/
  attached : Bool
  rxSegments : List Bytes
  rxAvailable : Int
  rxRecordAvailable : Int
  rxRecordSizes : List Int
  rxBufferUsed : Int
  receiveBufSize : Int
  /-- The records passed to `write_record`. -/
  written : List Bytes
  /-- The servers whose queue of connections the stream was put on. -/
  queuedOn : List Nat
  /-- The messages passed to `set_error`. -/
  errors : List Bytes
  deriving DecidableEq, Repr

namespace ServiceStream

def create (state : StreamState) : ServiceStream where
  state := state
  topLevel := false
  endRead := false
  attached := false
  rxSegments := []
  rxAvailable := 0
  rxRecordAvailable := 0
  rxRecordSizes := []
  rxBufferUsed := 0
  receiveBufSize := 65536
  written := []
  queuedOn := []
  errors := []

def isLinkUp (stream : ServiceStream) : Bool :=
  stream.state = .connected

/-- `segment_size`, an `int`. -/
def segmentSize (segment : Bytes) : Int :=
  wrapInt segment.length

/-- Every segment that brings data completes a record. -/
def rxEnqueueSegment (stream : ServiceStream) (segment : Bytes) :
    ServiceStream :=
  let size := segmentSize segment
  let stream :=
    { stream with
      rxSegments := stream.rxSegments ++ [segment]
      rxAvailable := wrapInt (stream.rxAvailable + size)
      rxRecordAvailable := wrapInt (stream.rxRecordAvailable + size)
      rxBufferUsed := wrapInt (stream.rxBufferUsed + size) }
  if 0 < stream.rxRecordAvailable then
    { stream with
      rxRecordSizes := stream.rxRecordSizes ++ [stream.rxRecordAvailable]
      rxRecordAvailable := 0 }
  else stream

/-- `shutdown` for reading. -/
def shutdownRead (stream : ServiceStream) : ServiceStream :=
  if stream.isLinkUp ∧ stream.endRead = false then
    { stream with
      rxAvailable := 0
      rxRecordAvailable := 0
      rxBufferUsed := 0
      rxSegments := []
      rxRecordSizes := []
      endRead := true }
  else stream

/-- The loop of `read_data`, with the number of bytes read so far.  Every
pass takes a segment, and without a segment an assertion fails, so that one
more pass than there are segments is enough. -/
def readDataLoop :
    (fuel : Nat) → ServiceStream → (maxSize actualSize : Int) →
      Option (Int × ServiceStream)
  | 0, _, _, _ => none
  | fuel + 1, stream, maxSize, actualSize =>
      if 0 < maxSize ∧ 0 < stream.rxAvailable then do
        guard (stream.endRead = false)
        match stream.rxSegments with
        | [] => none
        | segment :: segments =>
            let size := segmentSize segment
            guard (0 ≤ size)
            guard (size ≤ maxSize)
            let stream :=
              { stream with
                rxSegments := segments
                rxAvailable := wrapInt (stream.rxAvailable - size)
                rxBufferUsed := wrapInt (stream.rxBufferUsed - size) }
            guard ((0 : Int) ≤ stream.rxAvailable)
            match stream.rxRecordSizes with
            | headsize :: sizes =>
                guard (0 ≤ headsize - size)
                if headsize - size = 0 then
                  return (actualSize + size,
                    { stream with rxRecordSizes := sizes })
                else
                  readDataLoop fuel
                    { stream with
                      rxRecordSizes :=
                        (headsize - size) :: sizes }.shutdownRead
                    (maxSize - size) (actualSize + size)
            | [] =>
                guard (0 ≤ wrapInt (stream.rxRecordAvailable - size))
                readDataLoop fuel
                  { stream with
                    rxRecordAvailable :=
                      wrapInt
                        (stream.rxRecordAvailable - size) }.shutdownRead
                  (maxSize - size) (actualSize + size)
      else some (actualSize, stream)

/-- `read_data`: the number of bytes read.  The buffer is left as it is.  At
the end the receive window is computed anew, which asserts that the receive
buffer has a size. -/
def readData (stream : ServiceStream) (maxSize : Int) :
    Option (Int × ServiceStream) := do
  let (actualSize, stream) ←
    readDataLoop (stream.rxSegments.length + 1) stream maxSize 0
  guard (0 < stream.receiveBufSize)
  return (actualSize, stream)

/-- Drop what is left of a record that did not fit. -/
def dropRest (stream : ServiceStream) (countBefore : Nat) :
    Option ServiceStream :=
  if stream.rxRecordSizes.length = countBefore then do
    let (skipSize, stream) ← stream.readData (2 ^ 30)
    guard (0 < skipSize)
    return stream
  else some stream

/-- `read_record` into a buffer of the caller. -/
def readRecordInto (stream : ServiceStream) (maxSize : Int) :
    Option (Int × ServiceStream) :=
  if stream.rxRecordSizes = [] then some (-1, stream)
  else do
    let countBefore := stream.rxRecordSizes.length
    let (actualSize, stream) ← stream.readData maxSize
    guard (0 < actualSize)
    let stream ← stream.dropRest countBefore
    guard (stream.rxRecordSizes.length = countBefore - 1)
    return (actualSize, stream)

def pendingRecordSize (stream : ServiceStream) : Int :=
  stream.rxRecordSizes.head?.getD (-1)

/-- `read_record` into a new array, which is made of zero bytes. -/
def readRecord (stream : ServiceStream) (maxSize : Int) :
    Option (Bytes × ServiceStream) :=
  let recSize := stream.pendingRecordSize
  if recSize ≤ 0 then some ([], stream)
  else do
    let bufSize := min recSize maxSize
    let buf : Bytes := List.replicate bufSize.toNat 0
    let (actualSize, stream) ← stream.readRecordInto bufSize
    guard (actualSize = bufSize)
    return (buf, stream)

def disconnect (stream : ServiceStream) : ServiceStream :=
  { stream with state := .disconnected }

def fail (stream : ServiceStream) (error : Bytes) : ServiceStream :=
  { stream.disconnect with errors := stream.errors ++ [error] }

def writeRecord (stream : ServiceStream) (record : Bytes) :
    ServiceStream :=
  { stream with written := stream.written ++ [record] }

/-! ## The two sides -/

section Negotiation

variable (flurry : Flurry)

def serviceRequest (service protocol : Bytes) : Bytes :=
  flurry.uint32.write connectRequest ++
    (flurry.string.write service ++ flurry.string.write protocol)

def serviceReply (reply : BitVec 32) (message : Bytes) : Bytes :=
  flurry.uint32.write connectReply ++
    (flurry.uint32.write reply ++ flurry.string.write message)

/-- `connect_to` up to the search for a channel to attach to. -/
def connectTo (stream : ServiceStream) (service protocol : Bytes) :
    Option ServiceStream := do
  guard (service ≠ [])
  guard (stream.state = .created)
  guard (stream.attached = false)
  let stream := { stream with topLevel := true }
  let stream := stream.writeRecord (serviceRequest flurry service protocol)
  return { stream with state := .waitService }

def readRequest : Reader (BitVec 32 × Bytes × Bytes) := do
  let code ← flurry.uint32.read
  let service ← flurry.string.read
  let protocol ← flurry.string.read
  return (code, service, protocol)

def readReply : Reader (BitVec 32 × BitVec 32 × Bytes) := do
  let code ← flurry.uint32.read
  let status ← flurry.uint32.read
  let message ← flurry.string.read
  return (code, status, message)

/-- The listeners of a host: each pair of a service and a protocol has at
most one server. -/
abbrev Listeners := Bytes × Bytes → Option Nat

def unknownProtocol (service protocol : Bytes) : Bytes :=
  text "Request for service " ++ service ++
    (text " with unknown protocol " ++ protocol)

def gotServiceRequest (stream : ServiceStream) (listenerFor : Listeners) :
    Option ServiceStream := do
  guard (stream.state = .accepting)
  let (record, stream) ← stream.readRecord maxServiceRecordSize
  let ((code, service, protocol), _) ←
    (readRequest flurry record).toOption
  if code ≠ connectRequest then
    return stream.fail (text "Bad service request")
  else
    match listenerFor (service, protocol) with
    | none =>
        let message := unknownProtocol service protocol
        return (stream.writeRecord
          (serviceReply flurry replyNotFound message)).fail message
    | some server =>
        let stream :=
          stream.writeRecord (serviceReply flurry replyOk (text "ok"))
        return { stream with
          state := .connected
          queuedOn := stream.queuedOn ++ [server] }

def connectFailed (code status : BitVec 32) (message : Bytes) : Bytes :=
  text "Service connect failed with code " ++ text (toString code.toNat) ++
    (text " status " ++ text (toString status.toNat) ++
      (text " message " ++ message))

def gotServiceReply (stream : ServiceStream) : Option ServiceStream := do
  guard (stream.state = .waitService)
  guard (stream.attached = true)
  let (record, stream) ← stream.readRecord maxServiceRecordSize
  let ((code, status, message), _) ← (readReply flurry record).toOption
  if code ≠ connectReply ∨ status ≠ 0 then
    return stream.fail (connectFailed code status message)
  else
    return { stream with state := .connected }

end Negotiation

/-- Nothing but the receive side changes. -/
structure OnlyReceives (stream next : ServiceStream) : Prop where
  state : next.state = stream.state
  written : next.written = stream.written
  queuedOn : next.queuedOn = stream.queuedOn

theorem OnlyReceives.refl (stream : ServiceStream) :
    OnlyReceives stream stream :=
  ⟨rfl, rfl, rfl⟩

theorem OnlyReceives.trans
    {stream middle final : ServiceStream}
    (first : OnlyReceives stream middle)
    (second : OnlyReceives middle final) :
    OnlyReceives stream final :=
  ⟨second.state.trans first.state, second.written.trans first.written,
    second.queuedOn.trans first.queuedOn⟩

theorem rxEnqueueSegment_onlyReceives
    (stream : ServiceStream) (segment : Bytes) :
    OnlyReceives stream (stream.rxEnqueueSegment segment) := by
  simp only [rxEnqueueSegment]
  split <;> exact ⟨rfl, rfl, rfl⟩

private theorem shutdownRead_onlyReceives (stream : ServiceStream) :
    OnlyReceives stream stream.shutdownRead := by
  rw [shutdownRead]
  split <;> exact ⟨rfl, rfl, rfl⟩

private theorem readDataLoop_onlyReceives
    {fuel : Nat} {stream next : ServiceStream}
    {maxSize actualSize result : Int}
    (returned :
      readDataLoop fuel stream maxSize actualSize =
        some (result, next)) :
    OnlyReceives stream next := by
  induction fuel generalizing stream maxSize actualSize with
  | zero =>
      cases returned
  | succ fuel inductionHypothesis =>
      rw [readDataLoop] at returned
      split at returned
      · rw [guard_bind_eq_some_iff] at returned
        obtain ⟨_, returned⟩ := returned
        split at returned
        · cases returned
        · dsimp only at returned
          rw [guard_bind_eq_some_iff, guard_bind_eq_some_iff,
            guard_bind_eq_some_iff] at returned
          obtain ⟨_, _, _, returned⟩ := returned
          split at returned
          · rw [guard_bind_eq_some_iff] at returned
            obtain ⟨_, returned⟩ := returned
            split at returned
            · cases returned
              exact ⟨rfl, rfl, rfl⟩
            · have rest :=
                (shutdownRead_onlyReceives _).trans
                  (inductionHypothesis returned)
              exact ⟨rest.state, rest.written, rest.queuedOn⟩
          · rw [guard_bind_eq_some_iff] at returned
            obtain ⟨_, returned⟩ := returned
            have rest :=
              (shutdownRead_onlyReceives _).trans
                (inductionHypothesis returned)
            exact ⟨rest.state, rest.written, rest.queuedOn⟩
      · cases returned
        exact OnlyReceives.refl _

private theorem readData_onlyReceives
    {stream next : ServiceStream} {maxSize result : Int}
    (returned : stream.readData maxSize = some (result, next)) :
    OnlyReceives stream next := by
  rw [readData, bind_eq_some_iff] at returned
  obtain ⟨⟨actualSize, middle⟩, looped, returned⟩ := returned
  dsimp only at returned
  rw [guard_bind_eq_some_iff] at returned
  obtain ⟨_, returned⟩ := returned
  cases returned
  exact readDataLoop_onlyReceives looped

private theorem dropRest_onlyReceives
    {stream next : ServiceStream} {countBefore : Nat}
    (returned : stream.dropRest countBefore = some next) :
    OnlyReceives stream next := by
  rw [dropRest] at returned
  split at returned
  · rw [bind_eq_some_iff] at returned
    obtain ⟨⟨skipSize, middle⟩, skipped, returned⟩ := returned
    dsimp only at returned
    rw [guard_bind_eq_some_iff] at returned
    obtain ⟨_, returned⟩ := returned
    cases returned
    exact readData_onlyReceives skipped
  · cases returned
    exact OnlyReceives.refl stream

/-- `read_record` finds no record, or returns what `read_data` took, which
is something, and drops the rest of the record. -/
theorem readRecordInto_eq_some
    {stream next : ServiceStream} {maxSize result : Int}
    (returned : stream.readRecordInto maxSize = some (result, next)) :
    stream.rxRecordSizes = [] ∧ next = stream ∨
      0 < result ∧
        ∃ middle,
          stream.readData maxSize = some (result, middle) ∧
            middle.dropRest stream.rxRecordSizes.length = some next := by
  rw [readRecordInto] at returned
  split at returned
  · next none =>
      cases returned
      exact Or.inl ⟨none, rfl⟩
  · dsimp only at returned
    rw [bind_eq_some_iff] at returned
    obtain ⟨⟨actualSize, middle⟩, read, returned⟩ := returned
    dsimp only at returned
    rw [guard_bind_eq_some_iff, bind_eq_some_iff] at returned
    obtain ⟨positive, after, dropped, returned⟩ := returned
    rw [guard_bind_eq_some_iff] at returned
    obtain ⟨_, returned⟩ := returned
    cases returned
    exact Or.inr ⟨positive, middle, read, dropped⟩

private theorem readRecordInto_onlyReceives
    {stream next : ServiceStream} {maxSize result : Int}
    (returned : stream.readRecordInto maxSize = some (result, next)) :
    OnlyReceives stream next := by
  rcases readRecordInto_eq_some returned with
    ⟨_, unchanged⟩ | ⟨_, middle, read, dropped⟩
  · rw [unchanged]
    exact OnlyReceives.refl stream
  · exact
      (readData_onlyReceives read).trans (dropRest_onlyReceives dropped)

/-- Whatever was received, a record is read as zero bytes. -/
theorem readRecord_zeros
    {stream next : ServiceStream} {maxSize : Int} {record : Bytes}
    (returned : stream.readRecord maxSize = some (record, next)) :
    (∃ count, record = List.replicate count 0) ∧
      OnlyReceives stream next := by
  rw [readRecord] at returned
  dsimp only at returned
  split at returned
  · cases returned
    exact ⟨⟨0, rfl⟩, OnlyReceives.refl stream⟩
  · rw [bind_eq_some_iff] at returned
    obtain ⟨⟨actualSize, middle⟩, read, returned⟩ := returned
    dsimp only at returned
    rw [guard_bind_eq_some_iff] at returned
    obtain ⟨_, returned⟩ := returned
    cases returned
    exact ⟨⟨_, rfl⟩, readRecordInto_onlyReceives read⟩

section Negotiations

variable (flurry : Flurry)

private theorem readRequest_zeros
    {count : Nat} {code : BitVec 32} {names : Bytes × Bytes}
    {rest : Bytes}
    (decoded :
      readRequest flurry (List.replicate count 0) =
        .ok ((code, names), rest)) :
    code = 0 := by
  obtain ⟨value, after, read, decoded⟩ := of_bind_apply_ok decoded
  obtain ⟨service, _, _, decoded⟩ := of_bind_apply_ok decoded
  obtain ⟨protocol, _, _, decoded⟩ := of_bind_apply_ok decoded
  cases decoded
  exact flurry.read_zeros count code after read

/-- A request is never answered: the call ends with an error of the archive,
or the stream is disconnected. -/
theorem gotServiceRequest_unanswered
    {stream next : ServiceStream} {listenerFor : Listeners}
    (returned :
      stream.gotServiceRequest flurry listenerFor = some next) :
    next.state = .disconnected ∧ next.written = stream.written := by
  rw [gotServiceRequest, guard_bind_eq_some_iff, bind_eq_some_iff]
    at returned
  obtain ⟨_, ⟨record, middle⟩, read, returned⟩ := returned
  obtain ⟨⟨count, zeros⟩, onlyReceives⟩ := readRecord_zeros read
  dsimp only at returned
  rw [bind_eq_some_iff] at returned
  obtain ⟨⟨⟨code, service, protocol⟩, rest⟩, decoded, returned⟩ := returned
  have decodedZeros :
      readRequest flurry (List.replicate count 0) =
        .ok ((code, service, protocol), rest) := by
    rw [← zeros]
    cases outcome : readRequest flurry record with
    | error message =>
        rw [outcome] at decoded
        cases decoded
    | ok value =>
        rw [outcome] at decoded
        exact congrArg Except.ok (Option.some.inj decoded)
  have isZero := readRequest_zeros flurry decodedZeros
  have bad : code ≠ connectRequest := by
    rw [isZero]
    decide
  dsimp only at returned
  rw [if_pos bad] at returned
  cases returned
  exact ⟨rfl, onlyReceives.written⟩

/-- The request of a client and the answer to it are delivered as one record
each, and both sides agree with the listeners. -/
def Negotiates (listenerFor : Listeners) (service protocol : Bytes) :
    Prop :=
  ∃ client request server answer final,
    (create .created).connectTo flurry service protocol = some client ∧
      client.written = [request] ∧
      ((create .accepting).rxEnqueueSegment request).gotServiceRequest
          flurry listenerFor =
        some server ∧
      server.written = [answer] ∧
      ({ client with attached := true }.rxEnqueueSegment
          answer).gotServiceReply flurry =
        some final ∧
      match listenerFor (service, protocol) with
      | some listener =>
          server.state = .connected ∧ server.queuedOn = [listener] ∧
            final.state = .connected
      | none =>
          server.state = .disconnected ∧ server.queuedOn = [] ∧
            final.state = .disconnected

/-- No negotiation succeeds, for any service and any listeners. -/
theorem not_negotiates
    (listenerFor : Listeners) (service protocol : Bytes) :
    ¬ Negotiates flurry listenerFor service protocol := by
  rintro ⟨client, request, server, answer, final, _, _, served, answered,
    _⟩
  have unanswered := (gotServiceRequest_unanswered flurry served).2
  rw [(rxEnqueueSegment_onlyReceives _ request).written, answered]
    at unanswered
  cases unanswered

end Negotiations

/-- The names `shell` and `tty`. -/
def shellName : Bytes :=
  [115, 104, 101, 108, 108]

def ttyName : Bytes :=
  [116, 116, 121]

/-- Somebody listens for the protocol `tty` of the service `shell`. -/
def shellListener : Listeners := fun names =>
  if names = (shellName, ttyName) then some 1 else none

theorem registered_service_not_negotiated :
    shellListener (shellName, ttyName) = some 1 ∧
      ((create .accepting).rxEnqueueSegment
          (serviceRequest Flurry.compact shellName ttyName)).readRecord
            maxServiceRecordSize =
        some (List.replicate 13 0, create .accepting) ∧
      ((create .accepting).rxEnqueueSegment
          (serviceRequest Flurry.compact shellName
            ttyName)).gotServiceRequest Flurry.compact shellListener =
        none ∧
      ¬ Negotiates Flurry.compact shellListener shellName ttyName := by
  have raises :
      ((create .accepting).rxEnqueueSegment
          (serviceRequest Flurry.compact shellName
            ttyName)).gotServiceRequest Flurry.compact shellListener =
        none := by
    decide +kernel
  refine ⟨rfl, by decide +kernel, raises, ?_⟩
  rintro ⟨client, request, server, answer, final, connected, written,
    served, _⟩
  cases connected
  cases written
  rw [raises] at served
  cases served

end ServiceStream

end StructuredStreams.Service

import StructuredStreams.Foundation.Transducer
import StructuredStreams.Service.ReceiveAccounting
import StructuredStreams.Stream.DatagramStream

/-!
# Reading datagrams

A base stream keeps the datagrams it received and hands each of them to one
call of `read_datagram`, in the order of arrival.  What the caller does not
want of a datagram is lost.  A datagram without contents has no record to
read, so that the scan always passes over it: it is never handed out and never
leaves the queue.

A received datagram is queued as a `datagram_stream` at some position of the
packet.  Sizes that the caller passes are naturals.
-/

namespace StructuredStreams.Stream

open ByteCodec
open Service (text)
open Service.ServiceStream (ShutdownMode)

namespace DatagramStream

def shutdown (stream : DatagramStream) (mode : ShutdownMode) :
    DatagramStream :=
  if mode ≠ .write then stream.seekEnd else stream

/-- The bytes that are left. -/
def contents (stream : DatagramStream) : Bytes :=
  stream.payload.drop stream.pos

end DatagramStream

/-- The part of a base stream that reads datagrams.  The field `finished`
records the datagram streams as the calls leave them, the latest last, and is
read by no function. -/
structure DatagramReader where
  receivedDatagrams : List DatagramStream
  errorString : Bytes
  finished : List DatagramStream
  deriving DecidableEq, Repr

/-- The scan of `get_datagram`: the first datagram with a record, and the
others. -/
def takePending :
    List DatagramStream → Option (DatagramStream × List DatagramStream)
  | [] => none
  | sub :: rest =>
      if sub.pendingRecords = 0 then
        (takePending rest).map fun taken => (taken.1, sub :: taken.2)
      else
        some (sub, rest)

namespace DatagramReader

def create : DatagramReader :=
  ⟨[], [], []⟩

def noDatagrams : Bytes :=
  text "No datagrams available for reading"

def getDatagram (reader : DatagramReader) :
    Option DatagramStream × DatagramReader :=
  match takePending reader.receivedDatagrams with
  | some (sub, rest) =>
      (some sub, { reader with receivedDatagrams := rest })
  | none => (none, { reader with errorString := noDatagrams })

/-- A datagram stream is shut down and let go. -/
def finish (reader : DatagramReader) (sub : DatagramStream) :
    DatagramReader :=
  { reader with finished := reader.finished ++ [sub.shutdown .reset] }

/-- The overload of `read_datagram` that fills a buffer. -/
def readDatagramInto (reader : DatagramReader) (maxSize : Nat) :
    DatagramStream.Filled × DatagramReader :=
  match reader.getDatagram with
  | (none, reader) => (⟨-1, []⟩, reader)
  | (some sub, reader) =>
      let (filled, sub) := sub.readData maxSize
      (filled, reader.finish sub)

/-- The overload of `read_datagram` that returns a byte array. -/
def readDatagram (reader : DatagramReader) (maxSize : Nat) :
    Bytes × DatagramReader :=
  match reader.getDatagram with
  | (none, reader) => ([], reader)
  | (some sub, reader) =>
      let (data, sub) := sub.readRecord maxSize
      (data, reader.finish sub)

end DatagramReader

inductive DatagramCall where
  /-- `received_datagrams_.push_back` -/
  | received (datagram : DatagramStream)
  | readInto (maxSize : Nat)
  | read (maxSize : Nat)
  deriving DecidableEq, Repr

inductive DatagramAnswer where
  | filled (filled : DatagramStream.Filled)
  | returned (data : Bytes)
  deriving DecidableEq, Repr

/-- The calls on a base stream, with what they return. -/
def datagramReader :
    Transducer DatagramReader DatagramCall DatagramAnswer where
  step
    | reader, .received datagram =>
        ({ reader with
            receivedDatagrams := reader.receivedDatagrams ++ [datagram] },
          [])
    | reader, .readInto maxSize =>
        let (filled, reader) := reader.readDatagramInto maxSize
        (reader, [.filled filled])
    | reader, .read maxSize =>
        let (data, reader) := reader.readDatagram maxSize
        (reader, [.returned data])

/-- A mailbox holds the contents that wait and is served from the front.
Where nothing waits, nothing is returned. -/
def mailbox : Transducer (List Bytes) DatagramCall DatagramAnswer where
  step
    | waiting, .received datagram =>
        if datagram.contents = [] then (waiting, [])
        else (waiting ++ [datagram.contents], [])
    | [], .readInto _ => ([], [.filled ⟨-1, []⟩])
    | [], .read _ => ([], [.returned []])
    | contents :: waiting, .readInto maxSize =>
        (waiting,
          [.filled
            ⟨(contents.take maxSize).length, contents.take maxSize⟩])
    | contents :: waiting, .read maxSize =>
        (waiting, [.returned (contents.take maxSize)])

def DatagramStream.isEmpty (stream : DatagramStream) : Bool :=
  decide (stream.contents = [])

/-- The datagrams with contents. -/
def withContents (datagrams : List DatagramStream) : List DatagramStream :=
  datagrams.filter fun datagram => !datagram.isEmpty

/-- The datagrams that a call queues. -/
def DatagramCall.arrivals : DatagramCall → List DatagramStream
  | .received datagram => [datagram]
  | .readInto _ | .read _ => []

namespace DatagramStream

private theorem contents_length (stream : DatagramStream) :
    stream.contents.length = stream.remain := by
  rw [contents, List.length_drop, remain, size]

/-- A caller gets as much of the contents as it wants. -/
theorem readData_fst (stream : DatagramStream) (maxSize : Nat) :
    (stream.readData maxSize).1 =
      ⟨(stream.contents.take maxSize).length,
        stream.contents.take maxSize⟩ := by
  have copied := stream.mid_eq_wanted maxSize
  have length := stream.wanted_length maxSize
  simp only [readData, copied]
  rw [← length]
  rfl

private theorem pendingRecords_eq_zero_iff (stream : DatagramStream) :
    stream.pendingRecords = 0 ↔ stream.isEmpty = true := by
  have length := stream.contents_length
  have whole := stream.pos_add_remain
  rw [pendingRecords, isEmpty, decide_eq_true_iff,
    ← List.length_eq_zero_iff]
  split
  · omega
  · omega

end DatagramStream

private theorem takePending_eq_none
    {queue : List DatagramStream} (scanned : takePending queue = none) :
    withContents queue = [] := by
  induction queue with
  | nil =>
      rfl
  | cons sub rest inductionHypothesis =>
      rw [takePending] at scanned
      split at scanned
      · next without =>
          rw [Option.map_eq_none_iff] at scanned
          rw [DatagramStream.pendingRecords_eq_zero_iff] at without
          rw [withContents, List.filter_cons, without]
          exact inductionHypothesis scanned
      · cases scanned

/-- The scan takes the first datagram with contents and passes over what is
empty. -/
theorem takePending_eq_some
    {queue rest : List DatagramStream} {sub : DatagramStream}
    (scanned : takePending queue = some (sub, rest)) :
    withContents queue = sub :: withContents rest ∧
      queue.filter DatagramStream.isEmpty =
        rest.filter DatagramStream.isEmpty := by
  induction queue generalizing rest with
  | nil =>
      cases scanned
  | cons first queue inductionHypothesis =>
      rw [takePending] at scanned
      split at scanned
      · next without =>
          rw [Option.map_eq_some_iff] at scanned
          obtain ⟨⟨other, others⟩, later, same⟩ := scanned
          cases same
          obtain ⟨contents, empties⟩ := inductionHypothesis later
          rw [DatagramStream.pendingRecords_eq_zero_iff] at without
          constructor
          · simpa [withContents, without] using contents
          · simpa [List.filter_cons, without] using empties
      · next pending =>
          cases scanned
          rw [DatagramStream.pendingRecords_eq_zero_iff,
            Bool.not_eq_true] at pending
          constructor
          · simp [withContents, pending]
          · simp [pending]

/-- The datagrams with contents that were handed out and those that wait are
those that arrived, in order, each of the former read to its end; the empty
ones all wait. -/
structure KeepsDatagrams
    (arrived : List DatagramStream) (reader : DatagramReader) : Prop where
  empties :
    reader.receivedDatagrams.filter DatagramStream.isEmpty =
      arrived.filter DatagramStream.isEmpty
  payloads :
    (withContents arrived).map DatagramStream.payload =
      (reader.finished ++ withContents reader.receivedDatagrams).map
        DatagramStream.payload
  atEnd : ∀ sub ∈ reader.finished, sub.atEnd = true

/-- A datagram was taken out, if one has contents. -/
inductive Took (reader : DatagramReader) :
    Option DatagramStream × DatagramReader → Prop
  | nothing (next : DatagramReader) :
      withContents reader.receivedDatagrams = [] →
        next.receivedDatagrams = reader.receivedDatagrams →
          next.finished = reader.finished →
            Took reader (none, next)
  | datagram (sub : DatagramStream) (next : DatagramReader) :
      withContents reader.receivedDatagrams =
          sub :: withContents next.receivedDatagrams →
        reader.receivedDatagrams.filter DatagramStream.isEmpty =
            next.receivedDatagrams.filter DatagramStream.isEmpty →
          next.finished = reader.finished →
            Took reader (some sub, next)

private theorem DatagramReader.getDatagram_took (reader : DatagramReader) :
    Took reader reader.getDatagram := by
  rw [DatagramReader.getDatagram]
  cases scanned : takePending reader.receivedDatagrams with
  | none =>
      exact Took.nothing _ (takePending_eq_none scanned) rfl rfl
  | some taken =>
      obtain ⟨contents, empties⟩ := takePending_eq_some scanned
      exact Took.datagram taken.1 _ contents empties rfl

namespace KeepsDatagrams

variable {arrived : List DatagramStream} {reader next : DatagramReader}

theorem nothing
    (keeps : KeepsDatagrams arrived reader)
    (queue : next.receivedDatagrams = reader.receivedDatagrams)
    (finished : next.finished = reader.finished) :
    KeepsDatagrams arrived next where
  empties := by rw [queue, keeps.empties]
  payloads := by rw [queue, finished, keeps.payloads]
  atEnd := by
    rw [finished]
    exact keeps.atEnd

/-- The datagram that was taken out is read and finished. -/
theorem finish
    (keeps : KeepsDatagrams arrived reader) {sub left : DatagramStream}
    (contents :
      withContents reader.receivedDatagrams =
        sub :: withContents next.receivedDatagrams)
    (empties :
      reader.receivedDatagrams.filter DatagramStream.isEmpty =
        next.receivedDatagrams.filter DatagramStream.isEmpty)
    (finished : next.finished = reader.finished)
    (payload : left.payload = sub.payload) :
    KeepsDatagrams arrived (next.finish left) where
  empties := empties.symm.trans keeps.empties
  payloads := by
    have shut : (left.shutdown .reset).payload = sub.payload := payload
    rw [keeps.payloads, contents, DatagramReader.finish, finished]
    simp [shut]
  atEnd := by
    intro other member
    rw [DatagramReader.finish, finished, List.mem_append,
      List.mem_singleton] at member
    rcases member with earlier | last
    · exact keeps.atEnd other earlier
    · rw [last]
      exact decide_eq_true (Nat.le_refl _)

theorem received
    (keeps : KeepsDatagrams arrived reader) (datagram : DatagramStream) :
    KeepsDatagrams (arrived ++ [datagram])
      { reader with
        receivedDatagrams := reader.receivedDatagrams ++ [datagram] } where
  empties := by
    rw [List.filter_append, List.filter_append, keeps.empties]
  payloads := by
    have earlier := keeps.payloads
    simp only [withContents, List.filter_append, List.map_append] at earlier ⊢
    rw [earlier, List.append_assoc]
  atEnd := keeps.atEnd

end KeepsDatagrams

/-- The contents that wait in a mailbox are those in the queue. -/
def Waits (reader : DatagramReader) (waiting : List Bytes) : Prop :=
  (withContents reader.receivedDatagrams).map DatagramStream.contents =
    waiting

theorem Waits.received
    {reader : DatagramReader} {waiting : List Bytes}
    (waits : Waits reader waiting) (datagram : DatagramStream) :
    Waits
      { reader with
        receivedDatagrams := reader.receivedDatagrams ++ [datagram] }
      (if datagram.contents = [] then waiting
        else waiting ++ [datagram.contents]) := by
  subst waits
  rw [Waits, withContents, List.filter_append, List.map_append]
  by_cases empty : datagram.contents = []
  · rw [if_pos empty]
    simp [withContents, DatagramStream.isEmpty, empty]
  · rw [if_neg empty]
    simp [withContents, DatagramStream.isEmpty, empty]

/-- Every call is answered as the mailbox answers it. -/
theorem datagramReader_step
    (reader : DatagramReader) (waiting : List Bytes) (call : DatagramCall)
    (waits : Waits reader waiting) :
    (datagramReader.step reader call).2 = (mailbox.step waiting call).2 ∧
      Waits (datagramReader.step reader call).1
        (mailbox.step waiting call).1 := by
  cases call with
  | received datagram =>
      have received := waits.received datagram
      simp only [datagramReader, mailbox]
      split at received
      · next empty =>
          rw [if_pos empty]
          exact ⟨rfl, received⟩
      · next full =>
          rw [if_neg full]
          exact ⟨rfl, received⟩
  | readInto maxSize =>
      have took := reader.getDatagram_took
      simp only [datagramReader, DatagramReader.readDatagramInto]
      generalize reader.getDatagram = result at took ⊢
      subst waits
      cases took with
      | nothing next empty queue finished =>
          rw [empty]
          refine ⟨rfl, ?_⟩
          rw [Waits, queue, empty]
          rfl
      | datagram sub next contents empties finished =>
          rw [contents]
          refine ⟨?_, rfl⟩
          dsimp only
          rw [sub.readData_fst]
          rfl
  | read maxSize =>
      have took := reader.getDatagram_took
      simp only [datagramReader, DatagramReader.readDatagram]
      generalize reader.getDatagram = result at took ⊢
      subst waits
      cases took with
      | nothing next empty queue finished =>
          rw [empty]
          refine ⟨rfl, ?_⟩
          rw [Waits, queue, empty]
          rfl
      | datagram sub next contents empties finished =>
          rw [contents]
          refine ⟨?_, rfl⟩
          dsimp only
          rw [(sub.readRecord_eq maxSize).1]
          rfl

/-- Every call keeps the datagrams. -/
theorem KeepsDatagrams.step
    {arrived : List DatagramStream} {reader : DatagramReader}
    (keeps : KeepsDatagrams arrived reader) (call : DatagramCall) :
    KeepsDatagrams (arrived ++ call.arrivals)
      (datagramReader.step reader call).1 := by
  cases call with
  | received datagram =>
      exact keeps.received datagram
  | readInto maxSize =>
      have took := reader.getDatagram_took
      simp only [datagramReader, DatagramReader.readDatagramInto,
        DatagramCall.arrivals, List.append_nil]
      generalize reader.getDatagram = result at took ⊢
      cases took with
      | nothing next empty queue finished =>
          exact keeps.nothing queue finished
      | datagram sub next contents empties finished =>
          exact keeps.finish contents empties finished rfl
  | read maxSize =>
      have took := reader.getDatagram_took
      simp only [datagramReader, DatagramReader.readDatagram,
        DatagramCall.arrivals, List.append_nil]
      generalize reader.getDatagram = result at took ⊢
      cases took with
      | nothing next empty queue finished =>
          exact keeps.nothing queue finished
      | datagram sub next contents empties finished =>
          have payload := (sub.readRecord_eq maxSize).2.1
          exact keeps.finish contents empties finished payload

/-- In every run of calls on a base stream, `read_datagram` answers as a
mailbox does: each datagram with contents is handed out once, in the order of
arrival and as far as the caller wants it, and a call finds nothing exactly
where none of them waits.  The queue holds the contents of the mailbox, and
besides every empty datagram that ever arrived. -/
theorem datagrams_read_as_from_mailbox (calls : List DatagramCall) :
    datagramReader.emitted DatagramReader.create calls =
        mailbox.emitted [] calls ∧
      Waits (datagramReader.after DatagramReader.create calls)
        (mailbox.after [] calls) ∧
      KeepsDatagrams (calls.flatMap DatagramCall.arrivals)
        (datagramReader.after DatagramReader.create calls) := by
  have nothingWaits : Waits DatagramReader.create [] := rfl
  have nothingKept : KeepsDatagrams [] DatagramReader.create :=
    ⟨rfl, rfl, nofun⟩
  obtain ⟨answers, waits⟩ :=
    datagramReader.simulates datagramReader_step nothingWaits calls
  refine ⟨answers, waits, ?_⟩
  refine
    datagramReader.after_induct
      (fun front reader =>
        KeepsDatagrams (front.flatMap DatagramCall.arrivals) reader)
      ?_ [] nothingKept calls
  intro front reader call keeps
  rw [List.flatMap_append, List.flatMap_singleton]
  exact keeps.step call

/-- The empty datagram stays, of the second one a byte is lost, and the third
one is read by the other overload. -/
example :
    datagramReader.emitted DatagramReader.create
        [.received (.create []), .received (.create [1, 2]), .readInto 1,
          .read 5, .received (.create [3]), .read 5] =
      [.filled ⟨1, [1]⟩, .returned [], .returned [3]] := by
  decide

end StructuredStreams.Stream

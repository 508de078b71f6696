import StructuredStreams.Foundation.RecordQueue
import StructuredStreams.Service.ReceiveAccounting

/-!
# Reading from a connected stream

A stream that is read is meant to behave as a queue of records.  The code
falls short of it in three ways.  A segment that is larger than the buffer
fails an assertion.  An empty segment before others ends the reading, and
what is queued is dropped.  And nothing is copied into the buffer of the
caller, so that the right bytes are there only when they were there before.
-/

namespace StructuredStreams.Service

open ByteCodec RecordQueue

namespace ServiceStream

/-- The two calls, with the buffer of the caller as it is before the call. -/
inductive ReadCall where
  | readData (buffer : Bytes)
  | readRecord (buffer : Bytes)
  deriving DecidableEq, Repr

def ReadCall.buffer : ReadCall → Bytes
  | .readData buffer => buffer
  | .readRecord buffer => buffer

/-- What the caller asks for. -/
def ReadCall.request : ReadCall → Request
  | .readData buffer => .data buffer.length
  | .readRecord buffer => .record buffer.length

/-- The return value, and the buffer after the call. -/
structure ReadOutcome where
  result : Int
  buffer : Bytes
  deriving DecidableEq, Repr

/-- The call itself.  The copy into the buffer is commented out. -/
def ReadCall.apply (stream : ServiceStream) :
    ReadCall → Option (ReadOutcome × ServiceStream)
  | .readData buffer => do
      let (result, stream) ← stream.readData buffer.length
      return (⟨result, buffer⟩, stream)
  | .readRecord buffer => do
      let (result, stream) ← stream.readRecordInto buffer.length
      return (⟨result, buffer⟩, stream)

def readCalls (stream : ServiceStream) :
    List ReadCall → Option (List ReadOutcome × ServiceStream)
  | [] => some ([], stream)
  | call :: calls => do
      let (outcome, stream) ← call.apply stream
      let (outcomes, stream) ← stream.readCalls calls
      return (outcome :: outcomes, stream)

/-- The records queued: one for each segment that is not empty. -/
def records (segments : List Bytes) : List Bytes :=
  segments.filter (· ≠ [])

/-- A call with its outcome, and the answer of the queue it stands for. -/
structure Exchange where
  call : ReadCall
  outcome : ReadOutcome
  answer : Answer UInt8

/-- The outcome is the answer: its length is returned, and the buffer starts
with it.  Without a record, `read_record` returns -1. -/
def Exchange.Shows (exchange : Exchange) (pending : List Bytes) : Prop :=
  exchange.outcome.buffer.take exchange.answer.delivered.length =
      exchange.answer.delivered ∧
    match exchange.call, pending with
    | .readRecord _, [] => exchange.outcome.result = -1
    | _, _ =>
        exchange.outcome.result = exchange.answer.delivered.length

/-- The exchanges are answers of the queue, one after the other. -/
def Follows : List Bytes → List Exchange → List Bytes → Prop
  | pending, [], rest => rest = pending
  | pending, exchange :: exchanges, rest =>
      ∃ middle,
        Answers pending exchange.call.request exchange.answer middle ∧
          exchange.Shows pending ∧ Follows middle exchanges rest

/-- No assertion fails, every call is answered as the queue of records
answers it, the queue left behind is the one that the stream holds, and
every byte is delivered or discarded once and in order. -/
def ReadsLawfully (stream : ServiceStream) (calls : List ReadCall) :
    Prop :=
  ∃ exchanges final,
    exchanges.map Exchange.call = calls ∧
      stream.readCalls calls =
        some (exchanges.map Exchange.outcome, final) ∧
      Follows (records stream.rxSegments) exchanges
        (records final.rxSegments) ∧
      stream.rxSegments.flatten =
        (exchanges.flatMap fun exchange =>
          exchange.answer.delivered ++ exchange.answer.discarded) ++
        final.rxSegments.flatten

/-- Every read that finds data finds a segment at the front that is not
empty, that fits into the buffer and that the buffer already starts with. -/
def FitsEachRead : List Bytes → List ReadCall → Prop
  | _, [] => True
  | segments, call :: calls =>
      segments.flatten = [] ∨
        ∃ segment rest,
          segments = segment :: rest ∧ segment ≠ [] ∧
            segment <+: call.buffer ∧ FitsEachRead rest calls

/-- A connected stream that received nothing yet. -/
structure NewConnected (stream : ServiceStream) : Prop where
  receiver : NewReceiver stream
  connected : stream.state = .connected
  reading : stream.endRead = false
  window : 0 < stream.receiveBufSize

/-- The segments are enqueued one after the other. -/
def enqueueAll (stream : ServiceStream) (segments : List Bytes) :
    ServiceStream :=
  segments.foldl rxEnqueueSegment stream

/-- The invariant of the streams that are read as they should be. -/
structure Reading (stream : ServiceStream) : Prop where
  accounted : Accounted stream
  connected : stream.state = .connected
  reading : stream.endRead = false
  window : 0 < stream.receiveBufSize

theorem Reading.popped
    {stream : ServiceStream} {segment : Bytes} {segments : List Bytes}
    (reading : Reading stream)
    (front : stream.rxSegments = segment :: segments) :
    Reading (stream.popped segments) :=
  ⟨reading.accounted.popped front, reading.connected, reading.reading,
    reading.window⟩

private theorem rxEnqueueSegment_fields
    (stream : ServiceStream) (segment : Bytes) :
    (stream.rxEnqueueSegment segment).endRead = stream.endRead ∧
      (stream.rxEnqueueSegment segment).receiveBufSize =
        stream.receiveBufSize := by
  simp only [rxEnqueueSegment]
  split <;> exact ⟨rfl, rfl⟩

theorem Reading.rxEnqueueSegment
    {stream : ServiceStream} {segment : Bytes}
    (reading : Reading stream)
    (fits : buffered stream.rxSegments + segment.length < 2 ^ 31) :
    Reading (stream.rxEnqueueSegment segment) := by
  obtain ⟨sameEnd, sameSize⟩ := rxEnqueueSegment_fields stream segment
  refine ⟨(reading.accounted.rxEnqueueSegment fits).1, ?_, ?_, ?_⟩
  · rw [(rxEnqueueSegment_onlyReceives stream segment).state]
    exact reading.connected
  · rw [sameEnd]
    exact reading.reading
  · rw [sameSize]
    exact reading.window

private theorem Reading.enqueueAll
    {stream : ServiceStream} (segments : List Bytes)
    (reading : Reading stream)
    (fits : buffered stream.rxSegments + buffered segments < 2 ^ 31) :
    Reading (enqueueAll stream segments) ∧
      (enqueueAll stream segments).rxSegments =
        stream.rxSegments ++ segments := by
  induction segments generalizing stream with
  | nil =>
      exact ⟨reading, (List.append_nil _).symm⟩
  | cons segment segments inductionHypothesis =>
      rw [buffered_cons] at fits
      have one : buffered stream.rxSegments + segment.length < 2 ^ 31 := by
        omega
      have queued := (reading.accounted.rxEnqueueSegment one).2
      have rest :=
        inductionHypothesis (reading.rxEnqueueSegment one)
          (by rw [queued, buffered_snoc]; omega)
      rw [queued, List.append_assoc] at rest
      exact rest

section Calls

variable {stream : ServiceStream} {segment : Bytes}
  {segments : List Bytes}

private theorem Reading.readData_idle
    (reading : Reading stream)
    (nothing : buffered stream.rxSegments = 0) (maxSize : Int) :
    stream.readData maxSize = some (0, stream) := by
  have idle : ¬ (0 < maxSize ∧ 0 < stream.rxAvailable) := by
    rw [reading.accounted.available, nothing]
    simp
  rw [readData, readDataLoop_done _ 0 idle]
  exact guard_bind_eq_some_iff.mpr ⟨reading.window, rfl⟩

private theorem Reading.readData_noRoom (reading : Reading stream) :
    stream.readData 0 = some (0, stream) := by
  rw [readData, readDataLoop_done _ 0 (by simp)]
  exact guard_bind_eq_some_iff.mpr ⟨reading.window, rfl⟩

private theorem Reading.readData_whole
    (reading : Reading stream)
    (front : stream.rxSegments = segment :: segments)
    (nonempty : segment ≠ [])
    {maxSize : Int} (fits : segment.length ≤ maxSize) :
    stream.readData maxSize =
      some ((segment.length : Int), stream.popped segments) := by
  rw [readData,
    readDataLoop_whole _ 0 reading.accounted front nonempty fits
      reading.reading, zero_add]
  exact guard_bind_eq_some_iff.mpr ⟨reading.window, rfl⟩

private theorem Reading.readData_tooLarge
    (reading : Reading stream)
    (front : stream.rxSegments = segment :: segments)
    {maxSize : Int} (room : 0 < maxSize)
    (large : maxSize < segment.length) :
    stream.readData maxSize = none := by
  rw [readData,
    readDataLoop_tooLarge _ 0 reading.accounted front room large]
  rfl

/-- An empty segment before others makes the call return nothing, whatever
is queued behind it. -/
theorem Reading.readData_emptyFront
    (reading : Reading stream)
    (front : stream.rxSegments = [] :: segments)
    (behind : 0 < buffered segments) (maxSize : Int) :
    ∃ next, stream.readData maxSize = some (0, next) := by
  by_cases room : 0 < maxSize
  · have up : (stream.popped segments).isLinkUp = true :=
      decide_eq_true reading.connected
    have cleared :
        ((stream.popped segments).shutdownRead).rxAvailable = 0 := by
      have open_ : (stream.popped segments).endRead = false :=
        reading.reading
      rw [shutdownRead, if_pos ⟨up, open_⟩]
    have window :
        0 < ((stream.popped segments).shutdownRead).receiveBufSize := by
      rw [shutdownRead]
      split <;> exact reading.window
    refine ⟨(stream.popped segments).shutdownRead, ?_⟩
    rw [readData,
      readDataLoop_emptyFront _ 0 reading.accounted front room behind
        reading.reading,
      front, List.length_cons,
      readDataLoop_done _ 0 (by rw [cleared]; simp)]
    exact guard_bind_eq_some_iff.mpr ⟨window, rfl⟩
  · have idle : ¬ (0 < maxSize ∧ 0 < stream.rxAvailable) := by
      intro more
      exact room more.1
    refine ⟨stream, ?_⟩
    rw [readData, readDataLoop_done _ 0 idle]
    exact guard_bind_eq_some_iff.mpr ⟨reading.window, rfl⟩

private theorem Reading.readRecordInto_idle
    (reading : Reading stream)
    (nothing : buffered stream.rxSegments = 0) (maxSize : Int) :
    stream.readRecordInto maxSize = some (-1, stream) := by
  have none : stream.rxRecordSizes = [] := by
    rw [reading.accounted.records, recordSizes_eq_nil_iff]
    exact nothing
  rw [readRecordInto, if_pos none]

private theorem Reading.readRecordInto_whole
    (reading : Reading stream)
    (front : stream.rxSegments = segment :: segments)
    (nonempty : segment ≠ [])
    {maxSize : Int} (fits : segment.length ≤ maxSize) :
    stream.readRecordInto maxSize =
      some ((segment.length : Int), stream.popped segments) := by
  have positive := List.length_pos_iff.mpr nonempty
  have pending := reading.accounted.records
  rw [front, recordSizes_cons_of_ne_nil nonempty] at pending
  have one_less :
      (stream.popped segments).rxRecordSizes.length + 1 =
        stream.rxRecordSizes.length := by
    rw [pending, List.length_cons]
    rfl
  have nothingDropped :
      (stream.popped segments).dropRest stream.rxRecordSizes.length =
        some (stream.popped segments) := by
    rw [dropRest, if_neg (by omega)]
  rw [readRecordInto, if_neg (by rw [pending]; exact List.cons_ne_nil _ _),
    reading.readData_whole front nonempty fits]
  dsimp only [Option.bind_eq_bind, Option.bind_some]
  rw [← Option.bind_eq_bind, guard_bind_of_holds (by omega),
    nothingDropped]
  exact guard_bind_eq_some_iff.mpr ⟨by omega, rfl⟩

private theorem records_cons_of_ne_nil
    (nonempty : segment ≠ []) (segments : List Bytes) :
    records (segment :: segments) = segment :: records segments := by
  simp [records, nonempty]

private theorem records_eq_nil_iff (segments : List Bytes) :
    records segments = [] ↔ segments.flatten = [] := by
  rw [List.flatten_eq_nil_iff]
  simp [records, List.filter_eq_nil_iff]

private theorem buffered_eq_zero_iff (segments : List Bytes) :
    buffered segments = 0 ↔ segments.flatten = [] :=
  List.length_eq_zero_iff

private theorem records_flatten (segments : List Bytes) :
    (records segments).flatten = segments.flatten := by
  induction segments with
  | nil =>
      rfl
  | cons segment segments inductionHypothesis =>
      by_cases empty : segment = []
      · subst empty
        simpa [records] using inductionHypothesis
      · rw [records_cons_of_ne_nil empty, List.flatten_cons,
          inductionHypothesis, List.flatten_cons]

private theorem recordSizes_ne_nil
    (pending : stream.rxSegments.flatten ≠ [])
    (reading : Reading stream) : stream.rxRecordSizes ≠ [] := by
  rw [reading.accounted.records, ne_eq, recordSizes_eq_nil_iff,
    buffered_eq_zero_iff]
  exact pending

/-! ## Calls that are answered as they should be -/

/-- The outcome of a call that finds nothing to read. -/
def idleOutcome : ReadCall → ReadOutcome
  | .readData buffer => ⟨0, buffer⟩
  | .readRecord buffer => ⟨-1, buffer⟩

private theorem Reading.apply_idle
    (reading : Reading stream)
    (nothing : stream.rxSegments.flatten = []) (call : ReadCall) :
    call.apply stream = some (idleOutcome call, stream) := by
  have none := (buffered_eq_zero_iff stream.rxSegments).mpr nothing
  cases call with
  | readData buffer =>
      rw [ReadCall.apply, reading.readData_idle none]
      rfl
  | readRecord buffer =>
      rw [ReadCall.apply, reading.readRecordInto_idle none]
      rfl

private theorem Reading.apply_whole
    (reading : Reading stream)
    (front : stream.rxSegments = segment :: segments)
    (nonempty : segment ≠ []) (call : ReadCall)
    (fits : segment.length ≤ call.buffer.length) :
    call.apply stream =
      some
        (⟨segment.length, call.buffer⟩, stream.popped segments) := by
  have fitsInt : (segment.length : Int) ≤ call.buffer.length := by
    omega
  cases call with
  | readData buffer =>
      rw [ReadCall.buffer] at fitsInt
      rw [ReadCall.apply,
        reading.readData_whole front nonempty fitsInt]
      rfl
  | readRecord buffer =>
      rw [ReadCall.buffer] at fitsInt
      rw [ReadCall.apply,
        reading.readRecordInto_whole front nonempty fitsInt]
      rfl

/-- A call on a stream whose front segment is empty or does not fit returns
nothing or not at all. -/
theorem Reading.result_eq_zero
    {call : ReadCall} {outcome : ReadOutcome} {next : ServiceStream}
    (reading : Reading stream)
    (front : stream.rxSegments = segment :: segments)
    (pending : stream.rxSegments.flatten ≠ [])
    (unreadable :
      segment = [] ∨ call.buffer.length < segment.length)
    (returned : call.apply stream = some (outcome, next)) :
    (∃ buffer, call = .readData buffer) ∧ outcome.result = 0 := by
  have nothingTaken :
      ∀ result middle,
        stream.readData call.buffer.length = some (result, middle) →
          result = 0 := by
    intro result middle read
    rcases unreadable with empty | large
    · subst empty
      have behind : 0 < buffered segments := by
        rw [front, List.flatten_cons, List.nil_append] at pending
        exact List.length_pos_iff.mpr pending
      obtain ⟨after, empty⟩ :=
        reading.readData_emptyFront front behind call.buffer.length
      rw [empty] at read
      cases read
      rfl
    · by_cases room : 0 < call.buffer.length
      · rw [reading.readData_tooLarge front (by omega) (by omega)]
          at read
        cases read
      · have none : (call.buffer.length : Int) = 0 := by
          omega
        rw [none, reading.readData_noRoom] at read
        cases read
        rfl
  cases call with
  | readData buffer =>
      rw [ReadCall.apply, bind_eq_some_iff] at returned
      obtain ⟨⟨result, middle⟩, read, returned⟩ := returned
      cases returned
      exact ⟨⟨buffer, rfl⟩, nothingTaken result next read⟩
  | readRecord buffer =>
      rw [ReadCall.apply, bind_eq_some_iff] at returned
      obtain ⟨⟨result, middle⟩, read, returned⟩ := returned
      rcases readRecordInto_eq_some read with
        ⟨none, _⟩ | ⟨positive, after, data, _⟩
      · exact absurd none (recordSizes_ne_nil pending reading)
      · rw [nothingTaken result after data] at positive
        exact absurd positive (lt_irrefl 0)

/-- A call on a stream with data that is answered as the queue answers it
takes the whole front segment, which the buffer starts with. -/
theorem Reading.whole_of_answers
    (reading : Reading stream)
    (exchange : Exchange) {next : ServiceStream} {rest : List Bytes}
    (pending : stream.rxSegments.flatten ≠ [])
    (returned :
      exchange.call.apply stream = some (exchange.outcome, next))
    (answers :
      Answers (records stream.rxSegments) exchange.call.request
        exchange.answer rest)
    (shows : exchange.Shows (records stream.rxSegments)) :
    ∃ segment segments,
      stream.rxSegments = segment :: segments ∧ segment ≠ [] ∧
        segment <+: exchange.call.buffer ∧
        next = stream.popped segments ∧ rest = records segments := by
  obtain ⟨call, outcome, answer⟩ := exchange
  dsimp only at returned answers shows ⊢
  cases front : stream.rxSegments with
  | nil =>
      rw [front] at pending
      exact absurd rfl pending
  | cons segment segments =>
      by_cases unreadable :
          segment = [] ∨ call.buffer.length < segment.length
      · obtain ⟨⟨buffer, isData⟩, zero⟩ :=
          reading.result_eq_zero front pending unreadable returned
        subst isData
        have some_ : records stream.rxSegments ≠ [] := by
          rw [ne_eq, records_eq_nil_iff]
          exact pending
        obtain ⟨record, others, isRecord⟩ :=
          List.exists_cons_of_ne_nil some_
        rw [isRecord] at answers
        have delivered := answers.delivered_ne_nil
        have result : outcome.result = answer.delivered.length := shows.2
        have positive := List.length_pos_iff.mpr delivered
        omega
      · obtain ⟨nonempty, fits⟩ := not_or.mp unreadable
        rw [reading.apply_whole front nonempty call (by omega)]
          at returned
        cases returned
        rw [front, records_cons_of_ne_nil nonempty] at answers shows
        have taken :
            answer.delivered = segment ∧ rest = records segments := by
          cases call with
          | readData buffer =>
              have result :
                  (segment.length : Int) = answer.delivered.length :=
                shows.2
              exact answers.of_data_cons (by omega)
          | readRecord buffer =>
              have short : segment.length ≤ buffer.length := by
                rw [ReadCall.buffer] at fits
                omega
              obtain ⟨delivered, left⟩ := answers.of_record_cons
              rw [List.take_of_length_le short] at delivered
              exact ⟨delivered, left⟩
        refine ⟨segment, segments, rfl, nonempty, ?_, rfl, taken.2⟩
        have starts := shows.1
        dsimp only at starts
        rw [taken.1] at starts
        rw [← starts]
        exact List.take_prefix _ _

/-- The answer a queue gives when nothing is there. -/
theorem answers_idle (call : ReadCall) :
    Answers ([] : List Bytes) call.request ⟨[], []⟩ [] := by
  cases call with
  | readData buffer =>
      exact Answers.nothing _
  | readRecord buffer =>
      exact Answers.noRecord _

private theorem shows_idle (call : ReadCall) :
    Exchange.Shows ⟨call, idleOutcome call, ⟨[], []⟩⟩ [] := by
  cases call <;> exact ⟨rfl, rfl⟩

/-- The answer that takes the whole first record. -/
theorem answers_whole
    (nonempty : segment ≠ []) (call : ReadCall)
    (fits : segment.length ≤ call.buffer.length) (rest : List Bytes) :
    Answers (segment :: rest) call.request ⟨segment, []⟩ rest := by
  cases call with
  | readData buffer =>
      exact Answers.whole _ segment rest nonempty fits
  | readRecord buffer =>
      rw [ReadCall.buffer] at fits
      have answer := Answers.record buffer.length segment rest
      rw [List.take_of_length_le fits, List.drop_of_length_le fits]
        at answer
      exact answer

private theorem shows_whole
    (call : ReadCall) (starts : segment <+: call.buffer)
    (rest : List Bytes) :
    Exchange.Shows
      ⟨call, ⟨segment.length, call.buffer⟩, ⟨segment, []⟩⟩
      (segment :: rest) := by
  refine ⟨(List.prefix_iff_eq_take.mp starts).symm, ?_⟩
  cases call <;> rfl

theorem Follows.conserves
    {pending rest : List Bytes} {exchanges : List Exchange}
    (follows : Follows pending exchanges rest) :
    pending.flatten =
      (exchanges.flatMap fun exchange =>
        exchange.answer.delivered ++ exchange.answer.discarded) ++
      rest.flatten := by
  induction exchanges generalizing pending with
  | nil =>
      rw [show rest = pending from follows]
      rfl
  | cons exchange exchanges inductionHypothesis =>
      obtain ⟨middle, answers, _, followsRest⟩ := follows
      rw [answers.conserves, inductionHypothesis followsRest,
        List.flatMap_cons, List.append_assoc, List.append_assoc,
        List.append_assoc]

/-- What follows the law conserves the bytes. -/
theorem ReadsLawfully.of_follows
    {calls : List ReadCall} (exchanges : List Exchange)
    {final : ServiceStream}
    (same : exchanges.map Exchange.call = calls)
    (returned :
      stream.readCalls calls =
        some (exchanges.map Exchange.outcome, final))
    (follows :
      Follows (records stream.rxSegments) exchanges
        (records final.rxSegments)) :
    ReadsLawfully stream calls := by
  refine ⟨exchanges, final, same, returned, follows, ?_⟩
  have conserved := follows.conserves
  rw [records_flatten, records_flatten] at conserved
  exact conserved

theorem ReadsLawfully.cons
    {call : ReadCall} {calls : List ReadCall} {outcome : ReadOutcome}
    {next : ServiceStream} (answer : Answer UInt8)
    (applied : call.apply stream = some (outcome, next))
    (answers :
      Answers (records stream.rxSegments) call.request answer
        (records next.rxSegments))
    (shows :
      Exchange.Shows ⟨call, outcome, answer⟩
        (records stream.rxSegments))
    (lawful : ReadsLawfully next calls) :
    ReadsLawfully stream (call :: calls) := by
  obtain ⟨exchanges, final, same, returned, follows, _⟩ := lawful
  refine
    of_follows (⟨call, outcome, answer⟩ :: exchanges) ?_ ?_
      ⟨_, answers, shows, follows⟩
  · rw [List.map_cons, same]
  · rw [readCalls, applied]
    dsimp only [Option.bind_eq_bind, Option.bind_some]
    rw [returned]
    rfl

private theorem ReadsLawfully.uncons
    {call : ReadCall} {calls : List ReadCall}
    (lawful : ReadsLawfully stream (call :: calls)) :
    ∃ outcome next answer middle,
      call.apply stream = some (outcome, next) ∧
        Answers (records stream.rxSegments) call.request answer middle ∧
        Exchange.Shows ⟨call, outcome, answer⟩
          (records stream.rxSegments) ∧
        (middle = records next.rxSegments →
          ReadsLawfully next calls) := by
  obtain ⟨exchanges, final, same, returned, follows, _⟩ := lawful
  cases exchanges with
  | nil =>
      cases same
  | cons exchange exchanges =>
      injection same with sameCall sameCalls
      obtain ⟨middle, answers, shows, followsRest⟩ := follows
      rw [readCalls, bind_eq_some_iff] at returned
      obtain ⟨⟨outcome, next⟩, applied, returned⟩ := returned
      dsimp only at returned
      rw [bind_eq_some_iff] at returned
      obtain ⟨⟨outcomes, after⟩, later, returned⟩ := returned
      injection returned with returned
      injection returned with sameOutcomes sameFinal
      injection sameOutcomes with sameOutcome laterOutcomes
      subst sameCall sameOutcome laterOutcomes sameFinal
      refine ⟨_, next, _, middle, applied, answers, shows, ?_⟩
      rintro rfl
      exact ReadsLawfully.of_follows exchanges sameCalls later followsRest

private theorem Reading.idle_lawful
    (reading : Reading stream)
    (nothing : stream.rxSegments.flatten = [])
    (calls : List ReadCall) : ReadsLawfully stream calls := by
  induction calls with
  | nil =>
      exact ⟨[], stream, rfl, rfl, rfl, rfl⟩
  | cons call calls inductionHypothesis =>
      have none := (records_eq_nil_iff stream.rxSegments).mpr nothing
      refine
        ReadsLawfully.cons ⟨[], []⟩ (reading.apply_idle nothing call)
          ?_ ?_ inductionHypothesis
      · rw [none]
        exact answers_idle call
      · rw [none]
        exact shows_idle call

/-- Reading follows the law exactly when every read that finds data finds it
in a segment that it can take. -/
theorem Reading.lawful_iff
    (reading : Reading stream) (calls : List ReadCall) :
    ReadsLawfully stream calls ↔
      FitsEachRead stream.rxSegments calls := by
  induction calls generalizing stream with
  | nil =>
      exact ⟨fun _ => trivial, fun _ => ⟨[], stream, rfl, rfl, rfl, rfl⟩⟩
  | cons call calls inductionHypothesis =>
      by_cases nothing : stream.rxSegments.flatten = []
      · exact
          ⟨fun _ => Or.inl nothing,
            fun _ => reading.idle_lawful nothing (call :: calls)⟩
      · constructor
        · intro lawful
          obtain ⟨outcome, next, answer, middle, applied, answers, shows,
            later⟩ := lawful.uncons
          obtain ⟨segment, segments, front, nonempty, starts, isNext,
            isMiddle⟩ :=
            reading.whole_of_answers ⟨call, outcome, answer⟩ nothing
              applied answers shows
          subst isNext
          refine Or.inr ⟨segment, segments, front, nonempty, starts, ?_⟩
          exact
            (inductionHypothesis (reading.popped front)).mp
              (later isMiddle)
        · rintro (empty | ⟨segment, segments, front, nonempty, starts,
            fits⟩)
          · exact absurd empty nothing
          · have lawful :=
              (inductionHypothesis (reading.popped front)).mpr fits
            have first :
                records stream.rxSegments =
                  segment :: records segments := by
              rw [front, records_cons_of_ne_nil nonempty]
            refine
              ReadsLawfully.cons ⟨segment, []⟩
                (reading.apply_whole front nonempty call
                  starts.length_le)
                ?_ ?_ lawful
            · rw [first]
              exact
                answers_whole nonempty call starts.length_le
                  (records segments)
            · rw [first]
              exact shows_whole call starts (records segments)

end Calls

private theorem NewConnected.enqueueAll
    {stream : ServiceStream} {segments : List Bytes}
    (new : NewConnected stream) (small : buffered segments < 2 ^ 31) :
    Reading (stream.enqueueAll segments) ∧
      (stream.enqueueAll segments).rxSegments = segments := by
  have start : Reading stream :=
    ⟨new.receiver.accounted, new.connected, new.reading, new.window⟩
  have none : buffered stream.rxSegments = 0 := by
    rw [new.receiver.segments]
    rfl
  obtain ⟨reading, queued⟩ := start.enqueueAll segments (by omega)
  rw [new.receiver.segments, List.nil_append] at queued
  exact ⟨reading, queued⟩

/-- On a connected stream into which fewer than `2 ^ 31` bytes came, reading
follows the law if and only if every read that finds data finds a segment at
the front that is not empty, fits into the buffer, and is what the buffer
holds already. -/
theorem reading_law_iff_fitsEachRead
    {stream : ServiceStream} (segments : List Bytes)
    (calls : List ReadCall) (new : NewConnected stream)
    (small : buffered segments < 2 ^ 31) :
    ReadsLawfully (stream.enqueueAll segments) calls ↔
      FitsEachRead segments calls := by
  obtain ⟨reading, queued⟩ := new.enqueueAll small
  rw [reading.lawful_iff calls, queued]

private theorem newConnected_create : NewConnected (create .connected) where
  receiver := newReceiver_create .connected
  connected := rfl
  reading := rfl
  window := by decide

/-- A record of two bytes is read into a buffer that holds them already. -/
theorem lawful_into_prepared_buffer :
    NewConnected (create .connected) ∧ buffered [[1, 2]] < 2 ^ 31 ∧
      ReadsLawfully ((create .connected).enqueueAll [[1, 2]])
        [.readRecord [1, 2, 3], .readData [0]] := by
  refine ⟨newConnected_create, by decide, ?_⟩
  rw [reading_law_iff_fitsEachRead _ _ newConnected_create (by decide)]
  exact Or.inr ⟨[1, 2], [], rfl, by decide, ⟨[3], rfl⟩, Or.inl rfl⟩

private theorem not_readsLawfully_one
    {segment buffer : Bytes} {segments : List Bytes}
    (small : buffered (segment :: segments) < 2 ^ 31)
    (pending : (segment :: segments).flatten ≠ [])
    (unreadable : segment = [] ∨ ¬ segment <+: buffer) :
    ¬ ReadsLawfully
        ((create .connected).enqueueAll (segment :: segments))
        [.readData buffer] := by
  obtain ⟨reading, queued⟩ := newConnected_create.enqueueAll small
  rw [reading.lawful_iff, queued]
  rintro (nothing | ⟨front, rest, same, nonempty, starts, _⟩)
  · exact pending nothing
  · cases same
    rcases unreadable with empty | other
    · exact nonempty empty
    · exact other starts

/-- Three ways to break the law: a buffer of one byte for a segment of two,
an empty segment before another, and a buffer that holds something else. -/
theorem reading_law_broken :
    ((create .connected).enqueueAll [[1, 2]]).readData 1 = none ∧
      ¬ ReadsLawfully ((create .connected).enqueueAll [[1, 2]])
          [.readData [0]] ∧
      ¬ ReadsLawfully ((create .connected).enqueueAll [[], [1]])
          [.readData [1]] ∧
      ¬ ReadsLawfully ((create .connected).enqueueAll [[1]])
          [.readData [0]] := by
  refine ⟨by decide +kernel, ?_, ?_, ?_⟩
  · exact
      not_readsLawfully_one (by decide) (by decide)
        (Or.inr (by decide))
  · exact
      not_readsLawfully_one (by decide) (by decide) (Or.inl rfl)
  · exact
      not_readsLawfully_one (by decide) (by decide)
        (Or.inr (by decide))

end ServiceStream

end StructuredStreams.Service

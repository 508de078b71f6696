import StructuredStreams.Foundation.ByteCodec
import StructuredStreams.Foundation.Run

/-!
# The link status subscription of a stream

The stream object of an application is connected to a peer through a base
stream and watches the link status of that peer.  The subscription is made
once, under the flag `status_signal_connected_`, and the code that would take
it back in `disconnect` is commented out: it follows the connection exactly
as long as the stream stays connected to the first peer it was connected to.

Peers are named by their identifiers; a host keeps one `stream_peer` for each
of them and never removes it.
-/

namespace StructuredStreams.UserStream

open ByteCodec

abbrev PeerId := Bytes

/-- What the link status depends on: the peer of the base stream, and the
peers on whose `on_link_status_changed` signal the stream has a slot, one
entry for each slot. -/
structure Stream where
  stream : Option PeerId
  statusSignalConnected : Bool
  subscribed : List PeerId
  deriving DecidableEq, Repr

namespace Stream

/-- The stream that an application creates. -/
def create : Stream where
  stream := none
  statusSignalConnected := false
  subscribed := []

/-- The stream that `server::accept` makes for a base stream of the peer. -/
def accept (peer : PeerId) : Stream where
  stream := some peer
  statusSignalConnected := false
  subscribed := []

def isConnected (state : Stream) : Bool :=
  state.stream.isSome

def disconnect (state : Stream) : Stream :=
  if state.isConnected then { state with stream := none } else state

def connectLinkStatusSignal (state : Stream) : Stream :=
  if state.statusSignalConnected then state
  else
    match state.stream with
    | none => state
    | some peer =>
        { state with
          statusSignalConnected := true
          subscribed := state.subscribed ++ [peer] }

/-- An empty destination or an empty service fails an assertion.  The
protocol and the location hint are handed on to the base stream and to the
peer. -/
def connectTo
    (state : Stream) (destination : PeerId) (service : String) :
    Option Stream := do
  guard (destination ≠ [])
  let state := { state.disconnect with stream := some destination }
  let state := state.connectLinkStatusSignal
  guard (service ≠ "")
  return state

end Stream

inductive StreamCall where
  | connectTo (destination : PeerId) (service : String)
  | disconnect
  deriving DecidableEq, Repr

namespace StreamCall

def run (state : Stream) : StreamCall → Option Stream
  | .connectTo destination service => state.connectTo destination service
  | .disconnect => some state.disconnect

def destination : StreamCall → Option PeerId
  | .connectTo destination _ => some destination
  | .disconnect => none

end StreamCall

/-- One call that returned. -/
def StreamStep (state : Stream) (call : StreamCall) (next : Stream) :
    Prop :=
  call.run state = some next

abbrev StreamRun := Run StreamStep

/-- Make the calls one after the other. -/
def StreamCall.runAll
    (state : Stream) (calls : List StreamCall) : Option Stream :=
  calls.foldlM (fun state call => call.run state) state

theorem StreamRun.of_runAll
    {state final : Stream} {calls : List StreamCall}
    (returned : StreamCall.runAll state calls = some final) :
    StreamRun state calls final :=
  Run.of_foldlM (fun _ _ _ taken => taken) returned

/-- Exactly the peer of the current connection is watched, by one slot. -/
def SubscriptionFollows (state : Stream) : Prop :=
  state.subscribed = state.stream.toList

instance (state : Stream) : Decidable (SubscriptionFollows state) :=
  inferInstanceAs (Decidable (_ = _))

/-- The streams that were just made. -/
inductive Created : Stream → Prop
  | create : Created Stream.create
  | accept (peer : PeerId) : Created (Stream.accept peer)

/-- After a call that connects, all calls connect to the same peer. -/
def StaysWithFirstPeer (calls : List StreamCall) : Prop :=
  calls.Pairwise fun earlier later =>
    ∀ peer, earlier.destination = some peer →
      later.destination = some peer

/-- The destinations of the calls that connect. -/
def destinations (calls : List StreamCall) : List PeerId :=
  calls.filterMap StreamCall.destination

/-- The state that a run of calls leads to: the first destination is
watched, the last call decides on the connection. -/
structure AfterCalls (calls : List StreamCall) (state : Stream) : Prop where
  subscribed : state.subscribed = (destinations calls).head?.toList
  connected :
    state.statusSignalConnected = (destinations calls).head?.isSome
  stream :
    ∀ call, calls.getLast? = some call →
      state.stream = call.destination

private theorem Created.afterCalls
    {start : Stream} (created : Created start) : AfterCalls [] start := by
  cases created with
  | create | accept =>
      refine ⟨rfl, rfl, ?_⟩
      intro call last
      cases last

private theorem head?_destinations_snoc
    (calls : List StreamCall) (call : StreamCall) :
    (destinations (calls ++ [call])).head? =
      (destinations calls).head?.or call.destination := by
  rw [destinations, List.filterMap_append, List.head?_append]
  cases call with
  | connectTo destination service =>
      rfl
  | disconnect =>
      rfl

private theorem StreamStep.afterCalls
    {calls : List StreamCall} {state next : Stream} {call : StreamCall}
    (after : AfterCalls calls state) (step : StreamStep state call next) :
    AfterCalls (calls ++ [call]) next := by
  have lastCall : (calls ++ [call]).getLast? = some call :=
    List.getLast?_concat
  cases call with
  | disconnect =>
      cases step
      have first :
          (destinations (calls ++ [.disconnect])).head? =
            (destinations calls).head? := by
        rw [head?_destinations_snoc]
        exact Option.or_none
      refine ⟨?_, ?_, ?_⟩
      · rw [first, ← after.subscribed, Stream.disconnect]
        split <;> rfl
      · rw [first, ← after.connected, Stream.disconnect]
        split <;> rfl
      · intro other last
        rw [lastCall] at last
        cases last
        rw [Stream.disconnect]
        split
        · rfl
        · next notConnected =>
            have none : state.stream = none := by
              simpa [Stream.isConnected] using notConnected
            exact none
  | connectTo destination service =>
      have taken : state.connectTo destination service = some next := step
      rw [Stream.connectTo, guard_bind_eq_some_iff] at taken
      obtain ⟨_, taken⟩ := taken
      dsimp only at taken
      rw [guard_bind_eq_some_iff] at taken
      obtain ⟨_, taken⟩ := taken
      cases taken
      have flag :
          state.disconnect.statusSignalConnected =
            state.statusSignalConnected := by
        rw [Stream.disconnect]
        split <;> rfl
      have slots : state.disconnect.subscribed = state.subscribed := by
        rw [Stream.disconnect]
        split <;> rfl
      have first := head?_destinations_snoc calls
        (.connectTo destination service)
      cases watched : (destinations calls).head? with
      | none =>
          rw [watched] at first
          have notWatched : state.statusSignalConnected = false := by
            rw [after.connected, watched]
            rfl
          have noSlots : state.subscribed = [] := by
            rw [after.subscribed, watched]
            rfl
          rw [Stream.connectLinkStatusSignal]
          simp only [flag, notWatched, slots, noSlots]
          refine ⟨?_, ?_, ?_⟩
          · rw [first]
            rfl
          · rw [first]
            rfl
          · intro other last
            rw [lastCall] at last
            cases last
            rfl
      | some peer =>
          rw [watched] at first
          have isWatched : state.statusSignalConnected = true := by
            rw [after.connected, watched]
            rfl
          rw [Stream.connectLinkStatusSignal]
          simp only [flag, isWatched, if_true]
          refine ⟨?_, ?_, ?_⟩
          · rw [first, slots, after.subscribed, watched]
            rfl
          · rw [first]
            rfl
          · intro other last
            rw [lastCall] at last
            cases last
            rfl

private theorem afterCalls_of_run
    {start final : Stream} {calls : List StreamCall}
    (created : Created start) (run : StreamRun start calls final) :
    AfterCalls calls final :=
  run.induct AfterCalls created.afterCalls
    fun _ _ _ _ _ after step => StreamStep.afterCalls after step

/-- After a run that ended with a call, the subscription follows the
connection exactly when the last call went to the first destination. -/
theorem AfterCalls.follows_iff
    {calls : List StreamCall} {call : StreamCall} {state : Stream}
    (after : AfterCalls (calls ++ [call]) state) :
    SubscriptionFollows state ↔
      ∀ peer, (destinations calls).head? = some peer →
        call.destination = some peer := by
  have connection : state.stream = call.destination :=
    after.stream call List.getLast?_concat
  have slots := after.subscribed
  rw [head?_destinations_snoc] at slots
  rw [SubscriptionFollows, slots, connection]
  cases watched : (destinations calls).head? with
  | none =>
      simp
  | some peer =>
      cases reached : call.destination with
      | none =>
          simp
      | some other =>
          simp [eq_comm]

private theorem exists_of_head?_destinations
    {calls : List StreamCall} {peer : PeerId}
    (first : (destinations calls).head? = some peer) :
    ∃ call ∈ calls, call.destination = some peer :=
  List.mem_filterMap.mp (List.mem_of_head? first)

/-- While all calls go to the first destination, any destination is the
first one. -/
theorem StaysWithFirstPeer.head?_destinations
    {calls : List StreamCall} (stays : StaysWithFirstPeer calls)
    {call : StreamCall} (member : call ∈ calls) {peer : PeerId}
    (reached : call.destination = some peer) :
    (destinations calls).head? = some peer := by
  induction calls with
  | nil =>
      cases member
  | cons earliest calls inductionHypothesis =>
      rw [StaysWithFirstPeer, List.pairwise_cons] at stays
      cases first : earliest.destination with
      | none =>
          have later : call ∈ calls := by
            rcases List.mem_cons.mp member with isEarliest | later
            · rw [isEarliest, first] at reached
              cases reached
            · exact later
          rw [destinations, List.filterMap_cons_none first]
          exact inductionHypothesis stays.2 later
      | some other =>
          rw [destinations, List.filterMap_cons_some first, List.head?_cons]
          rcases List.mem_cons.mp member with isEarliest | later
          · rw [← first, ← reached, isEarliest]
          · rw [← reached]
            exact (stays.1 call later other first).symm

/-- The subscription follows the connection after every call of a run
exactly when all calls after the first one that connects connect to the same
peer. -/
theorem subscription_follows_connection_iff
    {start final : Stream} {calls : List StreamCall}
    (created : Created start) (run : StreamRun start calls final) :
    (∀ earlier later state,
      calls = earlier ++ later →
      earlier ≠ [] →
      StreamRun start earlier state →
      SubscriptionFollows state) ↔
      StaysWithFirstPeer calls := by
  constructor
  · intro follows
    induction run with
    | refl =>
        exact List.Pairwise.nil
    | snoc call earlierRun taken inductionHypothesis =>
        next calls reached next =>
        have stays : StaysWithFirstPeer calls := by
          apply inductionHypothesis
          intro earlier later state split
          apply follows earlier (later ++ [call]) state
          rw [split, List.append_assoc]
        have whole := earlierRun.snoc call taken
        have last : SubscriptionFollows next :=
          follows (calls ++ [call]) [] next (by simp) (by simp) whole
        rw [(afterCalls_of_run created whole).follows_iff] at last
        refine List.pairwise_append.mpr ⟨stays, List.pairwise_singleton _ _, ?_⟩
        intro other member lastCall isLast peer reached
        rw [List.mem_singleton.mp isLast]
        exact last peer (stays.head?_destinations member reached)
  · intro stays earlier later state split nonempty earlierRun
    obtain ⟨front, last, rfl⟩ :=
      (List.eq_nil_or_concat earlier).resolve_left nonempty
    rw [List.concat_eq_append] at split earlierRun
    rw [(afterCalls_of_run created earlierRun).follows_iff]
    intro peer first
    obtain ⟨call, member, reached⟩ := exists_of_head?_destinations first
    rw [split] at stays
    have earlierStays := (List.pairwise_append.mp stays).1
    exact
      (List.pairwise_append.mp earlierStays).2.2 call member last
        List.mem_cons_self peer reached

/-- A stream that is connected twice to one peer. -/
theorem subscription_follows_reconnection :
    StaysWithFirstPeer
        [.disconnect, .connectTo [7] "shell", .connectTo [7] "shell"] ∧
      ∀ earlier later state,
        [.disconnect, .connectTo [7] "shell", .connectTo [7] "shell"] =
            earlier ++ later →
          earlier ≠ [] →
          StreamRun Stream.create earlier state →
          SubscriptionFollows state := by
  have stays :
      StaysWithFirstPeer
        [.disconnect, .connectTo [7] "shell", .connectTo [7] "shell"] := by
    simp [StaysWithFirstPeer, StreamCall.destination]
  have run :
      StreamRun Stream.create
        [.disconnect, .connectTo [7] "shell", .connectTo [7] "shell"]
        ⟨some [7], true, [[7]]⟩ :=
    StreamRun.of_runAll (by decide)
  exact
    ⟨stays, (subscription_follows_connection_iff Created.create run).mpr stays⟩

/-- After a disconnection the stream still watches the peer. -/
theorem subscription_stays_after_disconnect :
    ∃ state,
      StreamRun Stream.create [.connectTo [7] "shell", .disconnect] state ∧
        ¬ SubscriptionFollows state := by
  refine ⟨⟨none, true, [[7]]⟩, StreamRun.of_runAll ?_, ?_⟩
  · decide
  · decide

end StructuredStreams.UserStream

import Mathlib.Logic.Relation
import StructuredStreams.Application.Aging

/-!
# The states of a base stream

A base stream that connects to a service waits for the reply, one that the
other side opened for a request; both become connected then, and any stream
may be disconnected.  No call takes a stream back to an earlier state,
whatever the application, the peers and the channels do in between: a stream
that is disconnected stays so, its peer remains the one it was made for, and
what was read to the end is not read on.  That a stream goes on existing is
no result: no call here takes the memory of one away.
-/

namespace StructuredStreams.Application

open Service (StreamState)
open StructuredStreams.Stream (StreamPtr ChannelPtr PacketSeq LocalStreamId
  UniqueStreamId Slot PeerStream PeerWorld PeerCall World Env)
open Relation (ReflTransGen)

/-- The changes of `state_` of a stream that exists. -/
inductive StateChange : StreamState → StreamState → Prop
  | requests : StateChange .created .waitService
  | replied : StateChange .waitService .connected
  | requested : StateChange .accepting .connected
  | disconnects (state : StreamState) : StateChange state .disconnected

/-- A stream that has moved on. -/
structure MovedOn (link later : PeerStream) : Prop where
  state : ReflTransGen StateChange link.state later.state
  peerId : later.peerId = link.peerId
  endRead : link.endRead = true → later.endRead = true

namespace MovedOn

theorem refl (link : PeerStream) : MovedOn link link :=
  ⟨ReflTransGen.refl, rfl, id⟩

theorem trans
    {first second third : PeerStream} (earlier : MovedOn first second)
    (later : MovedOn second third) :
    MovedOn first third where
  state := earlier.state.trans later.state
  peerId := later.peerId.trans earlier.peerId
  endRead := fun ended => later.endRead (earlier.endRead ended)

theorem disconnect (link : PeerStream) : MovedOn link link.disconnect :=
  ⟨ReflTransGen.single (StateChange.disconnects link.state), rfl, id⟩

theorem shutdown
    (link : PeerStream) (mode : Service.ServiceStream.ShutdownMode) :
    MovedOn link (shutdownLink mode link) := by
  unfold shutdownLink
  dsimp only
  split
  · exact disconnect link
  · split
    · exact ⟨ReflTransGen.refl, rfl, fun _ => rfl⟩
    · exact refl link

private theorem of_worn {link later : PeerStream} (worn : Worn link later) :
    MovedOn link later where
  state := by
    rcases worn.state with same | disconnected
    · rw [same]
    · rw [disconnected]
      exact ReflTransGen.single (StateChange.disconnects link.state)
  peerId := worn.peerId
  endRead := worn.endRead

end MovedOn

/-- A stream that is disconnected has no state to move on to. -/
theorem disconnected_final
    {state : StreamState}
    (changes : ReflTransGen StateChange .disconnected state) :
    state = .disconnected := by
  induction changes with
  | refl =>
      rfl
  | tail _ change inductionHypothesis =>
      subst inductionHypothesis
      cases change
      rfl

/-- Every stream goes on existing and has moved on. -/
def Progresses (state next : PeerWorld) : Prop :=
  ∀ base link,
    state.links base = some link →
      ∃ later, next.links base = some later ∧ MovedOn link later

namespace Progresses

theorem of_links
    {state next : PeerWorld} (same : next.links = state.links) :
    Progresses state next := by
  intro base link isLinked
  exact ⟨link, (congrFun same base).trans isLinked, MovedOn.refl link⟩

theorem refl (state : PeerWorld) : Progresses state state :=
  of_links rfl

theorem trans
    {state middle next : PeerWorld} (first : Progresses state middle)
    (second : Progresses middle next) :
    Progresses state next := by
  intro base link isLinked
  obtain ⟨between, isBetween, earlier⟩ := first base link isLinked
  obtain ⟨last, isLast, later⟩ := second base between isBetween
  exact ⟨last, isLast, earlier.trans later⟩

theorem modifyLink
    (state : PeerWorld) (base : StreamPtr)
    {change : PeerStream → PeerStream}
    (moves :
      ∀ link, state.links base = some link → MovedOn link (change link)) :
    Progresses state (state.modifyLink base change) := by
  intro other link isLinked
  dsimp only [PeerWorld.modifyLink]
  by_cases same : other = base
  · subst other
    rw [Function.update_self, isLinked]
    exact ⟨change link, rfl, moves link isLinked⟩
  · rw [Function.update_of_ne same]
    exact ⟨link, isLinked, MovedOn.refl link⟩

/-- A stream that did not exist before may be changed in any way. -/
theorem modifyNew
    {state middle : PeerWorld} (progresses : Progresses state middle)
    {base : StreamPtr} (unborn : state.links base = none)
    (change : PeerStream → PeerStream) :
    Progresses state (middle.modifyLink base change) := by
  intro other link isLinked
  have different : other ≠ base := by
    rintro rfl
    rw [unborn] at isLinked
    cases isLinked
  dsimp only [PeerWorld.modifyLink]
  rw [Function.update_of_ne different]
  exact progresses other link isLinked

theorem of_write
    {state next : PeerWorld} (write : LinkWrite state next) :
    Progresses state next := by
  cases write with
  | elsewhere same =>
      exact of_links same
  | creates base link unborn settled empty links =>
      intro other otherLink isLinked
      have different : other ≠ base := by
        rintro rfl
        rw [unborn] at isLinked
        cases isLinked
      rw [links, Function.update_of_ne different]
      exact ⟨otherLink, isLinked, MovedOn.refl otherLink⟩
  | changes base change worn links =>
      have changed : Progresses state (state.modifyLink base change) :=
        modifyLink state base fun link _ => MovedOn.of_worn (worn link)
      exact changed.trans (of_links links)

theorem of_writes
    {state next : PeerWorld} (writes : LinkWrites state next) :
    Progresses state next := by
  induction writes with
  | refl =>
      exact refl state
  | tail _ write inductionHypothesis =>
      exact inductionHypothesis.trans (of_write write)

theorem openSubstream
    {state middle : PeerWorld} (progresses : Progresses state middle)
    {newStream : StreamPtr} (unborn : state.links newStream = none)
    (parent : StreamPtr) (channel : ChannelPtr) :
    Progresses state
      (middle.openSubstream parent channel newStream) := by
  unfold PeerWorld.openSubstream
  split
  · exact progresses.modifyNew unborn _
  · refine (progresses.modifyNew unborn _).trans (modifyLink _ parent ?_)
    intro link _
    exact ⟨ReflTransGen.refl, rfl, id⟩

theorem rxSubstream
    {env : Env} {state next : PeerWorld} {parent newStream : StreamPtr}
    {pktseq : PacketSeq} {channel : ChannelPtr} {sid : LocalStreamId}
    {slot : Slot} {usid : UniqueStreamId} {result : Option StreamPtr}
    (returned :
      state.rxSubstream env parent pktseq channel sid slot usid
          newStream =
        some (result, next)) :
    Progresses state next := by
  rcases LinkWrites.rxSubstream_opens returned with
    ⟨_, same⟩ | ⟨_, opened, writes, _, unborn, _, isOpened⟩
  · exact of_links same
  · rw [isOpened]
    exact (of_writes writes).openSubstream unborn parent channel

end Progresses

namespace Progresses

variable {host next : Host}

theorem createUser
    {base : StreamPtr} {user : UserPtr}
    (returned : host.createUser base user = some next) :
    Progresses host.peers next.peers := by
  rcases Host.createUser_eq_some returned with ⟨_, _, same⟩
  rw [same]
  exact refl host.peers

theorem disconnect
    {user : UserPtr} (returned : host.disconnect user = some next) :
    Progresses host.peers next.peers := by
  rcases Host.disconnect_eq_some returned with
    ⟨_, same⟩ | ⟨base, _, _, _, same⟩
  · rw [same]
    exact refl host.peers
  · rw [same]
    exact modifyLink _ base fun link _ => MovedOn.shutdown link .close

theorem destroyUser
    {user : UserPtr} (returned : host.destroyUser user = some next) :
    Progresses host.peers next.peers := by
  rcases Host.destroyUser_eq_some returned with
    ⟨apart, disconnected, _, same⟩
  rw [same]
  exact (disconnect disconnected).trans (of_links rfl)

theorem shutdown
    {user : UserPtr} {mode : Service.ServiceStream.ShutdownMode}
    (returned : host.shutdown user mode = some next) :
    Progresses host.peers next.peers := by
  rcases Host.shutdown_eq_some returned with same | ⟨base, same⟩
  · rw [same]
    exact refl host.peers
  · rw [same]
    exact modifyLink _ base fun link _ => MovedOn.shutdown link mode

theorem connectBase
    {base : StreamPtr} {service : ByteCodec.Bytes}
    (returned : host.connectBase base service = some next) :
    Progresses host.peers next.peers := by
  rcases Host.connectBase_eq_some returned with
    ⟨link, world, isLinked, isCreated, same⟩
  rw [same]
  refine (of_links rfl).trans (modifyLink _ base fun other isOther => ?_)
  have sameLink := Option.some.inj (isLinked.symm.trans isOther)
  subst other
  refine ⟨?_, rfl, id⟩
  rw [isCreated]
  exact ReflTransGen.single StateChange.requests

theorem connectTo
    {env : Env} {user : UserPtr} {destination service : ByteCodec.Bytes}
    {base : StreamPtr}
    (returned :
      host.connectTo env user destination service base = some next) :
    Progresses host.peers next.peers := by
  rcases Host.connectTo_eq_some returned with
    ⟨apart, peers, entry, disconnected, isCreated, _, connects⟩
  have made := of_writes (LinkWrites.createStream isCreated)
  exact ((disconnect disconnected).trans made).trans (connectBase connects)

theorem listen
    {user : UserPtr} {mode : StructuredStreams.Stream.ListenMode}
    (returned : host.listen user mode = some next) :
    Progresses host.peers next.peers := by
  rcases Host.listen_eq_some returned with same | ⟨base, same⟩
  · rw [same]
    exact refl host.peers
  · rw [same]
    refine modifyLink _ base fun link _ => ?_
    exact ⟨ReflTransGen.refl, rfl, id⟩

private theorem openUser
    {env : Env} {user newUser : UserPtr} {newStream : StreamPtr}
    {result : Option UserPtr}
    (returned :
      host.openSubstream env user newStream newUser =
        some (result, next)) :
    Progresses host.peers next.peers := by
  rcases Host.openSubstream_eq_some returned with
    same | ⟨_, _, peers, isCreated, isUser⟩
  · rw [same]
    exact refl host.peers
  · have made := of_writes (LinkWrites.createStream isCreated)
    have unborn := (createStream_links isCreated).1
    exact (made.modifyNew unborn _).trans (createUser isUser)

theorem acceptSubstream
    {user newUser : UserPtr} {result : Option UserPtr}
    (returned :
      host.acceptSubstream user newUser = some (result, next)) :
    Progresses host.peers next.peers := by
  rcases Host.acceptSubstream_eq_some returned with
    ⟨_, same⟩ | ⟨base, _, newStream, rest, _, _, isUser⟩
  · rw [same]
    exact refl host.peers
  · refine trans (modifyLink _ base fun link _ => ?_) (createUser isUser)
    exact ⟨ReflTransGen.refl, rfl, id⟩

theorem accept
    {server : Service.ServerPtr} {newUser : UserPtr}
    {result : Option UserPtr}
    (returned : host.accept server newUser = some (result, next)) :
    Progresses host.peers next.peers := by
  rcases Host.accept_eq_some returned with
    ⟨_, _, same⟩ | ⟨newStream, rest, _, _, isUser⟩
  · rw [same]
    exact refl host.peers
  · have taken := createUser isUser
    exact (of_links rfl).trans taken

/-- A stream in the state is connected. -/
theorem connects
    {state : PeerWorld} {base : StreamPtr} {link : PeerStream}
    (isLinked : state.links base = some link)
    (change : StateChange link.state .connected) :
    Progresses state
      (state.modifyLink base fun link =>
        { link with state := .connected }) := by
  refine modifyLink state base fun other isOther => ?_
  have same := Option.some.inj (isLinked.symm.trans isOther)
  subst other
  exact ⟨ReflTransGen.single change, rfl, id⟩

theorem gotServiceRequest
    {base : StreamPtr} {code : BitVec 32}
    {service protocol : ByteCodec.Bytes}
    (returned :
      host.gotServiceRequest base code service protocol = some next) :
    Progresses host.peers next.peers := by
  rcases Host.gotServiceRequest_eq_some returned with
    ⟨link, isLinked, accepting, ⟨_, same⟩ | ⟨server, _, _, same⟩⟩
  · rw [same]
    exact modifyLink _ base fun link _ => MovedOn.disconnect link
  · rw [same]
    apply connects isLinked
    rw [accepting]
    exact StateChange.requested

theorem gotServiceReply
    {base : StreamPtr} {code status : BitVec 32}
    (returned : host.gotServiceReply base code status = some next) :
    Progresses host.peers next.peers := by
  rcases Host.gotServiceReply_eq_some returned with
    ⟨link, isLinked, waits, same | same⟩
  · rw [same]
    exact modifyLink _ base fun link _ => MovedOn.disconnect link
  · rw [same]
    apply connects isLinked
    rw [waits]
    exact StateChange.replied

private theorem hostPeerCall
    {env : Env} {call : PeerCall}
    (returned : host.peerCall env call = some next) :
    Progresses host.peers next.peers := by
  rcases Host.peerCall_eq_some returned with
    ⟨_, _, _, _, _, _, _, _, received⟩ | ⟨peers, other, called, same⟩
  · rcases Host.rxSubstream_eq_some received with
      ⟨_, peers, opened, ⟨_, same⟩ | ⟨_, same⟩⟩
    · rw [same]
      exact rxSubstream opened
    · rw [same]
      exact rxSubstream opened
  · rw [same]
    exact of_writes (LinkWrites.peerCall called other)

theorem step
    {env : Env} {call : HostCall}
    (returned : call.run env host = some next) :
    Progresses host.peers next.peers := by
  cases call with
  | constructUser user =>
      rw [(Host.constructUser_eq_some returned).2]
      exact refl host.peers
  | destroyUser user =>
      exact destroyUser returned
  | connectTo user destination service base =>
      exact connectTo returned
  | disconnect user =>
      exact disconnect returned
  | shutdown user mode =>
      exact shutdown returned
  | listen user mode =>
      exact listen returned
  | openSubstream user newStream newUser =>
      obtain ⟨⟨result, opened⟩, isOpened, same⟩ :=
        Option.map_eq_some_iff.mp returned
      subst next
      exact openUser isOpened
  | acceptSubstream user newUser =>
      obtain ⟨⟨result, accepted⟩, isAccepted, same⟩ :=
        Option.map_eq_some_iff.mp returned
      subst next
      exact acceptSubstream isAccepted
  | accept server newUser =>
      obtain ⟨⟨result, accepted⟩, isAccepted, same⟩ :=
        Option.map_eq_some_iff.mp returned
      subst next
      exact accept isAccepted
  | gotServiceRequest base code service protocol =>
      exact gotServiceRequest returned
  | gotServiceReply base code status =>
      exact gotServiceReply returned
  | peerCall call =>
      exact hostPeerCall returned
  | transportCall call =>
      obtain ⟨world, same⟩ := Host.transportCall_eq_some returned
      rw [same]
      exact of_links rfl
  | serverCall call =>
      obtain ⟨servers, _, same⟩ := Host.serverCall_eq_some returned
      rw [same]
      exact refl host.peers

end Progresses

/-- In every run, every base stream goes on existing with its peer, its state
only moves on and its end of reading stays; once disconnected, it remains
so. -/
theorem states_move_on
    {env : Env} {host final : Host} {calls : List HostCall}
    (run : HostRun env host calls final) {base : StreamPtr}
    {link : PeerStream} (isLinked : host.peers.links base = some link) :
    ∃ later,
      final.peers.links base = some later ∧
        ReflTransGen StateChange link.state later.state ∧
        (link.state = .disconnected → later.state = .disconnected) ∧
        later.peerId = link.peerId ∧
        (link.endRead = true → later.endRead = true) := by
  have progresses : Progresses host.peers final.peers :=
    run.induct (fun _ reached => Progresses host.peers reached.peers)
      (Progresses.refl host.peers)
      fun _ _ _ _ _ progresses returned =>
        progresses.trans (Progresses.step returned)
  obtain ⟨later, isLater, movedOn⟩ := progresses base link isLinked
  refine
    ⟨later, isLater, movedOn.state, ?_, movedOn.peerId, movedOn.endRead⟩
  intro disconnected
  have changes := movedOn.state
  rw [disconnected] at changes
  exact disconnected_final changes

/-- A service is requested by an application while the other side requests
one of it; the application lets go before the reply. -/
def requestingCalls : List HostCall :=
  [.constructUser 4, .connectTo 4 [9] [1] 7, .disconnect 4,
    .serverCall (.construct 0), .serverCall (.listen 0 [1] [2] [3] [4]),
    .gotServiceRequest 1 Service.connectRequest [1] [3], .accept 0 0,
    .shutdown 0 .reset]

/-- The root of a channel and the substream that arrived on it. -/
def arrivingCalls : List HostCall :=
  [.peerCall (.construct 0 0 [1]),
    .peerCall (.rxSubstream 0 1 0 1 Slot.first ⟨1, [2]⟩ 1)]

theorem states_move_on_to_disconnected :
    ∃ host final link later,
      HostRun (Env.constant true) host requestingCalls final ∧
        host.peers.links 1 = some link ∧
          link.state = .accepting ∧
            final.peers.links 1 = some later ∧
              ReflTransGen StateChange link.state later.state ∧
              (link.state = .disconnected →
                later.state = .disconnected) ∧
              later.peerId = link.peerId ∧
              (link.endRead = true → later.endRead = true) := by
  have returns :
      (do
        let host ←
          HostCall.runAll (Env.constant true)
            (Host.create (World.create [1] [2])) arrivingCalls
        let link ← host.peers.links 1
        guard (link.state = StreamState.accepting)
        HostCall.runAll (Env.constant true) host
          requestingCalls).isSome := by
    decide +kernel
  obtain ⟨final, returned⟩ := Option.isSome_iff_exists.mp returns
  rw [bind_eq_some_iff] at returned
  obtain ⟨host, _, returned⟩ := returned
  rw [bind_eq_some_iff] at returned
  obtain ⟨link, isLinked, returned⟩ := returned
  rw [guard_bind_eq_some_iff] at returned
  obtain ⟨accepting, returned⟩ := returned
  have run := HostRun.of_runAll returned
  obtain ⟨later, isLater⟩ := states_move_on run isLinked
  exact ⟨host, final, link, later, run, isLinked, accepting, isLater⟩

end StructuredStreams.Application

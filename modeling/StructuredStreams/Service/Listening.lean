import Mathlib.Data.List.Induction
import Mathlib.Logic.Function.Basic
import StructuredStreams.Foundation.Table
import StructuredStreams.Service.Negotiation

/-!
# Servers that listen

A server enters itself in the table of its host when it starts to listen, and
nothing ever takes an entry out again.  The table therefore points to servers
that are alive as long as no server is destroyed that listens.
-/

namespace StructuredStreams.Service

open ByteCodec

abbrev ServerPtr := Nat

structure Server where
  serviceName : Bytes
  serviceDescription : Bytes
  protocolName : Bytes
  protocolDescription : Bytes
  errorString : Bytes
  active : Bool
  deriving DecidableEq, Repr

/-- A server as its constructor leaves it. -/
def Server.create : Server where
  serviceName := []
  serviceDescription := []
  protocolName := []
  protocolDescription := []
  errorString := []
  active := false

/-- The host, with the servers that exist. -/
structure ServerHost where
  servers : ServerPtr → Option Server
  listeners : List ((Bytes × Bytes) × ServerPtr)

namespace ServerHost

def create : ServerHost where
  servers := fun _ => none
  listeners := []

def setServer
    (host : ServerHost) (ptr : ServerPtr) (server : Option Server) :
    ServerHost :=
  { host with servers := Function.update host.servers ptr server }

def isListening (host : ServerHost) (svcPair : Bytes × Bytes) : Bool :=
  (host.listeners.lookup svcPair).isSome

/-- Inserting leaves an entry alone that is there already. -/
def registerListener
    (host : ServerHost) (svcPair : Bytes × Bytes) (ptr : ServerPtr) :
    ServerHost :=
  if host.isListening svcPair then host
  else { host with listeners := (svcPair, ptr) :: host.listeners }

def listenerFor (host : ServerHost) : ServiceStream.Listeners :=
  fun svcPair => host.listeners.lookup svcPair

/-- The constructor, run on memory that holds no other server. -/
def construct (host : ServerHost) (ptr : ServerPtr) :
    Option ServerHost := do
  guard ((host.servers ptr).isNone)
  return host.setServer ptr (some Server.create)

def alreadyRegistered (serviceName protocolName : Bytes) : Bytes :=
  text "Service " ++ serviceName ++
    (text " with protocol " ++ protocolName ++
      text " already registered.")

/-- `listen` returns whether it succeeds, and has no result when one of its
assertions fails.  `instantiate_stream_responder`, which it calls, is
empty. -/
def listen
    (host : ServerHost) (ptr : ServerPtr)
    (serviceName serviceDesc protocolName protocolDesc : Bytes) :
    Option (Bool × ServerHost) := do
  let server ← host.servers ptr
  guard (serviceName ≠ [] ∧ serviceDesc ≠ [])
  guard (protocolName ≠ [] ∧ protocolDesc ≠ [])
  guard (server.active = false)
  if host.isListening (serviceName, protocolName) then
    let refused :=
      { server with
        errorString := alreadyRegistered serviceName protocolName }
    return (false, host.setServer ptr (some refused))
  else
    let listening :=
      { server with
        serviceName := serviceName
        serviceDescription := serviceDesc
        protocolName := protocolName
        protocolDescription := protocolDesc
        active := true }
    let host := host.registerListener (serviceName, protocolName) ptr
    return (true, host.setServer ptr (some listening))

/-- The destructor, which the class leaves to the compiler. -/
def destroy (host : ServerHost) (ptr : ServerPtr) : Option ServerHost := do
  guard ((host.servers ptr).isSome)
  return host.setServer ptr none

end ServerHost

inductive ServerCall where
  | construct (ptr : ServerPtr)
  | listen
      (ptr : ServerPtr)
      (serviceName serviceDesc protocolName protocolDesc : Bytes)
  | destroy (ptr : ServerPtr)
  deriving DecidableEq, Repr

namespace ServerCall

def apply (host : ServerHost) : ServerCall → Option ServerHost
  | .construct ptr => host.construct ptr
  | .listen ptr serviceName serviceDesc protocolName protocolDesc =>
      (host.listen ptr serviceName serviceDesc protocolName
        protocolDesc).map Prod.snd
  | .destroy ptr => host.destroy ptr

end ServerCall

/-- The calls on a new host. -/
def hostAfter (calls : List ServerCall) : Option ServerHost :=
  calls.foldlM ServerCall.apply ServerHost.create

private theorem hostAfter_snoc (calls : List ServerCall) (call : ServerCall) :
    hostAfter (calls ++ [call]) =
      (hostAfter calls).bind fun host => call.apply host := by
  simp [hostAfter, List.foldlM_append]

/-- The server exists and listens for the pair. -/
def ListensFor
    (host : ServerHost) (svcPair : Bytes × Bytes) (ptr : ServerPtr) :
    Prop :=
  ∃ server,
    host.servers ptr = some server ∧ server.active = true ∧
      (server.serviceName, server.protocolName) = svcPair

/-- Every entry refers to a server that exists and listens for exactly that
pair, so does every answer of `listener_for`, and a pair that no server
listens for is free. -/
structure ListenersAlive (host : ServerHost) : Prop where
  entries :
    ∀ svcPair ptr,
      (svcPair, ptr) ∈ host.listeners → ListensFor host svcPair ptr
  found :
    ∀ svcPair ptr,
      host.listenerFor svcPair = some ptr → ListensFor host svcPair ptr
  available :
    ∀ svcPair,
      (∀ ptr, ¬ ListensFor host svcPair ptr) →
        host.isListening svcPair = false

/-- Whenever a server is destroyed, it does not listen. -/
def NoListenerDestroyed (calls : List ServerCall) : Prop :=
  ∀ earlier ptr host server,
    earlier ++ [.destroy ptr] <+: calls →
      hostAfter earlier = some host →
        host.servers ptr = some server → server.active = false

/-- Every entry is alive, which is all that the promise needs. -/
def EntriesAlive (host : ServerHost) : Prop :=
  ∀ svcPair ptr,
    (svcPair, ptr) ∈ host.listeners → ListensFor host svcPair ptr

private theorem EntriesAlive.listenersAlive
    {host : ServerHost} (alive : EntriesAlive host) :
    ListenersAlive host where
  entries := alive
  found := by
    intro svcPair ptr found
    exact alive svcPair ptr (mem_of_lookup_eq_some found)
  available := by
    intro svcPair nobody
    rw [Bool.eq_false_iff]
    intro listening
    obtain ⟨ptr, found⟩ := Option.isSome_iff_exists.mp listening
    exact nobody ptr (alive svcPair ptr (mem_of_lookup_eq_some found))

/-- Every server that listens has its entry. -/
def ListenersRegistered (host : ServerHost) : Prop :=
  ∀ ptr server,
    host.servers ptr = some server → server.active = true →
      ((server.serviceName, server.protocolName), ptr) ∈ host.listeners

/-- No server that listens is at the address. -/
def NotListening (host : ServerHost) (ptr : ServerPtr) : Prop :=
  ∀ server, host.servers ptr = some server → server.active = false

/-- A call puts a server that does not listen in the place of another such
server or of none, makes a server listen and enters it, or destroys one. -/
inductive ServerStep (host : ServerHost) : ServerCall → ServerHost → Prop
  | idle (call : ServerCall) (ptr : ServerPtr) (server : Server) :
      NotListening host ptr → server.active = false →
        ServerStep host call
          { servers := Function.update host.servers ptr (some server)
            listeners := host.listeners }
  | listens (call : ServerCall) (ptr : ServerPtr) (server : Server) :
      NotListening host ptr → server.active = true →
        ServerStep host call
          { servers := Function.update host.servers ptr (some server)
            listeners :=
              ((server.serviceName, server.protocolName), ptr) ::
                host.listeners }
  | destroys (ptr : ServerPtr) (server : Server) :
      host.servers ptr = some server →
        ServerStep host (.destroy ptr) (host.setServer ptr none)

private theorem listen_step
    {host next : ServerHost} {ptr : ServerPtr}
    {serviceName serviceDesc protocolName protocolDesc : Bytes}
    {accepted : Bool} (call : ServerCall)
    (returned :
      host.listen ptr serviceName serviceDesc protocolName protocolDesc =
        some (accepted, next)) :
    ServerStep host call next := by
  rw [ServerHost.listen, bind_eq_some_iff] at returned
  obtain ⟨server, found, returned⟩ := returned
  simp only [guard_bind_eq_some_iff] at returned
  obtain ⟨_, _, inactive, returned⟩ := returned
  have idle : NotListening host ptr := by
    intro other isOther
    rw [found] at isOther
    cases isOther
    exact inactive
  split at returned
  · cases returned
    exact ServerStep.idle call ptr _ idle inactive
  · rename_i free
    cases returned
    rw [ServerHost.registerListener, if_neg free]
    exact
      ServerStep.listens call ptr
        { server with
          serviceName := serviceName
          serviceDescription := serviceDesc
          protocolName := protocolName
          protocolDescription := protocolDesc
          active := true } idle rfl

theorem apply_step
    {host next : ServerHost} {call : ServerCall}
    (returned : call.apply host = some next) :
    ServerStep host call next := by
  cases call with
  | construct ptr =>
      rw [ServerCall.apply, ServerHost.construct, guard_bind_eq_some_iff]
        at returned
      obtain ⟨unused, returned⟩ := returned
      cases returned
      refine ServerStep.idle (.construct ptr) ptr Server.create ?_ rfl
      intro server found
      rw [found] at unused
      cases unused
  | listen ptr serviceName serviceDesc protocolName protocolDesc =>
      rw [ServerCall.apply, Option.map_eq_some_iff] at returned
      obtain ⟨⟨accepted, host'⟩, listened, rfl⟩ := returned
      exact listen_step _ listened
  | destroy ptr =>
      rw [ServerCall.apply, ServerHost.destroy, guard_bind_eq_some_iff]
        at returned
      obtain ⟨exists', returned⟩ := returned
      obtain ⟨server, found⟩ := Option.isSome_iff_exists.mp exists'
      cases returned
      exact ServerStep.destroys ptr server found

/-- A server elsewhere keeps listening. -/
theorem ListensFor.update_of_ne
    {host next : ServerHost} {ptr changed : ServerPtr}
    {svcPair : Bytes × Bytes} {server : Option Server}
    (listens : ListensFor host svcPair ptr)
    (different : ptr ≠ changed)
    (updated :
      next.servers = Function.update host.servers changed server) :
    ListensFor next svcPair ptr := by
  obtain ⟨listener, found, rest⟩ := listens
  refine ⟨listener, ?_, rest⟩
  rw [updated, Function.update_of_ne different]
  exact found

private theorem ListensFor.ne_of_notListening
    {host : ServerHost} {ptr idle : ServerPtr}
    {svcPair : Bytes × Bytes}
    (listens : ListensFor host svcPair ptr)
    (notListening : NotListening host idle) : ptr ≠ idle := by
  rintro rfl
  obtain ⟨server, found, active, _⟩ := listens
  rw [notListening server found] at active
  cases active

theorem EntriesAlive.step
    {host next : ServerHost} {call : ServerCall}
    (alive : EntriesAlive host) (step : ServerStep host call next)
    (harmless :
      ∀ ptr, call = .destroy ptr → NotListening host ptr) :
    EntriesAlive next := by
  cases step with
  | idle call ptr server notListening inactive =>
      intro svcPair listener member
      have listens := alive svcPair listener member
      exact
        listens.update_of_ne (listens.ne_of_notListening notListening)
          rfl
  | listens call ptr server notListening active =>
      intro svcPair listener member
      rcases List.mem_cons.mp member with new | old
      · cases new
        exact ⟨server, Function.update_self _ _ _, active, rfl⟩
      · have listens := alive svcPair listener old
        exact
          listens.update_of_ne (listens.ne_of_notListening notListening)
            rfl
  | destroys ptr server found =>
      intro svcPair listener member
      have listens := alive svcPair listener member
      exact
        listens.update_of_ne
          (listens.ne_of_notListening (harmless ptr rfl)) rfl

theorem ListenersRegistered.step
    {host next : ServerHost} {call : ServerCall}
    (registered : ListenersRegistered host)
    (step : ServerStep host call next) :
    ListenersRegistered next := by
  cases step with
  | idle call ptr server notListening inactive =>
      intro listener other found active
      by_cases same : listener = ptr
      · subst same
        dsimp only at found
        rw [Function.update_self] at found
        cases found
        rw [inactive] at active
        cases active
      · dsimp only at found
        rw [Function.update_of_ne same] at found
        exact registered listener other found active
  | listens call ptr server notListening isActive =>
      intro listener other found active
      by_cases same : listener = ptr
      · subst same
        dsimp only at found
        rw [Function.update_self] at found
        cases found
        exact List.mem_cons_self
      · dsimp only at found
        rw [Function.update_of_ne same] at found
        exact
          List.mem_cons_of_mem _ (registered listener other found active)
  | destroys ptr server _ =>
      intro listener other found active
      rw [ServerHost.setServer] at found
      by_cases same : listener = ptr
      · subst same
        dsimp only at found
        rw [Function.update_self] at found
        cases found
      · dsimp only at found
        rw [Function.update_of_ne same] at found
        exact registered listener other found active

private theorem hostAfter_snoc_eq_some
    {calls : List ServerCall} {call : ServerCall} {next : ServerHost}
    (reached : hostAfter (calls ++ [call]) = some next) :
    ∃ host, hostAfter calls = some host ∧ call.apply host = some next := by
  rw [hostAfter_snoc] at reached
  exact Option.bind_eq_some_iff.mp reached

private theorem listenersRegistered_of_reached
    (calls : List ServerCall) {host : ServerHost}
    (reached : hostAfter calls = some host) :
    ListenersRegistered host := by
  induction calls using List.reverseRecOn generalizing host with
  | nil =>
      cases reached
      intro ptr server found
      cases found
  | append_singleton calls call inductionHypothesis =>
      obtain ⟨before, earlier, applied⟩ := hostAfter_snoc_eq_some reached
      exact (inductionHypothesis earlier).step (apply_step applied)

theorem NoListenerDestroyed.of_snoc
    {calls : List ServerCall} {call : ServerCall}
    (safe : NoListenerDestroyed (calls ++ [call])) :
    NoListenerDestroyed calls := by
  intro earlier ptr host server initial
  exact
    safe earlier ptr host server
      (initial.trans (List.prefix_append calls [call]))

private theorem entriesAlive_of_reached
    (calls : List ServerCall) {host : ServerHost}
    (safe : NoListenerDestroyed calls)
    (reached : hostAfter calls = some host) :
    EntriesAlive host := by
  induction calls using List.reverseRecOn generalizing host with
  | nil =>
      cases reached
      intro svcPair ptr member
      cases member
  | append_singleton calls call inductionHypothesis =>
      obtain ⟨before, earlier, applied⟩ := hostAfter_snoc_eq_some reached
      refine
        (inductionHypothesis safe.of_snoc earlier).step
          (apply_step applied) ?_
      rintro ptr rfl server found
      exact
        safe calls ptr before server (List.prefix_refl _) earlier found

/-- Destroying a server that listens leaves an entry behind that refers to
nothing. -/
theorem not_listenersAlive_of_destroy
    {host : ServerHost} {ptr : ServerPtr} {server : Server}
    (registered : ListenersRegistered host)
    (found : host.servers ptr = some server)
    (active : server.active = true) :
    ¬ ListenersAlive (host.setServer ptr none) := by
  intro alive
  obtain ⟨other, isOther, _⟩ :=
    alive.entries _ ptr (registered ptr server found active)
  rw [ServerHost.setServer] at isOther
  dsimp only at isOther
  rw [Function.update_self] at isOther
  cases isOther

/-- In every state of a run the listeners are alive, if and only if no call
of the run destroys a server that listens. -/
theorem listenersAlive_iff_noListenerDestroyed
    (calls : List ServerCall) :
    (∀ earlier host,
        earlier <+: calls → hostAfter earlier = some host →
          ListenersAlive host) ↔
      NoListenerDestroyed calls := by
  constructor
  · intro alive earlier ptr host server initial reached found
    rw [Bool.eq_false_iff]
    intro active
    refine
      not_listenersAlive_of_destroy
        (listenersRegistered_of_reached earlier reached) found active
        (alive _ _ initial ?_)
    rw [hostAfter_snoc, reached]
    simp only [Option.bind_some, ServerCall.apply, ServerHost.destroy,
      found]
    rfl
  · intro safe earlier host initial reached
    apply EntriesAlive.listenersAlive
    refine entriesAlive_of_reached earlier ?_ reached
    intro front ptr before server more
    exact safe front ptr before server (more.trans initial)

/-- A server of the service and the protocol `1` listens and is
destroyed. -/
def destroyedListener : List ServerCall :=
  [.construct 0, .listen 0 [1] [1] [1] [1], .destroy 0]

theorem destroyed_listener_found :
    ∃ host,
      hostAfter destroyedListener = some host ∧
        host.servers 0 = none ∧ host.listenerFor ([1], [1]) = some 0 ∧
        ¬ ListenersAlive host := by
  refine ⟨_, rfl, rfl, rfl, ?_⟩
  intro alive
  obtain ⟨server, found, _⟩ := alive.found ([1], [1]) 0 rfl
  cases found

end StructuredStreams.Service

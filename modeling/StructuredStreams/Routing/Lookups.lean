import Mathlib.Data.Finset.Basic
import Mathlib.Data.List.Count

/-!
# Lookups of peers

A peer that looks for its endpoint asks every routing client that is ready,
once at a time.  A client broadcasts each response to all peers that have
connected to it; a peer ignores the responses about others and those it did
not wait for.  A client may answer, answer again or disappear at any time,
and the key exchanges of a peer come and go.

The clients and the addresses are the routing library's; the identities of
the peers are those the host keeps one peer for.
-/

namespace StructuredStreams.Routing

/-- What a peer does about its lookups. -/
inductive LookupAction (Endpoint : Type) where
  /-- `rc->lookup(remote_id_, true)` -/
  | asked (rc : Nat)
  /-- A response removed the lookup. -/
  | answered (rc : Nat)
  /-- The end of the client removed the lookup. -/
  | abandoned (rc : Nat)
  /-- `add_location_hint` -/
  | hint (endpoint : Endpoint)
  /-- `on_channel_failed` -/
  | channelFailed
  /-- `reconnect_timer_` -/
  | timerStarted
  deriving DecidableEq, Repr

/-- The part of a peer that coordinates its lookups. -/
structure RoutingPeer (Endpoint : Type) where
  lookups : Finset Nat
  connectedRoutingClients : Finset Nat
  /-- Whether `key_exchanges_initiated_` has entries. -/
  keyExchangesInitiated : Bool
  log : List (LookupAction Endpoint)

namespace RoutingPeer

variable {Endpoint : Type}

def create : RoutingPeer Endpoint :=
  ⟨∅, ∅, false, []⟩

def act (peer : RoutingPeer Endpoint) (action : LookupAction Endpoint) :
    RoutingPeer Endpoint :=
  { peer with log := peer.log ++ [action] }

def noLookupsPossible (peer : RoutingPeer Endpoint) : Bool :=
  decide (peer.lookups = ∅) && !peer.keyExchangesInitiated

/-- The rest of `routing_client_ready` once the signals are connected. -/
def startLookup (peer : RoutingPeer Endpoint) (rc : Nat) :
    RoutingPeer Endpoint :=
  { peer with lookups := insert rc peer.lookups }.act (.asked rc)

section Handlers

variable {Id : Type} [DecidableEq Id] (isUnspecified : Endpoint → Bool)

/-- `lookup_done`.  The endpoints of the profile are not used. -/
def lookupDone
    (peer : RoutingPeer Endpoint) (remoteId : Id) (rc : Nat)
    (targetPeer : Id) (peerEndpoint : Endpoint) : RoutingPeer Endpoint :=
  if targetPeer ≠ remoteId then peer
  else if rc ∉ peer.lookups then peer
  else
    let peer :=
      { peer with lookups := peer.lookups.erase rc }.act (.answered rc)
    if isUnspecified peerEndpoint then
      if peer.lookups ≠ ∅ ∨ peer.keyExchangesInitiated = true then peer
      else peer.act .channelFailed
    else peer.act (.hint peerEndpoint)

end Handlers

/-- The lookup of a client that is gone is removed, if there is one. -/
def abandon (peer : RoutingPeer Endpoint) (rc : Nat) :
    RoutingPeer Endpoint :=
  if rc ∈ peer.lookups then
    { peer with lookups := peer.lookups.erase rc }.act (.abandoned rc)
  else peer

def regclientDestroyed (peer : RoutingPeer Endpoint) (rc : Nat) :
    RoutingPeer Endpoint :=
  let peer := peer.abandon rc
  let peer :=
    { peer with
      connectedRoutingClients := peer.connectedRoutingClients.erase rc }
  if peer.noLookupsPossible then peer.act .timerStarted else peer

end RoutingPeer

/-- The peers by their remote identity, and the peers with slots at the
signals of a client. -/
structure RoutingWorld (Id Endpoint : Type) where
  peers : Id → RoutingPeer Endpoint
  slots : Nat → List Id

inductive RoutingEvent (Id Endpoint : Type) where
  | routingClientReady (id : Id) (rc : Nat)
  /-- A client emits `on_lookup_done`. -/
  | lookupDone (rc : Nat) (targetPeer : Id) (peerEndpoint : Endpoint)
  /-- A client emits `on_destroyed` and is gone with its signals. -/
  | destroyed (rc : Nat)
  /-- The first key exchange of a peer begins or the last one ends. -/
  | keyExchanges (id : Id) (initiated : Bool)
  deriving DecidableEq, Repr

namespace RoutingWorld

variable {Id Endpoint : Type} [DecidableEq Id]

def create : RoutingWorld Id Endpoint :=
  ⟨fun _ => RoutingPeer.create, fun _ => []⟩

def setPeer
    (world : RoutingWorld Id Endpoint) (id : Id)
    (peer : RoutingPeer Endpoint) : RoutingWorld Id Endpoint :=
  { world with peers := Function.update world.peers id peer }

def connectRoutingClient
    (world : RoutingWorld Id Endpoint) (id : Id) (rc : Nat) :
    RoutingWorld Id Endpoint :=
  let peer := world.peers id
  if rc ∈ peer.connectedRoutingClients then world
  else
    let connected := insert rc peer.connectedRoutingClients
    { world.setPeer id { peer with connectedRoutingClients := connected } with
      slots := Function.update world.slots rc (world.slots rc ++ [id]) }

def routingClientReady
    (world : RoutingWorld Id Endpoint) (id : Id) (rc : Nat) :
    RoutingWorld Id Endpoint :=
  if rc ∈ (world.peers id).lookups then world
  else
    let world := world.connectRoutingClient id rc
    world.setPeer id ((world.peers id).startLookup rc)

/-- Call a handler of the given peers one after the other. -/
def callAll
    (world : RoutingWorld Id Endpoint) (ids : List Id)
    (handler : Id → RoutingPeer Endpoint → RoutingPeer Endpoint) :
    RoutingWorld Id Endpoint :=
  ids.foldl
    (fun world id => world.setPeer id (handler id (world.peers id))) world

/-- Call a handler of every peer with a slot at the client. -/
def emit
    (world : RoutingWorld Id Endpoint) (rc : Nat)
    (handler : Id → RoutingPeer Endpoint → RoutingPeer Endpoint) :
    RoutingWorld Id Endpoint :=
  world.callAll (world.slots rc) handler

variable (isUnspecified : Endpoint → Bool)

def step (world : RoutingWorld Id Endpoint) :
    RoutingEvent Id Endpoint → RoutingWorld Id Endpoint
  | .routingClientReady id rc => world.routingClientReady id rc
  | .lookupDone rc targetPeer peerEndpoint =>
      world.emit rc fun id peer =>
        peer.lookupDone isUnspecified id rc targetPeer peerEndpoint
  | .destroyed rc =>
      let world :=
        world.emit rc fun _ peer => peer.regclientDestroyed rc
      { world with slots := Function.update world.slots rc [] }
  | .keyExchanges id initiated =>
      world.setPeer id
        { world.peers id with keyExchangesInitiated := initiated }

/-- The world after some events, the latest one last. -/
def after (events : List (RoutingEvent Id Endpoint)) :
    RoutingWorld Id Endpoint :=
  events.foldl (step isUnspecified) create

end RoutingWorld

section Peer

variable {Id Endpoint : Type} [DecidableEq Id] [DecidableEq Endpoint]

/-- Every lookup was answered or abandoned. -/
def Settled (log : List (LookupAction Endpoint)) : Prop :=
  ∀ rc,
    log.count (.asked rc) =
      log.count (.answered rc) + log.count (.abandoned rc)

/-- Each failure comes right after an answer, when every lookup is
settled. -/
def FailuresFounded (log : List (LookupAction Endpoint)) : Prop :=
  ∀ before after,
    log = before ++ .channelFailed :: after →
    Settled before ∧ ∃ front rc, before = front ++ [.answered rc]

/-- What a peer keeps up about its lookups. -/
structure Tracked (peer : RoutingPeer Endpoint) : Prop where
  within : peer.lookups ⊆ peer.connectedRoutingClients
  accounted :
    ∀ rc,
      peer.log.count (.asked rc) =
        peer.log.count (.answered rc) + peer.log.count (.abandoned rc) +
          if rc ∈ peer.lookups then 1 else 0
  founded : FailuresFounded peer.log

theorem FailuresFounded.snoc
    {log : List (LookupAction Endpoint)} (founded : FailuresFounded log)
    {action : LookupAction Endpoint}
    (failure :
      action = .channelFailed →
        Settled log ∧ ∃ front rc, log = front ++ [.answered rc]) :
    FailuresFounded (log ++ [action]) := by
  intro before after split
  rcases List.eq_nil_or_concat after with isLast | ⟨later, last, isMore⟩
  · rw [isLast] at split
    obtain ⟨sameLog, sameAction⟩ := List.append_inj' split rfl
    rw [← sameLog]
    exact failure (List.singleton_inj.mp sameAction)
  · rw [isMore, List.concat_eq_append, ← List.cons_append,
      ← List.append_assoc] at split
    obtain ⟨sameLog, _⟩ := List.append_inj' split rfl
    exact founded before later sameLog

theorem Tracked.create :
    Tracked (RoutingPeer.create : RoutingPeer Endpoint) where
  within := Finset.empty_subset _
  accounted := fun _ => rfl
  founded := by
    intro before after split
    cases before <;> cases split

variable {peer : RoutingPeer Endpoint}

theorem Tracked.settled
    (tracked : Tracked peer) (none : peer.lookups = ∅) :
    Settled peer.log := by
  intro rc
  rw [tracked.accounted, none, if_neg (Finset.notMem_empty rc)]
  rfl

/-- A hint or the timer concerns no lookup. -/
theorem Tracked.act
    (tracked : Tracked peer) {action : LookupAction Endpoint}
    (noRequest :
      ∀ rc, action ≠ .asked rc ∧ action ≠ .answered rc ∧
        action ≠ .abandoned rc)
    (failure :
      action = .channelFailed →
        Settled peer.log ∧ ∃ front rc, peer.log = front ++ [.answered rc]) :
    Tracked (peer.act action) where
  within := tracked.within
  accounted := by
    intro rc
    obtain ⟨notAsked, notAnswered, notAbandoned⟩ := noRequest rc
    simp only [RoutingPeer.act, List.count_append, List.count_singleton,
      beq_iff_eq, notAsked, notAnswered, notAbandoned, if_false,
      Nat.add_zero]
    exact tracked.accounted rc
  founded := tracked.founded.snoc failure

private theorem Tracked.startLookup
    (tracked : Tracked peer) {rc : Nat}
    (connected : rc ∈ peer.connectedRoutingClients)
    (idle : rc ∉ peer.lookups) :
    Tracked (peer.startLookup rc) where
  within := Finset.insert_subset connected tracked.within
  accounted := by
    intro other
    have before := tracked.accounted other
    by_cases same : other = rc
    · subst other
      rw [if_neg idle] at before
      simp [RoutingPeer.startLookup, RoutingPeer.act, before]
    · have different : LookupAction.asked rc ≠
          (.asked other : LookupAction Endpoint) := by
        intro equality
        injection equality with equal
        exact same equal.symm
      simp [RoutingPeer.startLookup, RoutingPeer.act, before, same,
        different]
  founded := tracked.founded.snoc nofun

/-- An answer or the end of the client settles a lookup. -/
theorem Tracked.settle
    (tracked : Tracked peer) {rc : Nat} (waiting : rc ∈ peer.lookups)
    {action : LookupAction Endpoint}
    (settles : action = .answered rc ∨ action = .abandoned rc) :
    Tracked
      ({ peer with lookups := peer.lookups.erase rc }.act action) where
  within := (Finset.erase_subset _ _).trans tracked.within
  accounted := by
    intro other
    have before := tracked.accounted other
    by_cases same : other = rc
    · subst other
      rw [if_pos waiting] at before
      rcases settles with rfl | rfl <;>
        simp [RoutingPeer.act, before] <;> omega
    · rcases settles with rfl | rfl <;>
        simp [RoutingPeer.act, before, same, Ne.symm same]
  founded := by
    refine tracked.founded.snoc ?_
    rcases settles with rfl | rfl <;> nofun

variable {isUnspecified : Endpoint → Bool}

private theorem Tracked.lookupDone
    (tracked : Tracked peer) (remoteId : Id) (rc : Nat)
    (targetPeer : Id) (peerEndpoint : Endpoint) :
    Tracked
      (peer.lookupDone isUnspecified remoteId rc targetPeer
        peerEndpoint) := by
  rw [RoutingPeer.lookupDone]
  split
  · exact tracked
  · split
    · exact tracked
    · next waiting =>
        have answered :=
          tracked.settle (not_not.mp waiting) (Or.inl rfl)
        dsimp only
        split
        · split
          · exact answered
          · next noHope =>
              refine answered.act ?_ ?_
              · intro other
                exact ⟨nofun, nofun, nofun⟩
              · intro _
                have none := not_not.mp (not_or.mp noHope).1
                exact ⟨answered.settled none, _, rc, rfl⟩
        · refine answered.act ?_ nofun
          intro other
          exact ⟨nofun, nofun, nofun⟩

private theorem Tracked.abandon
    (tracked : Tracked peer) (rc : Nat) :
    Tracked (peer.abandon rc) ∧ rc ∉ (peer.abandon rc).lookups := by
  rw [RoutingPeer.abandon]
  split
  · next waiting =>
      exact ⟨tracked.settle waiting (Or.inr rfl),
        Finset.notMem_erase rc peer.lookups⟩
  · next idle =>
      exact ⟨tracked, idle⟩

private theorem Tracked.regclientDestroyed
    (tracked : Tracked peer) (rc : Nat) :
    Tracked (peer.regclientDestroyed rc) := by
  obtain ⟨abandoned, idle⟩ := tracked.abandon rc
  have forgotten :
      Tracked
        { peer.abandon rc with
          connectedRoutingClients :=
            (peer.abandon rc).connectedRoutingClients.erase rc } :=
    ⟨Finset.subset_erase.mpr ⟨abandoned.within, idle⟩,
      abandoned.accounted, abandoned.founded⟩
  rw [RoutingPeer.regclientDestroyed]
  split
  · refine forgotten.act ?_ nofun
    intro other
    exact ⟨nofun, nofun, nofun⟩
  · exact forgotten

end Peer

/-! ## Peers and clients together -/

section World

variable {Id Endpoint : Type} [DecidableEq Id]
  {isUnspecified : Endpoint → Bool}

private theorem RoutingPeer.lookupDone_connected
    (peer : RoutingPeer Endpoint) (remoteId : Id) (rc : Nat)
    (targetPeer : Id) (peerEndpoint : Endpoint) :
    (peer.lookupDone isUnspecified remoteId rc targetPeer
        peerEndpoint).connectedRoutingClients =
      peer.connectedRoutingClients := by
  rw [lookupDone]
  split
  · rfl
  · split
    · rfl
    · dsimp only
      split
      · split <;> rfl
      · rfl

private theorem RoutingPeer.regclientDestroyed_connected
    (peer : RoutingPeer Endpoint) (rc : Nat) :
    (peer.regclientDestroyed rc).connectedRoutingClients =
      peer.connectedRoutingClients.erase rc := by
  have abandoned :
      (peer.abandon rc).connectedRoutingClients =
        peer.connectedRoutingClients := by
    rw [abandon]
    split <;> rfl
  rw [regclientDestroyed, ← abandoned]
  split <;> rfl

namespace RoutingWorld

@[simp]
theorem setPeer_slots
    (world : RoutingWorld Id Endpoint) (id : Id)
    (peer : RoutingPeer Endpoint) :
    (world.setPeer id peer).slots = world.slots :=
  rfl

@[simp]
theorem setPeer_self
    (world : RoutingWorld Id Endpoint) (id : Id)
    (peer : RoutingPeer Endpoint) :
    (world.setPeer id peer).peers id = peer := by
  rw [setPeer]
  exact Function.update_self id peer world.peers

private theorem setPeer_of_ne
    (world : RoutingWorld Id Endpoint) {id other : Id}
    (different : other ≠ id) (peer : RoutingPeer Endpoint) :
    (world.setPeer id peer).peers other = world.peers other := by
  rw [setPeer]
  exact Function.update_of_ne different peer world.peers

variable {handler : Id → RoutingPeer Endpoint → RoutingPeer Endpoint}

private theorem callAll_slots
    (world : RoutingWorld Id Endpoint) (ids : List Id) :
    (world.callAll ids handler).slots = world.slots := by
  induction ids generalizing world with
  | nil =>
      rfl
  | cons id ids inductionHypothesis =>
      exact inductionHypothesis _

private theorem callAll_of_not_mem
    (world : RoutingWorld Id Endpoint) {ids : List Id} {id : Id}
    (absent : id ∉ ids) :
    (world.callAll ids handler).peers id = world.peers id := by
  induction ids generalizing world with
  | nil =>
      rfl
  | cons first ids inductionHypothesis =>
      rw [List.mem_cons, not_or] at absent
      obtain ⟨different, later⟩ := absent
      exact
        (inductionHypothesis _ later).trans
          (world.setPeer_of_ne different _)

/-- A peer that is listed once is called once. -/
theorem callAll_of_mem
    (world : RoutingWorld Id Endpoint) {ids : List Id} {id : Id}
    (once : ids.count id = 1) :
    (world.callAll ids handler).peers id =
      handler id (world.peers id) := by
  induction ids generalizing world with
  | nil =>
      cases once
  | cons first ids inductionHypothesis =>
      by_cases same : first = id
      · subst first
        rw [List.count_cons_self] at once
        have absent : id ∉ ids :=
          List.count_eq_zero.mp (Nat.succ.inj once)
        exact
          (callAll_of_not_mem _ absent).trans (world.setPeer_self id _)
      · rw [List.count_cons_of_ne same] at once
        refine (inductionHypothesis _ once).trans ?_
        rw [world.setPeer_of_ne (Ne.symm same)]

end RoutingWorld

/-- A peer has one slot at the clients it is connected to and none at the
others. -/
def OneSlot (world : RoutingWorld Id Endpoint) : Prop :=
  ∀ id rc,
    (world.slots rc).count id =
      if rc ∈ (world.peers id).connectedRoutingClients then 1 else 0

namespace OneSlot

variable {world : RoutingWorld Id Endpoint}

theorem create : OneSlot (RoutingWorld.create : RoutingWorld Id Endpoint) :=
  fun _ _ => rfl

/-- The peers are called that are connected, and they are called once. -/
theorem emit
    (oneSlot : OneSlot world) (rc : Nat)
    (handler : Id → RoutingPeer Endpoint → RoutingPeer Endpoint)
    (id : Id) :
    (world.emit rc handler).peers id =
      if rc ∈ (world.peers id).connectedRoutingClients then
        handler id (world.peers id)
      else world.peers id := by
  have count := oneSlot id rc
  split
  · next connected =>
      rw [if_pos connected] at count
      exact RoutingWorld.callAll_of_mem world count
  · next absent =>
      rw [if_neg absent] at count
      exact
        RoutingWorld.callAll_of_not_mem world
          (List.count_eq_zero.mp count)

/-- Slots and connections that stay the same. -/
theorem of_eq
    (oneSlot : OneSlot world) {next : RoutingWorld Id Endpoint}
    (sameSlots : next.slots = world.slots)
    (sameConnected :
      ∀ id,
        (next.peers id).connectedRoutingClients =
          (world.peers id).connectedRoutingClients) :
    OneSlot next := by
  intro id rc
  rw [sameSlots, sameConnected]
  exact oneSlot id rc

private theorem setPeer
    (oneSlot : OneSlot world) (id : Id) {peer : RoutingPeer Endpoint}
    (sameConnected :
      peer.connectedRoutingClients =
        (world.peers id).connectedRoutingClients) :
    OneSlot (world.setPeer id peer) := by
  refine oneSlot.of_eq rfl ?_
  intro other
  by_cases same : other = id
  · subst other
    rw [world.setPeer_self]
    exact sameConnected
  · rw [world.setPeer_of_ne same]

private theorem connectRoutingClient
    (oneSlot : OneSlot world) (id : Id) (rc : Nat) :
    OneSlot (world.connectRoutingClient id rc) ∧
      rc ∈
        ((world.connectRoutingClient id rc).peers
          id).connectedRoutingClients := by
  rw [RoutingWorld.connectRoutingClient]
  dsimp only
  split
  · next connected =>
      exact ⟨oneSlot, connected⟩
  · next absent =>
      have free := oneSlot id rc
      rw [if_neg absent] at free
      constructor
      · intro other client
        have before := oneSlot other client
        by_cases sameClient : client = rc
        · subst client
          by_cases same : other = id
          · subst other
            simp [free]
          · simp [world.setPeer_of_ne same, before, Ne.symm same]
        · by_cases same : other = id
          · subst other
            simp [before, sameClient]
          · simp [world.setPeer_of_ne same, before, sameClient]
      · simp

private theorem routingClientReady
    (oneSlot : OneSlot world) (id : Id) (rc : Nat) :
    OneSlot (world.routingClientReady id rc) := by
  rw [RoutingWorld.routingClientReady]
  split
  · exact oneSlot
  · exact (oneSlot.connectRoutingClient id rc).1.setPeer id rfl

theorem destroyed
    (oneSlot : OneSlot world) (rc : Nat) :
    OneSlot
      (world.step isUnspecified (.destroyed rc)) := by
  intro id client
  have before := oneSlot id client
  have called :=
    oneSlot.emit rc (fun _ peer => peer.regclientDestroyed rc) id
  have slots :
      (world.emit rc fun _ peer => peer.regclientDestroyed rc).slots =
        world.slots :=
    RoutingWorld.callAll_slots world _
  rw [RoutingWorld.step]
  dsimp only
  rw [slots, called]
  by_cases same : client = rc
  · subst client
    rw [Function.update_self]
    split
    · rw [RoutingPeer.regclientDestroyed_connected]
      simp
    · simp
  · rw [Function.update_of_ne same, before]
    split
    · next connected =>
        split <;> simp [RoutingPeer.regclientDestroyed_connected, same,
          connected]
    · next absent =>
        split <;> simp [RoutingPeer.regclientDestroyed_connected, absent]

/-- Every event leaves the slots in order. -/
theorem step
    (oneSlot : OneSlot world) (event : RoutingEvent Id Endpoint) :
    OneSlot (world.step isUnspecified event) := by
  cases event with
  | routingClientReady id rc =>
      exact oneSlot.routingClientReady id rc
  | lookupDone rc targetPeer peerEndpoint =>
      refine oneSlot.of_eq (RoutingWorld.callAll_slots world _) ?_
      intro id
      rw [RoutingWorld.step, oneSlot.emit]
      split
      · exact RoutingPeer.lookupDone_connected _ _ _ _ _
      · rfl
  | destroyed rc =>
      exact oneSlot.destroyed rc
  | keyExchanges id initiated =>
      exact oneSlot.setPeer id rfl

end OneSlot

/-- What an event does to a peer, each peer being called at most once. -/
theorem OneSlot.peers_step
    {world : RoutingWorld Id Endpoint} (oneSlot : OneSlot world)
    (event : RoutingEvent Id Endpoint) (id : Id)
    (holds : RoutingPeer Endpoint → Prop)
    (same : holds (world.peers id))
    (started :
      ∀ rc connected,
        event = .routingClientReady id rc →
        rc ∈ connected →
        (world.peers id).connectedRoutingClients ⊆ connected →
        rc ∉ (world.peers id).lookups →
        holds
          ({ world.peers id with
              connectedRoutingClients := connected }.startLookup rc))
    (responded :
      ∀ rc targetPeer peerEndpoint,
        event = .lookupDone rc targetPeer peerEndpoint →
        holds
          ((world.peers id).lookupDone isUnspecified id rc targetPeer
            peerEndpoint))
    (destroyed : ∀ rc, holds ((world.peers id).regclientDestroyed rc))
    (exchanges :
      ∀ initiated,
        event = .keyExchanges id initiated →
        holds
          { world.peers id with keyExchangesInitiated := initiated }) :
    holds ((world.step isUnspecified event).peers id) := by
  cases event with
  | routingClientReady other rc =>
      rw [RoutingWorld.step, RoutingWorld.routingClientReady]
      split
      · exact same
      · next idle =>
          dsimp only
          by_cases sameId : id = other
          · subst other
            rw [RoutingWorld.setPeer_self]
            rw [RoutingWorld.connectRoutingClient]
            dsimp only
            split
            · next connected =>
                exact started rc _ rfl connected (Finset.Subset.refl _) idle
            · dsimp only
              rw [RoutingWorld.setPeer_self]
              exact
                started rc _ rfl (Finset.mem_insert_self _ _)
                  (Finset.subset_insert _ _) idle
          · rw [RoutingWorld.setPeer_of_ne _ sameId,
              RoutingWorld.connectRoutingClient]
            dsimp only
            split
            · exact same
            · dsimp only
              rw [RoutingWorld.setPeer_of_ne _ sameId]
              exact same
  | lookupDone rc targetPeer peerEndpoint =>
      rw [RoutingWorld.step, oneSlot.emit]
      split
      · exact responded rc targetPeer peerEndpoint rfl
      · exact same
  | destroyed rc =>
      have called :=
        oneSlot.emit rc (fun _ peer => peer.regclientDestroyed rc) id
      rw [RoutingWorld.step]
      dsimp only
      rw [called]
      split
      · exact destroyed rc
      · exact same
  | keyExchanges other initiated =>
      rw [RoutingWorld.step]
      by_cases sameId : id = other
      · subst other
        rw [RoutingWorld.setPeer_self]
        exact exchanges initiated rfl
      · rw [RoutingWorld.setPeer_of_ne _ sameId]
        exact same

private theorem RoutingWorld.after_concat
    (events : List (RoutingEvent Id Endpoint))
    (event : RoutingEvent Id Endpoint) :
    after isUnspecified (events ++ [event]) =
      (after isUnspecified events).step isUnspecified event :=
  List.foldl_append

/-- The action tells somebody how the lookups ended. -/
def LookupAction.Tells : LookupAction Endpoint → Prop
  | .hint _ | .channelFailed | .timerStarted => True
  | .asked _ | .answered _ | .abandoned _ => False

/-- Without key exchanges the end of the last lookup was told. -/
structure EndTold (peer : RoutingPeer Endpoint) : Prop where
  noExchanges : peer.keyExchangesInitiated = false
  told :
    peer.lookups = ∅ →
    peer.log = [] ∨ ∃ front last, peer.log = front ++ [last] ∧ last.Tells

namespace EndTold

variable {peer : RoutingPeer Endpoint}

private theorem startLookup
    (endTold : EndTold peer) (connected : Finset Nat) (rc : Nat) :
    EndTold
      ({ peer with connectedRoutingClients := connected }.startLookup
        rc) where
  noExchanges := endTold.noExchanges
  told := by
    intro none
    exact absurd none (Finset.insert_ne_empty rc peer.lookups)

theorem act
    (noExchanges : peer.keyExchangesInitiated = false)
    (action : LookupAction Endpoint) (tells : action.Tells) :
    EndTold (peer.act action) :=
  ⟨noExchanges, fun _ => Or.inr ⟨peer.log, action, rfl, tells⟩⟩

private theorem lookupDone
    (endTold : EndTold peer) (id : Id) (rc : Nat) (targetPeer : Id)
    (peerEndpoint : Endpoint) :
    EndTold
      (peer.lookupDone isUnspecified id rc targetPeer peerEndpoint) := by
  rw [RoutingPeer.lookupDone]
  split
  · exact endTold
  · split
    · exact endTold
    · dsimp only
      split
      · split
        · next hope =>
            refine ⟨endTold.noExchanges, ?_⟩
            intro none
            rcases hope with others | exchanging
            · exact absurd none others
            · have noExchanges := endTold.noExchanges
              exact absurd (exchanging.symm.trans noExchanges) (by decide)
        · refine act ?_ .channelFailed trivial
          exact endTold.noExchanges
      · refine act ?_ (.hint peerEndpoint) trivial
        exact endTold.noExchanges

private theorem regclientDestroyed
    (endTold : EndTold peer) (rc : Nat) :
    EndTold (peer.regclientDestroyed rc) := by
  have noExchanges : (peer.abandon rc).keyExchangesInitiated = false := by
    rw [RoutingPeer.abandon]
    split <;> exact endTold.noExchanges
  rw [RoutingPeer.regclientDestroyed]
  split
  · refine act ?_ .timerStarted trivial
    exact noExchanges
  · next possible =>
      refine ⟨noExchanges, ?_⟩
      intro none
      have noLookups : (peer.abandon rc).lookups = ∅ := none
      apply absurd _ possible
      simp [RoutingPeer.noLookupsPossible, noLookups, noExchanges]

end EndTold

end World

/-! ## Runs -/

section Runs

variable {Id Endpoint : Type} [DecidableEq Id] [DecidableEq Endpoint]
  {isUnspecified : Endpoint → Bool}

/-- The slots and the lookups of every peer. -/
structure Coordinated (world : RoutingWorld Id Endpoint) : Prop where
  oneSlot : OneSlot world
  tracked : ∀ id, Tracked (world.peers id)

theorem Coordinated.step
    {world : RoutingWorld Id Endpoint} (coordinated : Coordinated world)
    (event : RoutingEvent Id Endpoint) :
    Coordinated (world.step isUnspecified event) where
  oneSlot := coordinated.oneSlot.step event
  tracked := by
    intro id
    have tracked := coordinated.tracked id
    apply coordinated.oneSlot.peers_step event id Tracked tracked
    · intro rc connected _ isConnected larger idle
      have widened :
          Tracked
            { world.peers id with connectedRoutingClients := connected } :=
        ⟨tracked.within.trans larger, tracked.accounted, tracked.founded⟩
      exact widened.startLookup isConnected idle
    · intro rc targetPeer peerEndpoint _
      exact tracked.lookupDone id rc targetPeer peerEndpoint
    · exact tracked.regclientDestroyed
    · intro initiated _
      exact ⟨tracked.within, tracked.accounted, tracked.founded⟩

/-- Every run keeps the peers coordinated. -/
theorem Coordinated.after (events : List (RoutingEvent Id Endpoint)) :
    Coordinated (RoutingWorld.after isUnspecified events) := by
  induction events using List.reverseRecOn with
  | nil =>
      exact ⟨OneSlot.create, fun _ => Tracked.create⟩
  | append_singleton events event inductionHypothesis =>
      rw [RoutingWorld.after_concat]
      exact inductionHypothesis.step event

/-- The event is a response of the client about the peer. -/
def RoutingEvent.respondsTo (id : Id) (rc : Nat) :
    RoutingEvent Id Endpoint → Bool
  | .lookupDone client targetPeer _ => decide (client = rc ∧ targetPeer = id)
  | _ => false

/-- A response is the only thing that can answer a lookup, and it answers
one. -/
theorem RoutingPeer.lookupDone_answered_le
    (peer : RoutingPeer Endpoint) (id : Id) (rc client : Nat)
    (targetPeer : Id) (peerEndpoint : Endpoint) :
    (peer.lookupDone isUnspecified id client targetPeer
        peerEndpoint).log.count (.answered rc) ≤
      peer.log.count (.answered rc) +
        if client = rc ∧ targetPeer = id then 1 else 0 := by
  rw [lookupDone]
  split
  · exact Nat.le_add_right _ _
  · next sameId =>
      have isTarget : targetPeer = id := not_not.mp sameId
      split
      · exact Nat.le_add_right _ _
      · have answered :
            ({ peer with lookups := peer.lookups.erase client }.act
                (LookupAction.answered client)).log.count
                (LookupAction.answered rc) =
              peer.log.count (.answered rc) +
                if client = rc ∧ targetPeer = id then 1 else 0 := by
          simp [act, List.count_singleton, isTarget]
        dsimp only
        split
        · split
          · exact Nat.le_of_eq answered
          · rw [act, List.count_append, answered]
            simp
        · rw [act, List.count_append, answered]
          simp

private theorem RoutingPeer.regclientDestroyed_answered
    (peer : RoutingPeer Endpoint) (rc client : Nat) :
    (peer.regclientDestroyed client).log.count (.answered rc) =
      peer.log.count (.answered rc) := by
  have abandoned :
      (peer.abandon client).log.count (.answered rc) =
        peer.log.count (.answered rc) := by
    rw [abandon]
    split <;> simp [act]
  rw [← abandoned, regclientDestroyed]
  split <;> simp [act]

/-- Every client has at most one slot of a peer.  Each of its lookups was
answered, was abandoned with the client or is outstanding, and there are no
more answers than responses about the peer. -/
theorem lookups_settled_once
    (events : List (RoutingEvent Id Endpoint)) (id : Id) (rc : Nat) :
    ((RoutingWorld.after isUnspecified events).slots rc).count id ≤ 1 ∧
      ((RoutingWorld.after isUnspecified events).peers id).log.count
          (.asked rc) =
        ((RoutingWorld.after isUnspecified events).peers id).log.count
            (.answered rc) +
          ((RoutingWorld.after isUnspecified events).peers id).log.count
            (.abandoned rc) +
          (if rc ∈
              ((RoutingWorld.after isUnspecified events).peers id).lookups
            then 1 else 0) ∧
      ((RoutingWorld.after isUnspecified events).peers id).log.count
          (.answered rc) ≤
        events.countP (RoutingEvent.respondsTo id rc) := by
  have coordinated : Coordinated (RoutingWorld.after isUnspecified events) :=
    Coordinated.after events
  refine ⟨?_, (coordinated.tracked id).accounted rc, ?_⟩
  · rw [coordinated.oneSlot id rc]
    split <;> decide
  · clear coordinated
    induction events using List.reverseRecOn with
    | nil =>
        exact Nat.zero_le _
    | append_singleton events event inductionHypothesis =>
        have oneSlot :
            OneSlot (RoutingWorld.after isUnspecified events) :=
          (Coordinated.after events).oneSlot
        rw [RoutingWorld.after_concat, List.countP_append]
        apply
          oneSlot.peers_step event id fun peer =>
            peer.log.count (.answered rc) ≤
              events.countP (RoutingEvent.respondsTo id rc) +
                [event].countP (RoutingEvent.respondsTo id rc)
        · omega
        · intro client connected _ _ _ _
          simp only [RoutingPeer.startLookup, RoutingPeer.act,
            List.count_append, List.count_singleton, beq_iff_eq,
            reduceCtorEq, if_false]
          omega
        · intro client targetPeer peerEndpoint isResponse
          have answered :
              (((RoutingWorld.after isUnspecified events).peers
                  id).lookupDone isUnspecified id client targetPeer
                    peerEndpoint).log.count (.answered rc) ≤ _ :=
            RoutingPeer.lookupDone_answered_le _ id rc client targetPeer
              peerEndpoint
          rw [isResponse, List.countP_singleton,
            RoutingEvent.respondsTo]
          simp only [decide_eq_true_eq]
          omega
        · intro client
          rw [RoutingPeer.regclientDestroyed_answered]
          omega
        · intro initiated _
          exact Nat.le_trans inductionHypothesis (Nat.le_add_right _ _)

private theorem endTold_after
    (events : List (RoutingEvent Id Endpoint)) (id : Id)
    (noExchanges : RoutingEvent.keyExchanges id true ∉ events) :
    EndTold ((RoutingWorld.after isUnspecified events).peers id) := by
  induction events using List.reverseRecOn with
  | nil =>
      exact ⟨rfl, fun _ => Or.inl rfl⟩
  | append_singleton events event inductionHypothesis =>
      rw [List.mem_append, not_or] at noExchanges
      have endTold := inductionHypothesis noExchanges.1
      have oneSlot :
          OneSlot (RoutingWorld.after isUnspecified events) :=
        (Coordinated.after events).oneSlot
      rw [RoutingWorld.after_concat]
      apply oneSlot.peers_step event id EndTold endTold
      · intro rc connected _ _ _ _
        exact endTold.startLookup connected rc
      · intro rc targetPeer peerEndpoint _
        exact endTold.lookupDone id rc targetPeer peerEndpoint
      · exact endTold.regclientDestroyed
      · intro initiated isExchange
        cases initiated with
        | false =>
            exact ⟨rfl, endTold.told⟩
        | true =>
            rw [isExchange] at noExchanges
            exact absurd (List.mem_singleton.mpr rfl) noExchanges.2

/-- A peer reports failure only right after an answer and with every lookup
settled.  Where it has no key exchanges, the end of its last lookup is told:
by a hint, by the report of a failure or by the start of the timer. -/
theorem failure_reported_in_the_end
    (events : List (RoutingEvent Id Endpoint)) (id : Id) :
    FailuresFounded
        ((RoutingWorld.after isUnspecified events).peers id).log ∧
      (RoutingEvent.keyExchanges id true ∉ events →
        ((RoutingWorld.after isUnspecified events).peers id).lookups = ∅ →
        ((RoutingWorld.after isUnspecified events).peers id).log = [] ∨
          ∃ front last,
            ((RoutingWorld.after isUnspecified events).peers id).log =
              front ++ [last] ∧ last.Tells) := by
  have coordinated : Coordinated (RoutingWorld.after isUnspecified events) :=
    Coordinated.after events
  refine ⟨(coordinated.tracked id).founded, ?_⟩
  intro noExchanges
  exact (endTold_after events id noExchanges).told

/-- Two clients are asked; one answers for another peer and then that it
found nothing, the other one answers twice. -/
def twoClients : List (RoutingEvent Nat Nat) :=
  [.routingClientReady 7 0, .routingClientReady 7 1,
    .routingClientReady 8 0, .lookupDone 0 8 5, .lookupDone 0 7 0,
    .lookupDone 1 7 0, .lookupDone 1 7 0]

def isZero (endpoint : Nat) : Bool :=
  decide (endpoint = 0)

theorem failure_reported_after_two_answers :
    ∃ front last,
      ((RoutingWorld.after isZero twoClients).peers 7).log =
        front ++ [last] ∧ last.Tells := by
  have ended :
      ((RoutingWorld.after isZero twoClients).peers 7).lookups = ∅ := by
    decide
  have told :=
    (failure_reported_in_the_end twoClients 7).2 (by decide) ended
  refine told.resolve_left ?_
  decide

end Runs

end StructuredStreams.Routing

import StructuredStreams.Framing.Deframe

/-!
# Receiving a packet on a channel

`channel::receive` counts runt packets and packets that do not decrypt, and
hands the decrypted payload to `deframe`.  Exceptions are caught only inside
`receive_decode`: what `deframe` throws leaves `receive`, and where `deframe`
does not end, neither does `receive`.

The message header and the box are the business of other libraries, and are
the parameter `MessageLayer`.  The handlers of `on_ready_transmit`, which the
user of the channel connects, are taken to return.
-/

namespace StructuredStreams.Channel

open ByteCodec

/-- The fields of a MESSAGE packet that decoding it uses. -/
structure MessagePacketHeader where
  shorttermPublicKey : Bytes
  nonce : Bytes
  box : Bytes
  deriving DecidableEq, Repr

/-- What the packet format and the sealing library provide.  The box is the
last field of a MESSAGE packet and takes the rest of it. -/
structure MessageLayer where
  minPacketSize : Nat
  /-- The constant front part of the nonce. -/
  messageNonce : Bytes
  read : Reader MessagePacketHeader
  read_rest :
    ∀ input msg rest, read input = .ok (msg, rest) → rest = []
  unbox :
    (shorttermPublicKey localKey nonce box : Bytes) → Except String Bytes

/-- What `receive_decode` makes of a packet. -/
inductive Decoding where
  | decoded (payload : Bytes)
  /-- An error was caught and the packet is refused. -/
  | refused
  | assertionFailed
  deriving DecidableEq, Repr

def receiveDecode
    (layer : MessageLayer) (localKey input : Bytes) : Decoding :=
  match layer.read input with
  | .error _ => .refused
  | .ok (msg, rest) =>
      if rest.length = 0 then
        match
          layer.unbox msg.shorttermPublicKey localKey
            (layer.messageNonce ++ msg.nonce) msg.box with
        | .error _ => .refused
        | .ok out => .decoded out
      else
        .assertionFailed

structure ReceiveState where
  active : Bool
  localKey : Bytes
  /-- The answer `may_transmit` gives. -/
  mayTransmit : Bool
  runtPackets : UInt64
  badAuthPackets : UInt64
  /-- The payloads passed to `deframe`, the latest last. -/
  deframed : List Bytes
  /-- How often `on_ready_transmit` was emitted. -/
  readyTransmits : Nat
  deriving DecidableEq, Repr

inductive ReceiveEnding where
  | returned
  | thrown (error : String)
  | assertionFailed
  deriving DecidableEq, Repr

namespace ReceiveState

def runtPacketReceived (state : ReceiveState) : ReceiveState :=
  { state with runtPackets := state.runtPackets + 1 }

def badAuthReceived (state : ReceiveState) : ReceiveState :=
  { state with badAuthPackets := state.badAuthPackets + 1 }

/-- The payload is passed to `deframe`. -/
def handToDeframe
    (state : ReceiveState) (payload : Bytes) : ReceiveState :=
  { state with deframed := state.deframed ++ [payload] }

/-- The upper layer is told that more can be sent, when it can. -/
def signalReady (state : ReceiveState) : ReceiveState :=
  if state.mayTransmit then
    { state with readyTransmits := state.readyTransmits + 1 }
  else
    state

/-- The call of `receive`, cut off after `fuel` passes of the deframing
loop. -/
def receive
    (state : ReceiveState) (layer : MessageLayer) (lib : Fusionary)
    (fuel : Nat) (pkt : Bytes) :
    Option (ReceiveEnding × ReceiveState) :=
  if state.active = false then
    some (.returned, state)
  else if pkt.length < layer.minPacketSize then
    some (.returned, state.runtPacketReceived)
  else
    match receiveDecode layer state.localKey pkt with
    | .assertionFailed => some (.assertionFailed, state)
    | .refused => some (.returned, state.badAuthReceived)
    | .decoded payload =>
        match deframe lib fuel payload with
        | none => none
        | some (.thrown error, _) =>
            some (.thrown error, state.handToDeframe payload)
        | some (.returned, _) =>
            some (.returned, (state.handToDeframe payload).signalReady)

end ReceiveState

/-- One of the two counters went up by one, or the payload was passed to
`deframe`, and nothing else of the three happened. -/
def OneEffect
    (before after : ReceiveState) (decoding : Decoding) : Prop :=
  (after.runtPackets = before.runtPackets + 1 ∧
      after.badAuthPackets = before.badAuthPackets ∧
      after.deframed = before.deframed) ∨
    (after.runtPackets = before.runtPackets ∧
      after.badAuthPackets = before.badAuthPackets + 1 ∧
      after.deframed = before.deframed) ∨
    ∃ payload,
      decoding = .decoded payload ∧
        after.runtPackets = before.runtPackets ∧
        after.badAuthPackets = before.badAuthPackets ∧
        after.deframed = before.deframed ++ [payload]

/-- The call returns with exactly one of the three effects, and no payload,
whatever frames it holds, changes the two counters. -/
def Contained
    (state : ReceiveState) (layer : MessageLayer) (lib : Fusionary)
    (pkt : Bytes) : Prop :=
  ∃ fuel next,
    state.receive layer lib fuel pkt = some (.returned, next) ∧
      OneEffect state next (receiveDecode layer state.localKey pkt) ∧
      ∀ payload,
        layer.minPacketSize ≤ pkt.length →
          receiveDecode layer state.localKey pkt = .decoded payload →
            next.runtPackets = state.runtPackets ∧
              next.badAuthPackets = state.badAuthPackets

/-- The packet is a runt, it is refused, or its payload is empty. -/
def Harmless
    (state : ReceiveState) (layer : MessageLayer) (pkt : Bytes) : Prop :=
  pkt.length < layer.minPacketSize ∨
    receiveDecode layer state.localKey pkt = .refused ∨
    receiveDecode layer state.localKey pkt = .decoded []

instance (state : ReceiveState) (layer : MessageLayer) (pkt : Bytes) :
    Decidable (Harmless state layer pkt) :=
  inferInstanceAs (Decidable (_ ∨ _ ∨ _))

private theorem receiveDecode_ne_assertionFailed
    (layer : MessageLayer) (localKey input : Bytes) :
    receiveDecode layer localKey input ≠ .assertionFailed := by
  unfold receiveDecode
  cases outcome : layer.read input with
  | error message =>
      simp
  | ok taken =>
      obtain ⟨msg, rest⟩ := taken
      have exhausted : rest = [] :=
        layer.read_rest input msg rest outcome
      simp only [exhausted, List.length_nil, if_true]
      cases layer.unbox msg.shorttermPublicKey localKey
          (layer.messageNonce ++ msg.nonce) msg.box with
      | error message =>
          simp
      | ok out =>
          simp

private theorem deframe_returned_iff
    (lib : Fusionary) (fuel : Nat) (payload : Bytes)
    (calls : List HandlerCall) :
    deframe lib fuel payload = some (.returned, calls) ↔
      0 < fuel ∧ payload = [] ∧ calls = [] := by
  cases fuel with
  | zero =>
      simp [deframe]
  | succ fuel =>
      cases payload with
      | nil =>
          simp [deframe, eq_comm]
      | cons frameType rest =>
          simp only [deframe]
          split_ifs with valid
          · cases outcome :
                FrameHeader.read lib (handlers ⟨frameType.toNat, valid⟩)
                  (frameType :: rest) with
            | error error =>
                simp [readHandler_eq_error outcome]
            | ok frame =>
                simp [readHandler_eq_ok outcome,
                  deframe_eq_none_of_read_ok valid outcome fuel]
          · simp

namespace ReceiveState

section Active

variable {state : ReceiveState} {layer : MessageLayer}
  {lib : Fusionary} {fuel : Nat} {pkt payload : Bytes}

private theorem receive_of_runt
    (active : state.active = true)
    (runt : pkt.length < layer.minPacketSize) :
    state.receive layer lib fuel pkt =
      some (.returned, state.runtPacketReceived) := by
  simp only [receive, active, Bool.true_eq_false, if_false, if_pos runt]

private theorem receive_of_refused
    (active : state.active = true)
    (long : ¬ pkt.length < layer.minPacketSize)
    (refused : receiveDecode layer state.localKey pkt = .refused) :
    state.receive layer lib fuel pkt =
      some (.returned, state.badAuthReceived) := by
  simp only [receive, active, Bool.true_eq_false, if_false, if_neg long,
    refused]

private theorem receive_of_decoded
    (active : state.active = true)
    (long : ¬ pkt.length < layer.minPacketSize)
    (decoded :
      receiveDecode layer state.localKey pkt = .decoded payload) :
    state.receive layer lib fuel pkt =
      match deframe lib fuel payload with
      | none => none
      | some (.thrown error, _) =>
          some (.thrown error, state.handToDeframe payload)
      | some (.returned, _) =>
          some (.returned, (state.handToDeframe payload).signalReady) := by
  simp only [receive, active, Bool.true_eq_false, if_false, if_neg long,
    decoded]

private theorem signalReady_counters (state : ReceiveState) :
    state.signalReady.runtPackets = state.runtPackets ∧
      state.signalReady.badAuthPackets = state.badAuthPackets ∧
      state.signalReady.deframed = state.deframed := by
  unfold signalReady
  split_ifs <;> exact ⟨rfl, rfl, rfl⟩

end Active

end ReceiveState

private theorem oneEffect_runt (state : ReceiveState) (decoding : Decoding) :
    OneEffect state state.runtPacketReceived decoding :=
  Or.inl ⟨rfl, rfl, rfl⟩

private theorem oneEffect_badAuth
    (state : ReceiveState) (decoding : Decoding) :
    OneEffect state state.badAuthReceived decoding :=
  Or.inr (Or.inl ⟨rfl, rfl, rfl⟩)

private theorem oneEffect_deframed (state : ReceiveState) (payload : Bytes) :
    OneEffect state (state.handToDeframe payload).signalReady
      (.decoded payload) := by
  obtain ⟨runt, badAuth, deframed⟩ :=
    (state.handToDeframe payload).signalReady_counters
  exact Or.inr (Or.inr ⟨payload, rfl, runt, badAuth, deframed⟩)

/-- A call on an active channel returns only for a harmless packet. -/
theorem harmless_of_returned
    {state next : ReceiveState} {layer : MessageLayer}
    {lib : Fusionary} {fuel : Nat} {pkt : Bytes}
    (active : state.active = true)
    (returned :
      state.receive layer lib fuel pkt = some (.returned, next)) :
    Harmless state layer pkt := by
  by_cases runt : pkt.length < layer.minPacketSize
  · exact Or.inl runt
  · cases decoding : receiveDecode layer state.localKey pkt with
    | assertionFailed =>
        exact
          absurd decoding
            (receiveDecode_ne_assertionFailed layer state.localKey pkt)
    | refused =>
        exact Or.inr (Or.inl decoding)
    | decoded payload =>
        rw [ReceiveState.receive_of_decoded active runt decoding]
          at returned
        split at returned
        · cases returned
        · cases returned
        · rename_i calls finished
          have empty :=
            ((deframe_returned_iff lib fuel payload calls).mp finished).2.1
          rw [empty] at decoding
          exact Or.inr (Or.inr decoding)

/-- The packet of an active channel is contained if and only if it is a
runt, it is refused, or its payload is empty. -/
theorem contained_iff_harmless
    (layer : MessageLayer) (lib : Fusionary)
    {state : ReceiveState} (pkt : Bytes)
    (active : state.active = true) :
    Contained state layer lib pkt ↔ Harmless state layer pkt := by
  constructor
  · rintro ⟨fuel, next, returned, _⟩
    exact harmless_of_returned active returned
  · intro harmless
    by_cases runt : pkt.length < layer.minPacketSize
    · refine
        ⟨0, _, ReceiveState.receive_of_runt active runt,
          oneEffect_runt state _, ?_⟩
      intro payload long
      exact absurd runt (Nat.not_lt.mpr long)
    · rcases harmless with short | refused | empty
      · exact absurd short runt
      · refine
          ⟨0, _, ReceiveState.receive_of_refused active runt refused,
            oneEffect_badAuth state _, ?_⟩
        intro payload _ decoded
        rw [refused] at decoded
        cases decoded
      · have returned :
            state.receive layer lib 1 pkt =
              some (.returned, (state.handToDeframe []).signalReady) :=
          ReceiveState.receive_of_decoded active runt empty
        obtain ⟨sameRunt, sameBadAuth, _⟩ :=
          (state.handToDeframe []).signalReady_counters
        refine
          ⟨1, _, returned, ?_, fun _ _ _ => ⟨sameRunt, sameBadAuth⟩⟩
        rw [empty]
        exact oneEffect_deframed state []

/-- A payload that starts with no frame type, or with a frame that cannot be
read, makes the call throw. -/
theorem receive_throws
    {state : ReceiveState} {layer : MessageLayer} {lib : Fusionary}
    {pkt payload : Bytes}
    (active : state.active = true)
    (long : ¬ pkt.length < layer.minPacketSize)
    (decoded :
      receiveDecode layer state.localKey pkt = .decoded payload)
    (nonempty : payload ≠ [])
    (left : LeftInFirstPass lib payload) :
    ∃ error,
      state.receive layer lib 1 pkt =
        some (.thrown error, state.handToDeframe payload) := by
  rw [ReceiveState.receive_of_decoded active long decoded]
  cases left with
  | exhausted =>
      exact absurd rfl nonempty
  | invalidType frameType rest invalid =>
      refine ⟨"Invalid frame type", ?_⟩
      simp only [deframe, dif_neg (Nat.not_lt.mpr invalid)]
  | readThrows frameType rest error valid failed =>
      refine ⟨error, ?_⟩
      simp only [deframe, dif_pos valid, readHandler_eq_error failed]

/-- The MESSAGE packet of the protocol: eight bytes of magic, the short-term
public key, the short nonce and the box. -/
def readMessagePacket : Reader MessagePacketHeader := do
  let _magic ← (rawBytes 8).read
  let shorttermPublicKey ← (rawBytes 32).read
  let nonce ← (rawBytes 8).read
  let box ← readRest
  return {
    shorttermPublicKey := shorttermPublicKey.toList
    nonce := nonce.toList
    box }

private theorem readMessagePacket_rest
    (input : Bytes) (msg : MessagePacketHeader) (rest : Bytes)
    (consumed : readMessagePacket input = .ok (msg, rest)) :
    rest = [] := by
  obtain ⟨_, _, _, afterMagic⟩ := of_bind_apply_ok consumed
  obtain ⟨_, _, _, afterKey⟩ := of_bind_apply_ok afterMagic
  obtain ⟨_, left, _, afterNonce⟩ := of_bind_apply_ok afterKey
  rw [readRest_bind, pure_apply] at afterNonce
  injection afterNonce with same
  exact (congrArg Prod.snd same).symm

/-- A message layer whose boxes carry sixteen zero bytes of authenticator
before the message. -/
def MessageLayer.zeroAuthenticator : MessageLayer where
  minPacketSize := 64
  messageNonce := []
  read := readMessagePacket
  read_rest := readMessagePacket_rest
  unbox _ _ _ box :=
    if List.replicate 16 0 <+: box then .ok (box.drop 16)
    else .error "box does not open"

/-- A new channel that is active. -/
def ReceiveState.started : ReceiveState where
  active := true
  localKey := []
  mayTransmit := true
  runtPackets := 0
  badAuthPackets := 0
  deframed := []
  readyTransmits := 0

/-- A packet whose message is the single byte 10, which is no frame type. -/
def invalidFramePacket : Bytes :=
  List.replicate 64 0 ++ [10]

theorem invalid_frame_not_contained :
    ¬ Contained ReceiveState.started .zeroAuthenticator .networkOrder
      invalidFramePacket := by
  rintro ⟨fuel, next, returned, _⟩
  have harmless := harmless_of_returned rfl returned
  revert harmless
  decide

/-- A packet of ten bytes is a runt, one whose box does not open is refused,
and one with an empty message reaches `deframe`. -/
theorem contained_harmless :
    ReceiveState.started.active = true ∧
      Contained ReceiveState.started .zeroAuthenticator .networkOrder
        (List.replicate 10 0) ∧
      Contained ReceiveState.started .zeroAuthenticator .networkOrder
        (List.replicate 64 1) ∧
      Contained ReceiveState.started .zeroAuthenticator .networkOrder
        (List.replicate 64 0) := by
  refine ⟨rfl, ?_, ?_, ?_⟩
  · exact
      (contained_iff_harmless .zeroAuthenticator .networkOrder _ rfl).mpr
        (Or.inl (by decide))
  · exact
      (contained_iff_harmless .zeroAuthenticator .networkOrder _ rfl).mpr
        (Or.inr (Or.inl (by decide)))
  · exact
      (contained_iff_harmless .zeroAuthenticator .networkOrder _ rfl).mpr
        (Or.inr (Or.inr (by decide)))

end StructuredStreams.Channel

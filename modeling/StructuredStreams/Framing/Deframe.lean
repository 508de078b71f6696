import StructuredStreams.Framing.SelfDelimiting

/-!
# The deframing loop

`deframe` picks a read handler by the first byte of the buffer and passes it
the buffer by value.  The handler reads its frame from its own copy, so the
loop looks at the same buffer again: it ends only where it does not get
through its first pass.
-/

namespace StructuredStreams

open ByteCodec

/-- How a call of `deframe` ends. -/
inductive DeframeEnding where
  | returned
  | thrown (error : String)
  deriving DecidableEq, Repr

/-- One invocation of a read handler. -/
structure HandlerCall where
  handler : FrameType
  buffer : Bytes
  deriving DecidableEq, Repr

/-- The read handler table. -/
def handlers (index : Fin maxFrameCount) : FrameType :=
  [.empty, .stream, .ack, .padding, .decongestion, .detach, .reset,
    .close, .settings, .priority].get index

/-- Read one frame from a copy of the buffer and dispatch it.  The dispatch
functions have empty bodies, and the advanced copy is dropped. -/
def readHandler
    (lib : Fusionary) (handler : FrameType) (input : Bytes) :
    Except String Unit := do
  let (_frame, _input) ← FrameHeader.read lib handler input
  return ()

/-- The loop of `deframe`, cut off after `fuel` passes, with the handler
invocations it made. -/
def deframe (lib : Fusionary) :
    (fuel : Nat) → Bytes → Option (DeframeEnding × List HandlerCall)
  | 0, _ => none
  | _ + 1, [] => some (.returned, [])
  | fuel + 1, frameType :: rest =>
      if valid : frameType.toNat < maxFrameCount then
        let handler := handlers ⟨frameType.toNat, valid⟩
        match readHandler lib handler (frameType :: rest) with
        | .error error =>
            some (.thrown error, [⟨handler, frameType :: rest⟩])
        | .ok () =>
            (deframe lib fuel (frameType :: rest)).map
              fun (ending, calls) =>
                (ending, ⟨handler, frameType :: rest⟩ :: calls)
      else
        some (.thrown "Invalid frame type", [])

/-- The call returns or throws after finitely many passes. -/
def DeframeTerminates (lib : Fusionary) (input : Bytes) : Prop :=
  ∃ fuel, (deframe lib fuel input).isSome

/-- The encodings of a sequence of frames, one after the other. -/
def encodeFrames (lib : Fusionary) (frames : List FrameHeader) : Bytes :=
  frames.flatMap (FrameHeader.write lib)

/-- One handler invocation for each frame, on the buffer that starts there. -/
def frameDeliveries (lib : Fusionary) :
    List FrameHeader → List HandlerCall
  | [] => []
  | frame :: frames =>
      ⟨frame.type, encodeFrames lib (frame :: frames)⟩ ::
        frameDeliveries lib frames

/-- Every frame of the sequence is delivered once and in order, and the call
then returns. -/
def DeframeDelivers
    (lib : Fusionary) (frames : List FrameHeader) : Prop :=
  ∃ fuel,
    deframe lib fuel (encodeFrames lib frames) =
      some (.returned, frameDeliveries lib frames)

/-- The loop is left within its first pass: the buffer is empty, its first
byte is no frame type, or reading a frame of that type throws. -/
inductive LeftInFirstPass (lib : Fusionary) : Bytes → Prop
  | exhausted : LeftInFirstPass lib []
  | invalidType (frameType : UInt8) (rest : Bytes) :
      maxFrameCount ≤ frameType.toNat →
      LeftInFirstPass lib (frameType :: rest)
  | readThrows
      (frameType : UInt8) (rest : Bytes) (error : String)
      (valid : frameType.toNat < maxFrameCount) :
      FrameHeader.read lib (handlers ⟨frameType.toNat, valid⟩)
          (frameType :: rest) =
        .error error →
      LeftInFirstPass lib (frameType :: rest)

theorem readHandler_eq_ok
    {lib : Fusionary} {handler : FrameType} {input : Bytes}
    {frame : FrameHeader × Bytes}
    (consumed : FrameHeader.read lib handler input = .ok frame) :
    readHandler lib handler input = .ok () := by
  rw [readHandler, consumed]
  rfl

theorem readHandler_eq_error
    {lib : Fusionary} {handler : FrameType} {input : Bytes}
    {error : String}
    (failed : FrameHeader.read lib handler input = .error error) :
    readHandler lib handler input = .error error := by
  rw [readHandler, failed]
  rfl

theorem deframe_eq_none_of_read_ok
    {lib : Fusionary} {frameType : UInt8} {rest : Bytes}
    {frame : FrameHeader × Bytes}
    (valid : frameType.toNat < maxFrameCount)
    (consumed :
      FrameHeader.read lib (handlers ⟨frameType.toNat, valid⟩)
          (frameType :: rest) =
        .ok frame)
    (fuel : Nat) :
    deframe lib fuel (frameType :: rest) = none := by
  induction fuel with
  | zero =>
      rfl
  | succ fuel inductionHypothesis =>
      simp only [deframe, dif_pos valid, readHandler_eq_ok consumed,
        inductionHypothesis, Option.map_none]

private theorem deframeTerminates_iff (lib : Fusionary) (input : Bytes) :
    DeframeTerminates lib input ↔ LeftInFirstPass lib input := by
  constructor
  · intro found
    rcases found with ⟨fuel, ended⟩
    cases input with
    | nil =>
        exact LeftInFirstPass.exhausted
    | cons frameType rest =>
        by_cases valid : frameType.toNat < maxFrameCount
        · cases outcome :
              FrameHeader.read lib (handlers ⟨frameType.toNat, valid⟩)
                (frameType :: rest) with
          | error error =>
              exact
                LeftInFirstPass.readThrows
                  frameType rest error valid outcome
          | ok frame =>
              rw [deframe_eq_none_of_read_ok valid outcome fuel] at ended
              simp at ended
        · exact
            LeftInFirstPass.invalidType frameType rest (by omega)
  · intro left
    refine ⟨1, ?_⟩
    cases left with
    | exhausted =>
        rfl
    | invalidType frameType rest invalid =>
        simp [deframe, Nat.not_lt.mpr invalid]
    | readThrows frameType rest error valid failed =>
        simp [deframe, valid, readHandler_eq_error failed]

private theorem FrameHeader.write_eq_cons
    (lib : Fusionary) (frame : FrameHeader) :
    ∃ body, frame.write lib = frame.type.toUnderlying :: body := by
  cases frame <;> exact ⟨_, rfl⟩

private theorem toUnderlying_lt (frameType : FrameType) :
    frameType.toUnderlying.toNat < maxFrameCount := by
  cases frameType <;> decide

private theorem handlers_toUnderlying (frameType : FrameType) :
    handlers ⟨frameType.toUnderlying.toNat, toUnderlying_lt frameType⟩ =
      frameType := by
  cases frameType <;> rfl

private theorem deframe_encodeFrames_cons
    (lib : Fusionary) (frame : FrameHeader)
    (frames : List FrameHeader) (fuel : Nat) :
    deframe lib fuel (encodeFrames lib (frame :: frames)) = none := by
  obtain ⟨body, shape⟩ := frame.write_eq_cons lib
  have consumed :=
    frame.read_write lib (encodeFrames lib frames)
  have buffer :
      encodeFrames lib (frame :: frames) =
        frame.type.toUnderlying :: (body ++ encodeFrames lib frames) := by
    simp [encodeFrames, shape]
  rw [shape, List.cons_append] at consumed
  rw [buffer]
  apply deframe_eq_none_of_read_ok (toUnderlying_lt frame.type)
  rw [handlers_toUnderlying]
  exact consumed

/-- `deframe` delivers a sequence of frames only when there is none, and it
terminates exactly on the buffers that it leaves within the first pass. -/
theorem deframe_delivers_and_terminates_iff (lib : Fusionary) :
    (∀ frames, DeframeDelivers lib frames ↔ frames = []) ∧
      ∀ input,
        DeframeTerminates lib input ↔ LeftInFirstPass lib input := by
  refine ⟨?_, deframeTerminates_iff lib⟩
  intro frames
  constructor
  · intro found
    rcases found with ⟨fuel, delivered⟩
    cases frames with
    | nil =>
        rfl
    | cons frame frames =>
        rw [deframe_encodeFrames_cons lib frame frames fuel] at delivered
        cases delivered
  · rintro rfl
    exact ⟨1, rfl⟩

/-- A packet of one EMPTY frame keeps the loop busy forever. -/
theorem deframe_empty_frame_diverges :
    ¬ DeframeDelivers .networkOrder [.empty {}] ∧
      ¬ DeframeTerminates .networkOrder [0] := by
  constructor
  · intro found
    rcases found with ⟨fuel, delivered⟩
    rw [deframe_encodeFrames_cons] at delivered
    cases delivered
  · intro found
    rcases found with ⟨fuel, ended⟩
    have stuck :=
      deframe_encodeFrames_cons .networkOrder (.empty {}) [] fuel
    have buffer : encodeFrames .networkOrder [.empty {}] = [0] := rfl
    rw [buffer] at stuck
    rw [stuck] at ended
    cases ended

end StructuredStreams

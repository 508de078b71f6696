import StructuredStreams.Foundation.MachineInt
import StructuredStreams.Stream.Steps

/-!
# Receive windows and transmit windows

The receiver advertises its free buffer space as an exponent, which it finds
by shifting a 32-bit integer until the shifted value passes the space.  The
sender turns the exponent back into a number of bytes.  What the sender gets
is at most the space of the receiver and at least half of it.
-/

namespace StructuredStreams.Stream

open World

def minReceiveBufferSize (mtu : Nat) : Nat :=
  mtu * 2

/-- What the receive window depends on, and the exponent advertised. -/
structure ReceiveBuffer where
  receiveBufSize : Int
  rxBufferUsed : Int
  rxAvailable : Int
  receiveWindowByte : UInt8
  deriving DecidableEq, Repr

namespace ReceiveBuffer

/-- The local `rwin`: the free space, raised when all that is buffered is out
of order. -/
def receiveWindow (mtu : Nat) (buffer : ReceiveBuffer) : Nat :=
  let rwin :=
    toSize (max 0 (wrapInt (buffer.receiveBufSize - buffer.rxBufferUsed)))
  if buffer.rxAvailable = 0 ∧ 0 < buffer.rxBufferUsed then
    max rwin (minReceiveBufferSize mtu)
  else
    rwin

/-- The bound `(2 << i) - 1` of the loop, as a `size_t`. -/
def windowBound (exponent : Nat) : Nat :=
  toSize (wrapInt (wrapInt (2 * 2 ^ exponent) - 1))

/-- The loop that looks for the exponent, cut off after `fuel` passes. -/
def exponentLoop (rwin : Nat) : (fuel exponent : Nat) → Option Nat
  | 0, _ => none
  | fuel + 1, exponent =>
      if windowBound exponent ≤ rwin then
        exponentLoop rwin fuel (exponent + 1)
      else
        some exponent

/-- The whole function, with the loop cut off after `fuel` passes; it has no
result when its assertion fails. -/
def recalculateReceiveWindow
    (mtu fuel : Nat) (buffer : ReceiveBuffer) : Option ReceiveBuffer := do
  guard (0 < buffer.receiveBufSize)
  let exponent ← exponentLoop (buffer.receiveWindow mtu) fuel 0
  return { buffer with receiveWindowByte := UInt8.ofNat exponent }

end ReceiveBuffer

/-- The transmit window that a window byte stands for. -/
def transmitWindow (windowByte : UInt8) : Int :=
  2 ^ ((if 158 < windowByte then 158 else windowByte) &&& 0x1f).toNat - 1

private theorem recalculateTransmitWindow_eq
    (env : Env) (world : World) (stream : StreamPtr)
    (windowByte : UInt8) :
    recalculateTransmitWindow env world stream windowByte =
      let resized :=
        world.modifyStream stream fun entry =>
          { entry with txWindow := transmitWindow windowByte }
      if (world.streams stream).txWindow < transmitWindow windowByte then
        resized.txEnqueueChannelNow env stream
      else
        some resized :=
  rfl

private theorem recalculateTransmitWindow_txWindow
    {env : Env} {world next : World} {stream : StreamPtr}
    {windowByte : UInt8}
    (returned :
      recalculateTransmitWindow env world stream windowByte =
        some next) :
    (next.streams stream).txWindow = transmitWindow windowByte := by
  rw [recalculateTransmitWindow_eq] at returned
  have resized :
      ((world.modifyStream stream fun entry =>
          { entry with txWindow := transmitWindow windowByte }).streams
        stream).txWindow = transmitWindow windowByte := by
    rw [modifyStream_streams_self]
  dsimp only at returned
  split at returned
  · have kept :
        (next.streams stream).txWindow =
          ((world.modifyStream stream fun entry =>
              { entry with txWindow := transmitWindow windowByte }).streams
            stream).txWindow :=
      (txEnqueueChannelNow_steps returned).stream_field
        (fun _ _ => rfl) (fun _ _ => rfl) (fun _ _ => rfl)
        (fun _ _ => rfl) stream
    rw [kept, resized]
  · cases returned
    exact resized

private theorem transmitWindow_ofNat :
    ∀ exponent, exponent < 32 →
      transmitWindow (UInt8.ofNat exponent) = 2 ^ exponent - 1 := by
  decide

namespace ReceiveBuffer

private theorem windowBound_eq :
    ∀ exponent, exponent < 31 →
      windowBound exponent = 2 ^ (exponent + 1) - 1 := by
  decide

/-- At the exponent 31 the shifted integer is zero, and the bound is the
largest `size_t`. -/
theorem windowBound_last : windowBound 31 = 2 ^ 64 - 1 := by
  decide

/-- The loop stops at the exponent whose window fits into the space, and
twice whose window covers it. -/
theorem exponentLoop_spec
    {rwin : Nat} (small : rwin ≤ 2 ^ 32 - 2)
    (fuel exponent : Nat) (enough : 32 ≤ exponent + fuel)
    (inRange : exponent < 32) (fits : 2 ^ exponent - 1 ≤ rwin) :
    ∃ found,
      exponentLoop rwin fuel exponent = some found ∧ found < 32 ∧
        2 ^ found - 1 ≤ rwin ∧ rwin ≤ 2 * (2 ^ found - 1) := by
  induction fuel generalizing exponent with
  | zero =>
      omega
  | succ fuel inductionHypothesis =>
      rw [exponentLoop]
      by_cases last : exponent = 31
      · have passed : ¬ windowBound exponent ≤ rwin := by
          rw [last, windowBound_last]
          omega
        rw [if_neg passed]
        refine ⟨exponent, rfl, inRange, fits, ?_⟩
        rw [last]
        omega
      · have below : exponent < 31 := by
          omega
        have bound := windowBound_eq exponent below
        have doubled : 2 ^ (exponent + 1) = 2 * 2 ^ exponent := by
          rw [Nat.pow_succ]
          omega
        split
        · rename_i further
          apply inductionHypothesis (exponent + 1) (by omega) (by omega)
          rw [← bound]
          exact further
        · rename_i passed
          rw [bound, doubled] at passed
          have positive : 0 < 2 ^ exponent :=
            Nat.two_pow_pos exponent
          refine ⟨exponent, rfl, inRange, fits, ?_⟩
          omega

theorem receiveWindow_le
    {mtu : Nat} (buffer : ReceiveBuffer) (mtuFits : mtu < 2 ^ 31) :
    buffer.receiveWindow mtu ≤ 2 ^ 32 - 2 := by
  have free :
      toSize
          (max 0
            (wrapInt (buffer.receiveBufSize - buffer.rxBufferUsed))) ≤
        2 ^ 31 - 1 := by
    have upper :=
      wrapInt_lt (buffer.receiveBufSize - buffer.rxBufferUsed)
    unfold toSize
    omega
  unfold receiveWindow minReceiveBufferSize
  dsimp only
  split
  · exact max_le (by omega) (by omega)
  · omega

/-- Without overflow the receive window is the free space, raised to the
smallest buffer size when only out-of-order data is buffered. -/
theorem receiveWindow_eq
    (mtu : Nat) {buffer : ReceiveBuffer}
    (sizePositive : 1 ≤ buffer.receiveBufSize)
    (sizeFits : buffer.receiveBufSize ≤ 2 ^ 31 - 1)
    (used : 0 ≤ buffer.rxBufferUsed)
    (usedFits : buffer.rxBufferUsed ≤ 2 ^ 31 - 1) :
    (buffer.receiveWindow mtu : Int) =
      max (max 0 (buffer.receiveBufSize - buffer.rxBufferUsed))
        (if buffer.rxAvailable = 0 ∧ 0 < buffer.rxBufferUsed then
          (minReceiveBufferSize mtu : Int)
        else 0) := by
  have free :
      (toSize
          (max 0
            (wrapInt (buffer.receiveBufSize - buffer.rxBufferUsed))) :
        Int) =
        max 0 (buffer.receiveBufSize - buffer.rxBufferUsed) := by
    rw [wrapInt_eq_self (by omega) (by omega)]
    exact toSize_eq_self (by omega) (by omega)
  unfold receiveWindow
  dsimp only
  split <;> omega

end ReceiveBuffer

/-- For every size of the receive buffer and every amount buffered, the
receiver finds an exponent, and the transmit window the sender makes of it
is at most the receive window and at least half of it. -/
theorem advertised_window_conservative_and_tight
    (env : Env) (mtuFits : env.mtu < 2 ^ 31)
    (buffer : ReceiveBuffer)
    (sizePositive : 1 ≤ buffer.receiveBufSize)
    (sizeFits : buffer.receiveBufSize ≤ 2 ^ 31 - 1)
    (used : 0 ≤ buffer.rxBufferUsed)
    (usedFits : buffer.rxBufferUsed ≤ 2 ^ 31 - 1) :
    (buffer.receiveWindow env.mtu : Int) =
        max (max 0 (buffer.receiveBufSize - buffer.rxBufferUsed))
          (if buffer.rxAvailable = 0 ∧ 0 < buffer.rxBufferUsed then
            (minReceiveBufferSize env.mtu : Int)
          else 0) ∧
      ∃ fuel after,
        buffer.recalculateReceiveWindow env.mtu fuel = some after ∧
          transmitWindow after.receiveWindowByte ≤
            buffer.receiveWindow env.mtu ∧
          (buffer.receiveWindow env.mtu : Int) ≤
            2 * transmitWindow after.receiveWindowByte ∧
          ∀ world peer next,
            recalculateTransmitWindow env world peer
                after.receiveWindowByte = some next →
              (next.streams peer).txWindow =
                transmitWindow after.receiveWindowByte := by
  have small := buffer.receiveWindow_le mtuFits
  obtain ⟨exponent, found, inRange, fits, covers⟩ :=
    ReceiveBuffer.exponentLoop_spec small 32 0 (by omega) (by omega)
      (by omega)
  have window := transmitWindow_ofNat exponent inRange
  have positive : 0 < 2 ^ exponent := Nat.two_pow_pos exponent
  have cast : ((2 ^ exponent : Nat) : Int) = 2 ^ exponent :=
    Nat.cast_pow 2 exponent
  refine
    ⟨ReceiveBuffer.receiveWindow_eq env.mtu sizePositive sizeFits used
        usedFits,
      32, { buffer with receiveWindowByte := UInt8.ofNat exponent },
      ?_, ?_, ?_, ?_⟩
  · unfold ReceiveBuffer.recalculateReceiveWindow
    rw [guard_bind_eq_some_iff]
    refine ⟨by omega, ?_⟩
    rw [found]
    rfl
  · rw [window, ← cast]
    omega
  · rw [window, ← cast]
    omega
  · intro world peer next returned
    exact recalculateTransmitWindow_txWindow returned

/-- An empty buffer at the top of the range of `int` is advertised with the
exponent 31, and the whole of it comes back as the transmit window. -/
theorem advertised_window_at_the_top :
    ∃ fuel after,
      (⟨2 ^ 31 - 1, 0, 0, 0⟩ : ReceiveBuffer).recalculateReceiveWindow
          1 fuel = some after ∧
        transmitWindow after.receiveWindowByte ≤
          (⟨2 ^ 31 - 1, 0, 0, 0⟩ : ReceiveBuffer).receiveWindow 1 := by
  obtain ⟨_, fuel, after, found, fits, _⟩ :=
    advertised_window_conservative_and_tight (Env.constant true)
      (by decide) ⟨2 ^ 31 - 1, 0, 0, 0⟩ (by decide) (by decide)
      (by decide) (by decide)
  exact ⟨fuel, after, found, fits⟩

end StructuredStreams.Stream

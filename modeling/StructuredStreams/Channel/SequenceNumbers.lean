import StructuredStreams.Foundation.Extrapolation
import StructuredStreams.Foundation.MachineInt

/-!
# Packet sequence numbers

A packet carries the low 24 bits of its sequence number, and the channel
derives the rest from the highest number received so far.  A number less than
`2 ^ 23` away from that one is derived exactly.  The guard against
wrap-around only looks upwards: on a channel that received little yet, a
number that lies before the first one wraps to the end of the sequence space.
-/

namespace StructuredStreams.Channel

/-- The local `seqdiff` of `derive_packet_seq`. -/
def seqdiff (rxSequence txSeq : UInt64) : Int :=
  wrapInt
      (wrapInt (txSeq <<< 8).toNat -
        wrapInt (wrapInt rxSequence.toNat * 2 ^ 8)) >>>
    (8 : Nat)

/-- `derive_packet_seq` on a channel with the given `rx_sequence_`. -/
def derivePacketSeq (rxSequence txSeq : UInt64) : UInt64 :=
  let pktseq := rxSequence + UInt64.ofInt (seqdiff rxSequence txSeq)
  if 0 < seqdiff rxSequence txSeq then
    if pktseq < rxSequence then 0 else pktseq
  else
    pktseq

/-- The shifts cut the difference to 24 bits with a sign. -/
theorem seqdiff_eq (rxSequence txSeq : UInt64) :
    seqdiff rxSequence txSeq =
      ((txSeq.toNat : Int) - rxSequence.toNat).bmod (2 ^ 24) := by
  have shifted :
      wrapInt (txSeq <<< 8).toNat =
        (2 ^ 8 * (txSeq.toNat : Int)).bmod (2 ^ 32) := by
    have digits :
        ((txSeq <<< 8).toNat : Int) % (2 ^ 32 : Nat) =
          2 ^ 8 * (txSeq.toNat : Int) % (2 ^ 32 : Nat) := by
      have places : (8 : UInt64).toNat % 64 = 8 := by
        decide
      rw [UInt64.toNat_shiftLeft, Nat.shiftLeft_eq, places]
      omega
    rw [wrapInt, ← Int.emod_bmod, digits, Int.emod_bmod]
  have difference :
      wrapInt
          (wrapInt (txSeq <<< 8).toNat -
            wrapInt (wrapInt rxSequence.toNat * 2 ^ 8)) =
        (2 ^ 8 * ((txSeq.toNat : Int) - rxSequence.toNat)).bmod
          (2 ^ 32) := by
    have factored :
        2 ^ 8 * (txSeq.toNat : Int) - rxSequence.toNat * 2 ^ 8 =
          2 ^ 8 * ((txSeq.toNat : Int) - rxSequence.toNat) := by
      omega
    rw [shifted]
    simp only [wrapInt, Int.bmod_sub_bmod, Int.sub_bmod_bmod,
      Int.bmod_mul_bmod, factored]
  have scaled :=
    Int.mod_bmod_mul_of_pos ((txSeq.toNat : Int) - rxSequence.toNat)
      (2 ^ 24) (show 0 < 2 ^ 8 by decide) (by decide)
  have modulus : 2 ^ 8 * 2 ^ 24 = 2 ^ 32 := by
    decide
  rw [modulus] at scaled
  rw [seqdiff, difference, Int.shiftRight_eq_div_pow]
  push_cast at scaled ⊢
  rw [scaled]
  omega

/-- What is derived is the number nearest to the highest one received, as a
64-bit number, except that nothing is derived beyond the end. -/
theorem derivePacketSeq_toNat (rxSequence txSeq : UInt64) :
    ((derivePacketSeq rxSequence txSeq).toNat : Int) =
      if nearest (2 ^ 24) rxSequence.toNat txSeq.toNat < 2 ^ 64 then
        nearest (2 ^ 24) rxSequence.toNat txSeq.toNat % 2 ^ 64
      else 0 := by
  have bound := rxSequence.toNat_lt
  have lower : -2 ^ 23 ≤ seqdiff rxSequence txSeq := by
    rw [seqdiff_eq, Int.bmod_def]
    push_cast
    omega
  have upper : seqdiff rxSequence txSeq < 2 ^ 23 := by
    rw [seqdiff_eq, Int.bmod_def]
    push_cast
    omega
  rw [nearest, ← seqdiff_eq, derivePacketSeq]
  generalize seqdiff rxSequence txSeq = difference at lower upper ⊢
  have sum :
      (rxSequence + UInt64.ofInt difference).toNat =
        ((rxSequence.toNat + difference) % 2 ^ 64).toNat := by
    rw [UInt64.toNat_add, toNat_ofInt, toSize]
    omega
  by_cases ahead : 0 < difference
  · rw [if_pos ahead]
    by_cases beyond : 2 ^ 64 ≤ rxSequence.toNat + difference
    · have wrapped : rxSequence + UInt64.ofInt difference < rxSequence := by
        rw [UInt64.lt_iff_toNat_lt, sum]
        omega
      rw [if_pos wrapped, if_neg (by omega), UInt64.toNat_zero,
        Int.natCast_zero]
    · have notWrapped :
          ¬ rxSequence + UInt64.ofInt difference < rxSequence := by
        rw [UInt64.lt_iff_toNat_lt, sum]
        omega
      rw [if_neg notWrapped, if_pos (by omega), sum]
      omega
  · rw [if_neg ahead, if_pos (by omega), sum]
    omega

/-- A number less than half the 24-bit range away from the highest one
received is derived from its low 24 bits. -/
theorem derivePacketSeq_exact
    {rxSequence txSeq number : UInt64}
    (lower : -2 ^ 23 ≤ (number.toNat : Int) - rxSequence.toNat)
    (upper : (number.toNat : Int) - rxSequence.toNat < 2 ^ 23)
    (lowBits : txSeq.toNat % 2 ^ 24 = number.toNat % 2 ^ 24) :
    derivePacketSeq rxSequence txSeq = number := by
  have bound := number.toNat_lt
  have found :
      nearest (2 ^ 24) rxSequence.toNat txSeq.toNat = number.toNat := by
    apply nearest_eq
    · push_cast
      omega
    · push_cast
      omega
    · push_cast
      omega
  have derived := derivePacketSeq_toNat rxSequence txSeq
  rw [found, if_pos (by omega)] at derived
  apply UInt64.toNat_inj.mp
  omega

/-- The number after `2 ^ 24 - 1` arrives as the low bits of `2 ^ 24`. -/
theorem derivePacketSeq_across_carry :
    derivePacketSeq 0xffffff 0 = 0x1000000 :=
  derivePacketSeq_exact (by decide) (by decide) (by decide)

/-- What is derived is the rejection 0, or a number with the low bits that
were received at most `2 ^ 23` away from the highest one. -/
def MapsNearby (rxSequence txSeq : UInt64) : Prop :=
  derivePacketSeq rxSequence txSeq = 0 ∨
    (derivePacketSeq rxSequence txSeq).toNat % 2 ^ 24 =
        txSeq.toNat % 2 ^ 24 ∧
      (derivePacketSeq rxSequence txSeq).toNat ≤
        rxSequence.toNat + 2 ^ 23 ∧
      rxSequence.toNat ≤
        (derivePacketSeq rxSequence txSeq).toNat + 2 ^ 23

instance (rxSequence txSeq : UInt64) :
    Decidable (MapsNearby rxSequence txSeq) :=
  inferInstanceAs (Decidable (_ ∨ _))

/-- Nothing is mapped to the far future exactly where the low bits do not
stand for a number before the first one. -/
theorem mapsNearby_iff_reachesNoNegative (rxSequence txSeq : UInt64) :
    MapsNearby rxSequence txSeq ↔
      ReachesNoNegative (2 ^ 24) rxSequence.toNat txSeq.toNat := by
  have bound := rxSequence.toNat_lt
  have positive : 0 < 2 ^ 24 := by
    decide
  have lower := nearest_lower positive rxSequence.toNat txSeq.toNat
  have upper := nearest_lt positive rxSequence.toNat txSeq.toNat
  have lowBits := nearest_emod (2 ^ 24) rxSequence.toNat txSeq.toNat
  have derived := derivePacketSeq_toNat rxSequence txSeq
  rw [← nearest_nonneg_iff (by decide) (by omega), MapsNearby,
    ← UInt64.toNat_inj, UInt64.toNat_zero]
  generalize nearest (2 ^ 24) rxSequence.toNat txSeq.toNat = number
    at lower upper lowBits derived ⊢
  generalize (derivePacketSeq rxSequence txSeq).toNat = pktseq
    at derived ⊢
  push_cast at lower upper lowBits
  constructor
  · rintro (rejected | ⟨_, _, near⟩)
    · by_contra negative
      rw [rejected, if_pos (by omega)] at derived
      omega
    · by_contra negative
      rw [if_pos (by omega)] at derived
      omega
  · intro nonneg
    by_cases beyond : number < 2 ^ 64
    · rw [if_pos beyond] at derived
      right
      omega
    · rw [if_neg beyond] at derived
      left
      omega

/-- On a new channel, the low bits of the number before the first one are
taken for the last number of all. -/
theorem derivePacketSeq_maps_to_far_future :
    derivePacketSeq 0 0xffffff = 0xffffffffffffffff ∧
      ¬ MapsNearby 0 0xffffff := by
  decide

end StructuredStreams.Channel

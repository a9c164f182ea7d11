import BoundedWait.Duration.Seconds

/-!
# Which numbers of seconds are durations

A double is the number of seconds of a duration if it is finite, not below zero
and below 2^64 (`Duration.ofFloatSeconds?_eq_none_iff`).  No double stands
between the longest duration and 2^64 seconds, so rounding to nanoseconds never
leads from one side of the limit to the other.
-/

namespace BoundedWait
namespace Decimal

/-- Rounding a quotient does not lead beyond its numerator. -/
theorem roundHalfEven_le
    (n : Nat) {d : Nat}
    (hd : 0 < d) :
    roundHalfEven n d ≤ n := by
  have hnear := (roundHalfEven_near n d hd).1
  have hmul := Nat.le_mul_of_pos_right n hd
  have htwice : 2 * roundHalfEven n d * d ≤ (2 * n + 1) * d := by
    rw [Nat.mul_assoc, Nat.add_mul, Nat.mul_assoc]
    omega
  have hle := Nat.le_of_mul_le_mul_right htwice hd
  omega

theorem roundHalfEven_one
    (n : Nat) :
    roundHalfEven n 1 = n := by
  have hnear := roundHalfEven_near n 1 Nat.one_pos
  omega

namespace Binary

open Float.Model (UnpackedFloat)

variable {x : Float} {b : Binary}

/-- The doubles that are not finite have the greatest exponent field. -/
theorem isFinite_eq_false_iff :
    x.isFinite = false ↔ (x.toBits.toNat >>> 52) % 2048 = 2047 := by
  have hfield : @UnpackedFloat.unpackExponent .binary64 x.toBits.toBitVec = -1#_ ↔
      (x.toBits.toNat >>> 52) % 2048 = 2047 := by
    rw [← BitVec.toNat_inj]
    rfl
  rw [← hfield]
  by_cases hfull : @UnpackedFloat.unpackExponent .binary64 x.toBits.toBitVec = -1#_
  · refine iff_of_true ((congrArg UnpackedFloat.isFinite (if_pos hfull)).trans ?_) hfull
    split <;> rfl
  · have hnumber : x.isFinite = true := by
      refine (congrArg UnpackedFloat.isFinite (if_neg hfull)).trans ?_
      by_cases hleast : @UnpackedFloat.unpackExponent .binary64 x.toBits.toBitVec = 0#_
      · refine (congrArg UnpackedFloat.isFinite (if_pos hleast)).trans ?_
        by_cases hzero : @UnpackedFloat.unpackMantissa .binary64 x.toBits.toBitVec = 0#_
        · exact congrArg UnpackedFloat.isFinite (dif_pos hzero)
        · exact congrArg UnpackedFloat.isFinite (dif_neg hzero)
      · exact congrArg UnpackedFloat.isFinite (if_neg hleast)
    exact iff_of_false (by rw [hnumber]; exact Bool.false_ne_true.symm) hfull

theorem ofFloat?_eq_none_iff :
    ofFloat? x = none ↔ x.isFinite = false := by
  rw [isFinite_eq_false_iff]
  simp only [ofFloat?]
  split
  · rename_i hfull
    exact iff_of_true rfl hfull
  · rename_i hfull
    split <;> exact iff_of_false nofun hfull

/-- A significand has at most 53 bits, and no fewer above the least exponent. -/
theorem significand_bounds
    (h : ofFloat? x = some b) :
    b.significand < 9007199254740992 ∧
      (-1074 < b.exponent → 4503599627370496 ≤ b.significand) := by
  have hfraction : x.toBits.toNat % 1 <<< 52 < 4503599627370496 :=
    Nat.mod_lt _ (by decide)
  simp only [ofFloat?] at h
  split at h
  · cases h
  · split at h
    · obtain rfl := Option.some.inj h
      exact ⟨Nat.lt_trans hfraction (by decide), nofun⟩
    · obtain rfl := Option.some.inj h
      simp only
      omega

theorem fraction_snd_pos
    (b : Binary) :
    0 < b.fraction.2 := by
  simp only [fraction, Nat.shiftLeft_eq]
  split
  · exact Nat.one_pos
  · exact Nat.mul_pos Nat.one_pos (Nat.two_pow_pos _)

/-- A double with an exponent above 64 is beyond 2^64. -/
theorem le_fraction_fst
    (h : ofFloat? x = some b)
    (hexponent : 64 < b.exponent) :
    UInt64.size * b.fraction.2 ≤ b.fraction.1 := by
  have hwhole : b.fraction = (b.significand <<< b.exponent.toNat, 1) :=
    if_pos (by omega)
  have hpos : 0 < b.significand :=
    Nat.lt_of_lt_of_le (by decide) ((significand_bounds h).2 (by omega))
  have hpower : 2 ^ 64 ≤ 2 ^ b.exponent.toNat :=
    Nat.pow_le_pow_right Nat.two_pos (by omega)
  rw [hwhole, Nat.shiftLeft_eq, Nat.mul_one]
  exact Nat.le_trans hpower (Nat.le_mul_of_pos_left _ hpos)

/-- A double that is not whole is far below 2^64. -/
theorem fraction_cases
    (h : ofFloat? x = some b) :
    b.fraction.2 = 1 ∨ b.fraction.1 < 9007199254740992 := by
  simp only [fraction]
  split
  · exact Or.inl rfl
  · exact Or.inr (significand_bounds h).1

end Binary
end Decimal

namespace Duration

open Decimal

variable {x : Float}

/-- A number of seconds that is finite, not below zero, and below 2^64. -/
def InRange (x : Float) : Prop :=
  ∃ b, Binary.ofFloat? x = some b ∧ (b.negative = true → b.significand = 0) ∧
    b.fraction.1 < UInt64.size * b.fraction.2

theorem InRange.isFinite
    (h : InRange x) :
    x.isFinite = true := by
  obtain ⟨b, hb, -, -⟩ := h
  rw [← Bool.not_eq_false, ← Binary.ofFloat?_eq_none_iff, hb]
  exact Option.some_ne_none b

/-- Rounding to nanoseconds keeps to the side of the limit. -/
theorem roundHalfEven_lt_iff
    {b : Binary}
    (h : Binary.ofFloat? x = some b) :
    roundHalfEven (b.fraction.1 * perSecond) b.fraction.2 < limit ↔
      b.fraction.1 < UInt64.size * b.fraction.2 := by
  rcases Binary.fraction_cases h with hwhole | hsmall
  · rw [hwhole, roundHalfEven_one, Nat.mul_one]
    exact Nat.mul_lt_mul_right (by decide)
  · have hle := roundHalfEven_le (b.fraction.1 * perSecond) b.fraction_snd_pos
    have hpos := b.fraction_snd_pos
    simp only [limit, perSecond, UInt64.size] at hle ⊢
    omega

theorem ofFloatSeconds?_eq_none_iff :
    ofFloatSeconds? x = none ↔ ¬InRange x := by
  simp only [ofFloatSeconds?, InRange]
  cases hb : Binary.ofFloat? x with
  | none =>
      simp
  | some b =>
      have hlimit := roundHalfEven_lt_iff hb
      simp only [Option.some.injEq, exists_eq_left']
      -- below zero; beyond the limit by the exponent alone; or to be rounded
      split
      · rename_i hnegative
        simp [hnegative]
      · split
        · rename_i hnegative hexponent
          simp [Nat.not_lt.2 (Binary.le_fraction_fst hb hexponent)]
        · rename_i hnegative hexponent
          have hsign : b.negative = true → b.significand = 0 := by
            simpa using hnegative
          split
          · rename_i hlt
            exact iff_of_false nofun (not_not_intro ⟨hsign, hlimit.1 hlt⟩)
          · rename_i hge
            exact iff_of_true rfl fun hrange => hge (hlimit.2 hrange.2)

end Duration
end BoundedWait

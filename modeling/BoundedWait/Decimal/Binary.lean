/-!
# Finite doubles as exact numbers

A finite double is a whole number times a power of two.  `Binary.ofFloat?`
reads the two from its bits, and `Binary.fraction` writes the magnitude as a
quotient of natural numbers, so that rounding and comparison can be done in
exact arithmetic.
-/

namespace BoundedWait
namespace Decimal

/-- The number `significand * 2 ^ exponent`, with a sign of its own. -/
structure Binary where
  negative : Bool
  significand : Nat
  exponent : Int
deriving DecidableEq, Repr

namespace Binary

/-- The exact value of a double, unless it is infinite or no number. -/
def ofFloat? (x : Float) : Option Binary :=
  let bits := x.toBits.toNat
  let exponentField : Nat := (bits >>> 52) % 2048
  let fractionField : Nat := bits % (1 <<< 52)
  let negative := bits >>> 63 == 1
  if exponentField = 2047 then none
  else if exponentField = 0 then
    some ⟨negative, fractionField, -1074⟩
  else
    some ⟨negative, (1 <<< 52) + fractionField, (exponentField : Int) - 1075⟩

/-- The magnitude as numerator and denominator. -/
def fraction (b : Binary) : Nat × Nat :=
  if 0 ≤ b.exponent then (b.significand <<< b.exponent.toNat, 1)
  else (b.significand, 1 <<< (-b.exponent).toNat)

/-- Whether the double just below is only half as far away as the one above,
which is so at a power of two above the smallest exponent. -/
def isNarrowBelow (b : Binary) : Bool :=
  b.significand == 1 <<< 52 && decide (-1074 < b.exponent)

end Binary

/-- The whole number nearest to a quotient, the even one of two. -/
def roundHalfEven (numerator denominator : Nat) : Nat :=
  let whole := numerator / denominator
  let twice := 2 * (numerator % denominator)
  if denominator < twice then whole + 1
  else if twice = denominator then whole + whole % 2
  else whole

/-- The nearest whole number is at most half a unit away. -/
theorem roundHalfEven_near (n d : Nat) (hd : 0 < d) :
    2 * (roundHalfEven n d * d) ≤ 2 * n + d ∧
      2 * n ≤ 2 * (roundHalfEven n d * d) + d := by
  have hn := Nat.div_add_mod n d
  have hlt := Nat.mod_lt n hd
  rw [Nat.mul_comm] at hn
  simp only [roundHalfEven]
  split
  · rw [Nat.add_mul]
    omega
  · split
    · rcases Nat.mod_two_eq_zero_or_one (n / d) with h | h
      · rw [h, Nat.add_zero]
        omega
      · rw [h, Nat.add_mul]
        omega
    · omega

example : roundHalfEven 5 2 = 2 ∧ roundHalfEven 7 2 = 4 := by decide

end Decimal
end BoundedWait

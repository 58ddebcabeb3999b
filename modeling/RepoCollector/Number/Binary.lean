/-!
# Doubles as exact numbers

A finite double is a whole number times a power of two.  `Binary.ofFloat` gives the two, and
`scaled` and `fixed` work on them in whole numbers alone: no result depends on how a double is
printed.

`roundQuotient` rounds to the nearest whole number, a tie going to the even neighbour.
-/

namespace RepoCollector

/-- A quotient rounded to the nearest whole number; a tie goes to the even neighbour. -/
def roundQuotient (numerator denominator : Nat) : Nat :=
  let whole := numerator / denominator
  let rest := numerator % denominator
  if 2 * rest < denominator then whole
  else if denominator < 2 * rest then whole + 1
  else whole + whole % 2

/-- A rounded quotient lies within half a unit of the exact one. -/
theorem roundQuotient_near (numerator denominator : Nat) (positive : 0 < denominator) :
    2 * numerator ≤ (2 * roundQuotient numerator denominator + 1) * denominator ∧
      2 * roundQuotient numerator denominator * denominator ≤ 2 * numerator + denominator := by
  have split := Nat.div_add_mod numerator denominator
  have small := Nat.mod_lt numerator positive
  unfold roundQuotient
  generalize numerator / denominator = whole at *
  generalize numerator % denominator = rest at *
  subst split
  rw [Nat.mul_comm denominator whole]
  simp only
  split
  · constructor
    · rw [Nat.add_mul, Nat.mul_assoc]; omega
    · rw [Nat.mul_assoc]; omega
  · split
    · constructor
      · rw [Nat.add_mul, Nat.mul_assoc, Nat.add_mul]; omega
      · rw [Nat.mul_assoc, Nat.add_mul]; omega
    · rcases Nat.mod_two_eq_zero_or_one whole with even | odd
      · constructor
        · simp only [even, Nat.add_zero, Nat.add_mul, Nat.mul_assoc]; omega
        · simp only [even, Nat.add_zero, Nat.mul_assoc]; omega
      · constructor
        · rw [odd, Nat.add_mul, Nat.mul_assoc, Nat.add_mul]; omega
        · rw [odd, Nat.mul_assoc, Nat.add_mul]; omega

/-- The size of a finite double: `digits * 2 ^ exponent`. -/
structure Binary where
  digits : Nat
  exponent : Int
deriving DecidableEq, Repr

namespace Binary

/-- The size of a finite double. -/
def ofFloat (x : Float) : Binary :=
  let bits : Nat := x.toBits.toNat
  let fraction : Nat := bits % Nat.pow 2 52
  let power : Nat := bits / Nat.pow 2 52 % Nat.pow 2 11
  if power = 0 then ⟨fraction, -1074⟩ else ⟨fraction + Nat.pow 2 52, Int.ofNat power - 1075⟩

/-- The number times a whole number, rounded to a whole number. -/
def scaled (b : Binary) (scale : Nat) : Nat :=
  if 0 ≤ b.exponent then b.digits * Nat.pow 2 b.exponent.toNat * scale
  else roundQuotient (b.digits * scale) (Nat.pow 2 (-b.exponent).toNat)

end Binary

/-- The decimal text of a number of tenths. -/
def tenthsText (tenths : Nat) : String :=
  toString (tenths / 10) ++ "." ++ toString (tenths % 10)

end RepoCollector

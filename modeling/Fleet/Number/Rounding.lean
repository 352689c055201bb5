/-! Rounding of quotients: to the nearest whole number and to 53 binary places. -/

namespace Fleet.Number

/-- The whole number nearest to a quotient. A half goes to the even neighbour. -/
def nearest (num den : Nat) : Nat :=
  let below := num / den
  let twice := 2 * (num % den)
  if twice < den then below
  else if den < twice then below + 1
  else below + below % 2

/-- The whole part of the number with 53 binary places that is nearest to a quotient. The quotient
is below `2 ^ 53`, so its whole part takes at most 53 of the places and the rest is fraction. -/
def nearestWholePart (num den : Nat) : Nat :=
  let places := 52 - (num / den).log2
  nearest (num <<< places) den >>> places

/-- Rounding changes nothing when the quotient is whole. -/
theorem nearest_mul (n : Nat) {den : Nat} (positive : 0 < den) : nearest (n * den) den = n := by
  simp [nearest, Nat.mul_div_cancel n positive, positive]

/-- A whole quotient is its own nearest number, at every count of places. -/
theorem nearestWholePart_mul (n : Nat) {den : Nat} (positive : 0 < den) :
    nearestWholePart (n * den) den = n := by
  unfold nearestWholePart
  simp only [Nat.mul_div_cancel n positive, Nat.shiftLeft_eq, Nat.shiftRight_eq_div_pow]
  -- Scaling by a power of two keeps the quotient whole, so nothing is rounded.
  rw [Nat.mul_right_comm, nearest_mul _ positive,
    Nat.mul_div_cancel _ (Nat.two_pow_pos _)]

end Fleet.Number

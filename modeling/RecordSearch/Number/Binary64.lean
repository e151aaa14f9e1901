/-!
# Binary floating-point numbers

The finite numbers with 53 binary digits, the two infinities, and not-a-number. A magnitude is a
whole number of units of `2 ^ -1074`, the smallest positive number, so that all arithmetic on them
is exact arithmetic of natural numbers. `ofDecimal` rounds a decimal to the nearest of them.
-/

namespace RecordSearch

/-- A floating-point number. The magnitude of a finite one is `significand * 2 ^ shift` units of
`2 ^ -1074`; the significand is below `2 ^ 53`, and not below `2 ^ 52` unless the shift is zero. -/
inductive Binary64 where
  | nan
  | infinite (negative : Bool)
  | finite (negative : Bool) (significand shift : Nat)
  deriving DecidableEq, Repr

namespace Binary64

/-- The whole number nearest to a quotient, and the even one of two that are equally near. -/
def divideToNearest (n d : Nat) : Nat :=
  let q := n / d
  let r := n % d
  if 2 * r < d ∨ (2 * r = d ∧ q % 2 = 0) then q else q + 1

/-- The greatest shift of a finite number. -/
def maxShift : Nat := 2045

/-- The number nearest to `n / d` units of `2 ^ -1074`. -/
def ofUnits (negative : Bool) (n d : Nat) : Binary64 :=
  let shift := Nat.log2 (n / d) - 52
  let significand := divideToNearest n (d * Nat.pow 2 shift)
  -- rounding up may carry into a 54th binary digit
  let carried := significand == Nat.pow 2 53
  let shift := if carried then shift + 1 else shift
  if maxShift < shift then .infinite negative
  else .finite negative (if carried then Nat.pow 2 52 else significand) shift

/-- How many decimal digits a number has. -/
def digitCount (n : Nat) : Nat := (Nat.toDigits 10 n).length

/-- The number nearest to `digits * 10 ^ exponent`. What is far above the greatest number is
infinite, and what is far below the smallest is zero, whatever the digits are. -/
def ofDecimal (negative : Bool) (digits : Nat) (exponent : Int) : Binary64 :=
  let top := (digitCount digits : Int) + exponent
  if digits = 0 ∨ top < -400 then .finite negative 0 0
  else if 400 < top then .infinite negative
  else if 0 ≤ exponent then
    ofUnits negative (digits * Nat.pow 10 exponent.toNat * Nat.pow 2 1074) 1
  else ofUnits negative (digits * Nat.pow 2 1074) (Nat.pow 10 (-exponent).toNat)

/-- Whether the number is neither infinite nor not-a-number. -/
def isFinite : Binary64 → Bool
  | .finite .. => true
  | _ => false

end Binary64

end RecordSearch

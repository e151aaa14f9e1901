import RecordSearch.Number.Binary64

/-!
# The shortest decimal of a floating-point number

A floating-point number is written with the fewest digits that read back as the same number, and of
the decimals with that many digits as the nearest one. In units of `10 ^ -1076` every finite number,
and every bound between two neighbours, is a whole number, so the search is exact: for 1, 2, … 17
digits it tries the two points of the decimal grid around the number.
-/

namespace RecordSearch

namespace Binary64

/-- A positive number and the decimals that read back as it: `value - below` to `value + above`, the
ends among them if `closed`, all in units of `10 ^ -1076`. -/
structure Interval where
  value : Nat
  below : Nat
  above : Nat
  closed : Bool
  deriving DecidableEq, Repr

/-- A quarter of `2 ^ -1074`, in units of `10 ^ -1076`. -/
def quarter : Nat := Nat.pow 5 1076

/-- The decimals that read back as the number `significand * 2 ^ shift`: up to half the way to its
neighbours, of which the lower one is nearer at a power of two. -/
def Interval.ofFinite (significand shift : Nat) : Interval where
  value := significand * Nat.pow 2 shift * 4 * quarter
  below := if significand = Nat.pow 2 52 ∧ 0 < shift then Nat.pow 2 shift * quarter
    else Nat.pow 2 shift * 2 * quarter
  above := Nat.pow 2 shift * 2 * quarter
  closed := significand % 2 = 0

/-- Whether a distance stays within a bound. -/
def within (closed : Bool) (distance bound : Nat) : Bool :=
  distance < bound || (closed && distance == bound)

/-- The multiple of `step` that reads back as the number, as a factor of `step`: the nearer one if
both neighbours do, and the even one if they are equally near. -/
def Interval.onGrid? (i : Interval) (step : Nat) : Option Nat :=
  let down := i.value / step
  let rest := i.value % step
  match within i.closed rest i.below, within i.closed (step - rest) i.above with
  | true, true =>
    if 2 * rest < step ∨ (2 * rest = step ∧ down % 2 = 0) then some down else some (down + 1)
  | true, false => some down
  | false, true => some (down + 1)
  | false, false => none

/-- The digits of the shortest decimal, as a number, and the power of ten that they count. -/
def Interval.shortest (i : Interval) : Nat × Int :=
  let size := digitCount i.value
  let found := (List.range 17).findSome? fun k =>
    let power := size - (k + 1)
    (i.onGrid? (Nat.pow 10 power)).map fun digits => (digits, (power : Int) - 1076)
  found.getD (i.value, -1076)

/-- The digits without the zeros at their end. -/
def dropZeros (digits : List Char) : List Char := (digits.reverse.dropWhile (· == '0')).reverse

/-- An exponent with its sign and at least two digits. -/
def exponentText (e : Int) : String :=
  let digits := Nat.toDigits 10 e.natAbs
  (if e < 0 then "-" else "+") ++
    String.ofList (if digits.length < 2 then '0' :: digits else digits)

/-- A decimal `0.digits * 10 ^ point`: in positional notation with at least one digit on either side
of the point if the first digit counts no less than `10 ^ -4` and less than `10 ^ 16`, else with an
exponent. -/
def decimalText (digits : List Char) (point : Int) : String :=
  if -4 < point ∧ point ≤ 0 then
    "0." ++ String.ofList (List.replicate (-point).toNat '0' ++ digits)
  else if 0 < point ∧ point ≤ 16 then
    let whole := point.toNat
    if digits.length ≤ whole then
      String.ofList (digits ++ List.replicate (whole - digits.length) '0') ++ ".0"
    else String.ofList (digits.take whole) ++ "." ++ String.ofList (digits.drop whole)
  else
    let fraction := digits.drop 1
    String.ofList (digits.take 1) ++
      (if fraction.isEmpty then "" else "." ++ String.ofList fraction) ++
      "e" ++ exponentText (point - 1)

/-- A positive or zero magnitude as text. -/
def magnitudeText (significand shift : Nat) : String :=
  if significand = 0 then "0.0"
  else
    let (digits, power) := (Interval.ofFinite significand shift).shortest
    let text := Nat.toDigits 10 digits
    decimalText (dropZeros text) (power + text.length)

/-- A finite number as text, and a name for each of the other numbers. -/
def textWith (infinity nan : String) : Binary64 → String
  | .nan => nan
  | .infinite negative => (if negative then "-" else "") ++ infinity
  | .finite negative significand shift =>
    (if negative then "-" else "") ++ magnitudeText significand shift

end Binary64

end RecordSearch

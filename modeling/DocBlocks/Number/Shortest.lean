import DocBlocks.Number.Binary64

/-!
The shortest decimal that reads back as a given binary64 number. The numbers
that round to it form an interval, closed if the significand is even. Of the
decimal grids from one digit to seventeen the first that meets the interval is
taken, and on it the neighbour nearer to the number, the even one if both are
equally near.
-/
namespace DocBlocks.Number

/-- The number `digits * 10 ^ exponent`. -/
structure Decimal where
  digits : Nat
  exponent : Int

namespace Decimal

/-- Zeros at the end of the digits go into the exponent. -/
def strip (x : Decimal) : Decimal :=
  if _ : x.digits ≠ 0 ∧ x.digits % 10 = 0 then strip ⟨x.digits / 10, x.exponent + 1⟩ else x
termination_by x.digits
decreasing_by omega

def digitChars (x : Decimal) : List Char := Nat.toDigits 10 x.digits

/-- The power of ten of the first digit. -/
def leading (x : Decimal) : Int := x.exponent + x.digitChars.length - 1

/-- The greatest `k` with `10 ^ k ≤ num / den`, for a positive ratio. -/
def floorLog (num den : Nat) : Int :=
  if den ≤ num then ((Nat.toDigits 10 (num / den)).length : Int) - 1
  else
    let places := (Nat.toDigits 10 (den / num)).length
    if num * Nat.pow 10 (places - 1) = den then 1 - (places : Int) else -(places : Int)

/-- The interval of ratios over `den` that round to one number: its ends, and
whether they belong to it. -/
structure Interval where
  low : Nat
  middle : Nat
  high : Nat
  den : Nat
  closed : Bool

/-- In quarters of a unit of the last place. Below a power of two the next
number is only half a unit away. -/
def Interval.around (x : Binary64) : Interval :=
  let quarters := 4 * x.significand
  let below :=
    if x.significand = Nat.pow 2 52 ∧ Binary64.leastExponent < x.exponent then 1 else 2
  let up := Nat.pow 2 (x.exponent - 2).toNat
  ⟨(quarters - below) * up, quarters * up, (quarters + 2) * up,
    Nat.pow 2 (2 - x.exponent).toNat, x.significand % 2 == 0⟩

/-- `digits * 10 ^ exponent` lies in the interval. -/
def Interval.meets (i : Interval) (x : Decimal) : Bool :=
  let point := x.digits * Nat.pow 10 x.exponent.toNat * i.den
  let low := i.low * Nat.pow 10 (-x.exponent).toNat
  let high := i.high * Nat.pow 10 (-x.exponent).toNat
  if i.closed then low ≤ point && point ≤ high else low < point && point < high

/-- The better of the two multiples of `10 ^ exponent` next to the middle. -/
def Interval.onGrid? (i : Interval) (exponent : Int) : Option Decimal :=
  let num := i.middle * Nat.pow 10 (-exponent).toNat
  let den := i.den * Nat.pow 10 exponent.toNat
  let down : Decimal := ⟨num / den, exponent⟩
  let up : Decimal := ⟨num / den + 1, exponent⟩
  match i.meets down, i.meets up with
  | false, false => none
  | true, false => some down
  | false, true => some up
  | true, true => some ⟨Binary64.nearest num den, exponent⟩

/-- The shortest decimal for the magnitude of a number other than zero. -/
def shortest (x : Binary64) : Decimal :=
  let i := Interval.around x
  let first := floorLog i.middle i.den
  let found := (List.range 17).findSome? fun (more : Nat) => i.onGrid? (first - more)
  (found.getD ⟨0, 0⟩).strip

end Decimal
end DocBlocks.Number

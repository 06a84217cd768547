/-!
Finite binary64 numbers in exact integer arithmetic. A ratio of naturals goes
to the nearest number, a tie to the even significand; products and quotients
round the exact result once.
-/
namespace DocBlocks.Number

/-- The number `significand * 2 ^ exponent` with a sign. The significand is
below `2 ^ 53`, and below `2 ^ 52` only with the least exponent. -/
structure Binary64 where
  negative : Bool
  significand : Nat
  exponent : Int

namespace Binary64

def leastExponent : Int := -1074

def greatestExponent : Int := 971

def zero : Binary64 := ⟨false, 0, leastExponent⟩

def isZero (x : Binary64) : Bool := x.significand == 0

def withSign (negative : Bool) (x : Binary64) : Binary64 := { x with negative := negative }

/-- The natural nearest to a ratio; halfway, the even one. -/
def nearest (num den : Nat) : Nat :=
  let quotient := num / den
  let rest := num % den
  if 2 * rest < den then quotient
  else if den < 2 * rest then quotient + 1
  else quotient + quotient % 2

/-- `num / den / 2 ^ exponent` as a ratio. -/
def scale (num den : Nat) (exponent : Int) : Nat × Nat :=
  (num * Nat.pow 2 (-exponent).toNat, den * Nat.pow 2 exponent.toNat)

/-- The exponent with which the significand of a positive ratio has 53 bits,
or the least one if that is greater. -/
def exponentOf (num den : Nat) : Int :=
  let guess := max ((num.log2 : Int) - den.log2 - 53) leastExponent
  let (n, d) := scale num den guess
  if Nat.pow 2 53 ≤ n / d then guess + 1 else guess

/-- The nearest number to `num / den`, if it is not too large. -/
def ofRatio? (num den : Nat) : Option Binary64 :=
  if num = 0 then some zero
  else
    let exponent := exponentOf num den
    let (n, d) := scale num den exponent
    let significand := nearest n d
    let rounded : Binary64 :=
      if significand = Nat.pow 2 53 then ⟨false, Nat.pow 2 52, exponent + 1⟩
      else ⟨false, significand, exponent⟩
    if greatestExponent < rounded.exponent then none else some rounded

def ofNat? (n : Nat) : Option Binary64 := ofRatio? n 1

/-- The magnitude as a ratio. -/
def ratio (x : Binary64) : Nat × Nat := scale x.significand 1 (-x.exponent)

/-- The rounded product of two magnitudes. -/
def mul? (x y : Binary64) : Option Binary64 :=
  ofRatio? (x.ratio.1 * y.ratio.1) (x.ratio.2 * y.ratio.2)

/-- The rounded quotient of two magnitudes. -/
def div? (x y : Binary64) : Option Binary64 :=
  ofRatio? (x.ratio.1 * y.ratio.2) (x.ratio.2 * y.ratio.1)

/-- The greatest power of ten that is used as one factor. -/
def greatestPower : Nat := 308

def powerOfTen? (n : Nat) : Option Binary64 := ofNat? (Nat.pow 10 n)

/-- Divides by the greatest power as long as more is to be divided off. -/
def shiftDown? (x : Binary64) (places : Nat) : Option Binary64 :=
  if _ : places ≤ greatestPower then
    (powerOfTen? places).bind (x.div? ·)
  else if x.isZero then some x
  else
    (powerOfTen? greatestPower).bind (x.div? ·) |>.bind
      fun quotient => shiftDown? quotient (places - greatestPower)
termination_by places
decreasing_by simp only [greatestPower] at *; omega

def shiftUp? (x : Binary64) (places : Nat) : Option Binary64 :=
  if places ≤ greatestPower then (powerOfTen? places).bind (x.mul? ·)
  else if x.isZero then some x
  else none

/-- `digits * 10 ^ exponent`, where the digits are rounded first and the power
of ten is applied to what they round to. -/
def ofDecimal? (digits : Nat) (exponent : Int) : Option Binary64 :=
  (ofNat? digits).bind fun x =>
    if 0 ≤ exponent then x.shiftUp? exponent.toNat else x.shiftDown? (-exponent).toNat

end Binary64
end DocBlocks.Number

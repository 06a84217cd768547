import DocBlocks.Number.Shortest

/-!
How a decimal is set out: positional between two bounds on the power of ten of
its first digit, with an exponent outside of them.
-/
namespace DocBlocks.Number

structure Layout where
  positionalFrom : Int
  positionalTo : Int

namespace Layout

/-- A whole number keeps one zero after the point. -/
def positional (digits : List Char) (leading : Int) : List Char :=
  if leading < 0 then
    ['0', '.'] ++ List.replicate ((-leading).toNat - 1) '0' ++ digits
  else
    let whole := leading.toNat + 1
    if digits.length ≤ whole then
      digits ++ List.replicate (whole - digits.length) '0' ++ ['.', '0']
    else digits.take whole ++ '.' :: digits.drop whole

/-- The exponent always shows its sign, and no point follows a lone digit. -/
def scientific (digits : List Char) (leading : Int) : List Char :=
  let fraction := if digits.length ≤ 1 then [] else '.' :: digits.drop 1
  digits.take 1 ++ fraction ++ 'e' :: (if leading < 0 then '-' else '+')
    :: Nat.toDigits 10 leading.natAbs

def decimal (layout : Layout) (x : Decimal) : List Char :=
  if layout.positionalFrom ≤ x.leading ∧ x.leading ≤ layout.positionalTo then
    positional x.digitChars x.leading
  else scientific x.digitChars x.leading

def number (layout : Layout) (x : Binary64) : List Char :=
  (if x.negative then ['-'] else []) ++
    if x.isZero then ['0', '.', '0'] else layout.decimal (Decimal.shortest x)

end Layout
end DocBlocks.Number

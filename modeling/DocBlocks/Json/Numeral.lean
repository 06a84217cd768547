import DocBlocks.Json.Value
import DocBlocks.Json.Fault

/-!
Reading a number one character at a time. Digits are collected as long as they
fit 64 bits: further whole digits only raise the exponent, and the first
fraction digit that does not fit ends the collecting.
-/
namespace DocBlocks.Json

def digit? (c : Char) : Option Nat :=
  if '0' ≤ c ∧ c ≤ '9' then some (c.toNat - '0'.toNat) else none

namespace Numeral

/-- `digits * 10 ^ exponent` is what has been read so far. -/
inductive Stage
  | sign
  | zero
  | whole (digits : Nat)
  | long (digits : Nat) (exponent : Nat)
  | point (digits : Nat) (exponent : Int)
  | fraction (digits : Nat) (exponent : Int)
  | full (digits : Nat) (exponent : Int)
  | mark (digits : Nat) (exponent : Int)
  | signedMark (digits : Nat) (exponent : Int) (down : Bool)
  | power (digits : Nat) (exponent : Int) (down : Bool) (power : Nat)
  | vanished

/-- One more digit, if the result fits 64 bits. -/
def collect? (digits digit : Nat) : Option Nat :=
  if 10 * digits + digit < Nat.pow 2 64 then some (10 * digits + digit) else none

namespace Stage

def ofDigit (digit : Nat) : Stage := if digit = 0 then .zero else .whole digit

/-- What may follow digits that need no more digits. -/
def afterDigits? (digits : Nat) (exponent : Int) (point : Bool) (c : Char) :
    Option (Except Cause Stage) :=
  if c = '.' ∧ point then some (.ok (.point digits exponent))
  else if c = 'e' ∨ c = 'E' then some (.ok (.mark digits exponent))
  else none

/-- A power beyond 31 bits is too large, unless the number vanishes with it. -/
def raise (digits : Nat) (exponent : Int) (down : Bool) (power : Nat) : Except Cause Stage :=
  if power < Nat.pow 2 31 then .ok (.power digits exponent down power)
  else if digits ≠ 0 ∧ !down then .error .numberTooLarge
  else .ok .vanished

/-- The stage after `c`; none if the number is over before it. -/
def next? (stage : Stage) (c : Char) : Option (Except Cause Stage) :=
  match stage, digit? c with
  | .sign, some d => some (.ok (ofDigit d))
  | .sign, none => some (.error .badNumber)
  | .zero, some _ => some (.error .badNumber)
  | .zero, none => afterDigits? 0 0 true c
  | .whole m, some d =>
      match collect? m d with
      | some m' => some (.ok (.whole m'))
      | none => some (.ok (.long m 1))
  | .whole m, none => afterDigits? m 0 true c
  | .long m e, some _ => some (.ok (.long m (e + 1)))
  | .long m e, none => afterDigits? m e true c
  | .point m e, some d | .fraction m e, some d =>
      match collect? m d with
      | some m' => some (.ok (.fraction m' (e - 1)))
      | none => some (.ok (.full m e))
  | .point _ _, none => some (.error .badNumber)
  | .fraction m e, none => afterDigits? m e false c
  | .full m e, some _ => some (.ok (.full m e))
  | .full m e, none => afterDigits? m e false c
  | .mark m e, some d => some (raise m e false d)
  | .mark m e, none =>
      if c = '+' then some (.ok (.signedMark m e false))
      else if c = '-' then some (.ok (.signedMark m e true))
      else some (.error .badNumber)
  | .signedMark m e down, some d => some (raise m e down d)
  | .signedMark _ _ _, none => some (.error .badNumber)
  | .power m e down p, some d => some (raise m e down (10 * p + d))
  | .power _ _ _ _, none => none
  | .vanished, some _ => some (.ok .vanished)
  | .vanished, none => none

def real (negative : Bool) (digits : Nat) (exponent : Int) : Except Cause Numeral :=
  match Number.Binary64.ofDecimal? digits exponent with
  | some x => .ok (.real (x.withSign negative))
  | none => .error .numberTooLarge

/-- The number that ends at this stage. Negative zero is not a whole number. -/
def value (negative : Bool) : Stage → Except Cause Numeral
  | .sign | .point _ _ | .mark _ _ | .signedMark _ _ _ => .error .valueMissing
  | .zero => if negative then real true 0 0 else .ok (.whole 0)
  | .whole m =>
      if !negative then .ok (.whole m)
      else if m ≤ Nat.pow 2 63 then .ok (.whole (-(m : Int)))
      else real true m 0
  | .long m e => real negative m e
  | .fraction m e | .full m e => real negative m e
  | .power m e down p => real negative m (if down then e - p else e + p)
  | .vanished => real negative 0 0

end Stage
end Numeral
end DocBlocks.Json

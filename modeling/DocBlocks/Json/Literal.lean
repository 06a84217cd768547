import DocBlocks.Json.Fault

/-!
Reading a string literal one character at a time, after its opening quote. A
`\u` escape takes four bytes whatever they are; a character beyond 16 bits is
written as two of them, a leading and a trailing surrogate.
-/
namespace DocBlocks.Json

/-- Where a literal is: in plain text, after a backslash, within a hexadecimal
escape of which some bytes are read, or between the escapes of a pair. -/
inductive Literal.Stage
  | plain
  | backslash
  | hex (lead : Option Nat) (bytes : Nat) (value : Option Nat)
  | pairBackslash (lead : Nat)
  | pairLetter (lead : Nat)

/-- The characters of the literal so far, the last one first. -/
structure Literal where
  read : List Char
  stage : Literal.Stage

namespace Literal

def empty : Literal := ⟨[], .plain⟩

inductive Progress
  | more (literal : Literal)
  | closed (text : String)

def escaped? (c : Char) : Option Char :=
  if c = '"' ∨ c = '\\' ∨ c = '/' then some c
  else if c = 'b' then some '\x08'
  else if c = 'f' then some '\x0c'
  else if c = 'n' then some '\n'
  else if c = 'r' then some '\r'
  else if c = 't' then some '\t'
  else none

def hexDigit? (c : Char) : Option Nat :=
  if '0' ≤ c ∧ c ≤ '9' then some (c.toNat - '0'.toNat)
  else if 'a' ≤ c ∧ c ≤ 'f' then some (c.toNat - 'a'.toNat + 10)
  else if 'A' ≤ c ∧ c ≤ 'F' then some (c.toNat - 'A'.toNat + 10)
  else none

def isLeading (n : Nat) : Bool := 0xD800 ≤ n && n ≤ 0xDBFF

def isTrailing (n : Nat) : Bool := 0xDC00 ≤ n && n ≤ 0xDFFF

def pair (lead trail : Nat) : Char :=
  Char.ofNat (0x10000 + (lead - 0xD800) * 0x400 + (trail - 0xDC00))

def push (literal : Literal) (c : Char) : Literal := ⟨c :: literal.read, .plain⟩

/-- A hexadecimal escape is complete. -/
def unit (literal : Literal) (lead : Option Nat) (n : Nat) : Except Cause Literal :=
  match lead with
  | none =>
      if isTrailing n then .error .loneSurrogate
      else if isLeading n then .ok { literal with stage := .pairBackslash n }
      else .ok (literal.push (Char.ofNat n))
  | some lead =>
      if isTrailing n then .ok (literal.push (pair lead n)) else .error .loneSurrogate

/-- A character within a hexadecimal escape; the last one may reach beyond it. -/
def hexStep (literal : Literal) (lead : Option Nat) (bytes : Nat) (value : Option Nat)
    (c : Char) : Except Stop Literal :=
  let value := value.bind fun n => (hexDigit? c).map (16 * n + ·)
  if bytes + c.utf8Size < 4 then
    .ok { literal with stage := .hex lead (bytes + c.utf8Size) value }
  else
    match value with
    | none => .error ⟨.unknownEscape, 4 - bytes⟩
    | some n => (literal.unit lead n).mapError (⟨·, 4 - bytes⟩)

def step (literal : Literal) (c : Char) : Except Stop Progress :=
  match literal.stage with
  | .plain =>
      if c = '"' then .ok (.closed (String.ofList literal.read.reverse))
      else if c = '\\' then .ok (.more { literal with stage := .backslash })
      else if c < ' ' then .error ⟨.controlCharacter, 1⟩
      else .ok (.more (literal.push c))
  | .backslash =>
      if c = 'u' then .ok (.more { literal with stage := .hex none 0 (some 0) })
      else
        match escaped? c with
        | some e => .ok (.more (literal.push e))
        | none => .error ⟨.unknownEscape, 1⟩
  | .hex lead bytes value => (literal.hexStep lead bytes value c).map .more
  | .pairBackslash lead =>
      if c = '\\' then .ok (.more { literal with stage := .pairLetter lead })
      else .error ⟨.surrogateExpected, 1⟩
  | .pairLetter lead =>
      if c = 'u' then .ok (.more { literal with stage := .hex (some lead) 0 (some 0) })
      else .error ⟨.surrogateExpected, 1⟩

end Literal
end DocBlocks.Json

/-!
What can be wrong with a text that should be JSON, and where. A position counts
the lines from one and, within a line, the bytes that lie before it.
-/
namespace DocBlocks.Json

inductive Cause
  | valueMissing
  | listOpen
  | objectOpen
  | textOpen
  | valueExpected
  | keywordExpected
  | listSeparator
  | objectSeparator
  | colonExpected
  | keyExpected
  | trailingComma
  | trailingText
  | tooDeep
  | controlCharacter
  | unknownEscape
  | loneSurrogate
  | surrogateExpected
  | badNumber
  | numberTooLarge
  deriving DecidableEq

def Cause.message : Cause → String
  | .valueMissing => "EOF while parsing a value"
  | .listOpen => "EOF while parsing a list"
  | .objectOpen => "EOF while parsing an object"
  | .textOpen => "EOF while parsing a string"
  | .valueExpected => "expected value"
  | .keywordExpected => "expected ident"
  | .listSeparator => "expected `,` or `]`"
  | .objectSeparator => "expected `,` or `\x7d`"
  | .colonExpected => "expected `:`"
  | .keyExpected => "key must be a string"
  | .trailingComma => "trailing comma"
  | .trailingText => "trailing characters"
  | .tooDeep => "recursion limit exceeded"
  | .controlCharacter =>
      "control character (\\u0000-\\u001F) found while parsing a string"
  | .unknownEscape => "invalid escape"
  | .loneSurrogate => "lone leading surrogate in hex escape"
  | .surrogateExpected => "unexpected end of hex escape"
  | .badNumber => "invalid number"
  | .numberTooLarge => "number out of range"

structure Position where
  line : Nat
  column : Nat
  deriving DecidableEq

def Position.start : Position := ⟨1, 0⟩

/-- The position after some bytes of a character. -/
def Position.advance (p : Position) (c : Char) (bytes : Nat) : Position :=
  if bytes = 0 then p
  else if c = '\n' then ⟨p.line + 1, 0⟩
  else ⟨p.line, p.column + bytes⟩

structure Fault where
  cause : Cause
  position : Position
  deriving DecidableEq

def Fault.message (fault : Fault) : String :=
  fault.cause.message ++ " at line " ++ toString fault.position.line ++
    " column " ++ toString fault.position.column

/-- A reader stops inside a character, after some of its bytes. -/
structure Stop where
  cause : Cause
  bytes : Nat

end DocBlocks.Json

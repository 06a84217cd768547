/-!
Text for a reader that is no terminal: without control characters, other than
white space, and without the escape sequences that would command one.
-/
namespace DocBlocks.Text

/-- How far into an escape sequence a text is, if in one. What is addressed to a
device has parameters of its own before the string. -/
inductive Sequence
  | none
  | opened
  | intermediate
  | parameters
  | command
  | deviceOpened
  | deviceIntermediate
  | deviceParameters
  | string
  deriving DecidableEq

def isAsciiSpace (c : Char) : Bool :=
  c == ' ' || c == '\t' || c == '\n' || c == '\x0c' || c == '\r'

def isControl (c : Char) : Bool := c < ' ' || c == '\x7f'

/-- A character that a plain text may have. -/
def isPlain (c : Char) : Bool := !isControl c || isAsciiSpace c

namespace Sequence

/-- The sequences that end by themselves, without a terminator. -/
def isShort : Sequence → Bool
  | .opened | .intermediate | .parameters => true
  | _ => false

/-- The sequence that the character after the escape opens. -/
def ofOpening (c : Char) : Sequence :=
  if c ≤ '/' then .intermediate
  else if c = '[' then .parameters
  else if c = ']' then .command
  else if c = 'P' then .deviceOpened
  else if c = 'X' ∨ c = '^' ∨ c = '_' then .string
  else .none

/-- The sequence after one of its characters that is printable ASCII. -/
def afterAscii (c : Char) : Sequence → Sequence
  | .none => .none
  | .opened => .ofOpening c
  | .intermediate => if c ≤ '/' then .intermediate else .none
  | .parameters => if c ≤ '?' then .parameters else .none
  | .command => .command
  | .deviceOpened =>
      if c ≤ '/' then .deviceIntermediate
      else if c ≤ '?' then .deviceParameters
      else .string
  | .deviceIntermediate => if c ≤ '/' then .deviceIntermediate else .string
  | .deviceParameters =>
      if c ≤ '/' then .deviceIntermediate
      else if c ≤ ';' then .deviceParameters
      else .string
  | .string => .string

/-- The sequence after a character that is not shown. The terminator of a string
is a byte, and that byte counts inside a longer character too. -/
def next (sequence : Sequence) (c : Char) : Sequence :=
  if c = '\x1b' then .opened
  else if c = '\x18' ∨ c = '\x1a' then .none
  else if sequence = .command ∧ c = '\x07' then .none
  else if sequence = .string ∧ (String.utf8EncodeChar c).contains 0x9c then .none
  else if ' ' ≤ c ∧ c ≤ '~' then sequence.afterAscii c
  else sequence

/-- White space other than the blank is shown amidst a short sequence. -/
def shows (sequence : Sequence) (c : Char) : Bool :=
  sequence = .none || (sequence.isShort && isControl c)

end Sequence

/-- What is shown of a text. White space that breaks into a sequence suspends it:
what follows is shown as well, until a character that cannot be, with which the
sequence goes on. A character beyond ASCII ends a suspended sequence. -/
def plainFrom (sequence : Sequence) (suspended : Bool) : List Char → List Char
  | [] => []
  | c :: rest =>
      if isPlain c && (suspended || sequence.shows c) then
        c :: plainFrom (if c < '\x80' then sequence else .none) true rest
      else plainFrom (sequence.next c) false rest

def plain (text : String) : String := String.ofList (plainFrom .none false text.toList)

end DocBlocks.Text

/-!
The form of a word on the command line, before its meaning is known.
-/
namespace DocBlocks

/-- A word with one dash names letters, one with two dashes a long name and
perhaps a value after an equals sign. A lone dash is a word like any other. -/
inductive Word
  | separator
  | long (name : List Char) (value : Option (List Char))
  | short (letters : List Char)
  | plain
  deriving DecidableEq

namespace Word

/-- The text before the first equals sign, and the text after it. -/
def splitValue : List Char → List Char × Option (List Char)
  | [] => ([], none)
  | c :: rest =>
      if c = '=' then ([], some rest)
      else
        let (name, value) := splitValue rest
        (c :: name, value)

def ofChars : List Char → Word
  | ['-', '-'] => .separator
  | '-' :: '-' :: rest =>
      let (name, value) := splitValue rest
      .long name value
  | ['-'] => .plain
  | '-' :: letters => .short letters
  | _ => .plain

/-- What is left of a cluster of letters after one that takes a value is that
value, with an equals sign before it or without. -/
def attached? : List Char → Option (List Char)
  | [] => none
  | '=' :: value => some value
  | value => some value

end Word
end DocBlocks

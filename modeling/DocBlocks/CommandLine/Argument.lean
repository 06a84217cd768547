/-!
The arguments of the command line and the ways to name them.
-/
namespace DocBlocks

inductive Argument
  | source
  | output
  | tag
  | check
  | verbose
  | help
  | version
  deriving DecidableEq

namespace Argument

def takesValue : Argument → Bool
  | .source | .output | .tag => true
  | .check | .verbose | .help | .version => false

def ofLong? (name : List Char) : Option Argument :=
  if name = "output".toList then some .output
  else if name = "tag".toList then some .tag
  else if name = "check".toList then some .check
  else if name = "verbose".toList then some .verbose
  else if name = "help".toList then some .help
  else if name = "version".toList then some .version
  else none

def ofShort? (letter : Char) : Option Argument :=
  if letter = 'o' then some .output
  else if letter = 't' then some .tag
  else if letter = 'v' then some .verbose
  else if letter = 'h' then some .help
  else if letter = 'V' then some .version
  else none

/-- How a message names it. -/
def label : Argument → String
  | .source => "<SOURCE_FILE>"
  | .output => "--output <FILE>"
  | .tag => "--tag <WORD>"
  | .check => "--check"
  | .verbose => "--verbose"
  | .help => "--help"
  | .version => "--version"

/-- A path has at least one character; a tag is judged later. -/
def admitsEmpty : Argument → Bool
  | .tag => true
  | _ => false

end Argument
end DocBlocks

import DocBlocks.CommandLine.Argument
import DocBlocks.Text.Plain

/-!
What the program says about its use, and why a command line is refused.
-/
namespace DocBlocks

inductive UsageError
  | sourceRequired
  | unexpected (word : String)
  | valueRequired (argument : Argument)
  | repeated (argument : Argument)
  | valueUnwanted (value : String) (argument : Argument)
  deriving DecidableEq

namespace UsageError

/-- A part of a message between apostrophes, in a colour for a terminal. The end
of the colour also ends an escape sequence that the part leaves open. -/
def marked (part : String) : String := "'\x1b[33m" ++ part ++ "\x1b[0m'"

/-- What a terminal is told. -/
def message : UsageError → String
  | .sourceRequired =>
      "the following required arguments were not provided:\n  " ++ Argument.source.label
  | .unexpected word => "unexpected argument " ++ marked word ++ " found"
  | .valueRequired argument =>
      "a value is required for " ++ marked argument.label ++ " but none was supplied"
  | .repeated argument =>
      "the argument " ++ marked argument.label ++ " cannot be used multiple times"
  | .valueUnwanted value argument =>
      "unexpected value " ++ marked value ++ " for " ++ marked argument.label ++
        " found; no more were expected"

end UsageError

/-- Why a command line leads to no run. -/
inductive Refusal
  | help
  | version
  | misuse (error : UsageError)
  deriving DecidableEq

namespace Usage

def help : String :=
  "Generates a Markdown API reference from JSON descriptors embedded in source comments\n" ++
  "\n" ++
  "Usage: jsondoc-md [OPTIONS] <SOURCE_FILE>\n" ++
  "\n" ++
  "Arguments:\n" ++
  "  <SOURCE_FILE>  Source file containing descriptor comments\n" ++
  "\n" ++
  "Options:\n" ++
  "  -o, --output <FILE>  Output file path (if not specified, outputs to stdout)\n" ++
  "  -t, --tag <WORD>     Tag word that follows the comment opener of a descriptor " ++
    "[default: jsondoc]\n" ++
  "      --check          Only validate the descriptors; write no Markdown\n" ++
  "  -v, --verbose        Enable verbose output\n" ++
  "  -h, --help           Print help\n" ++
  "  -V, --version        Print version\n"

def version : String := "jsondoc-md 0.1.0\n"

def misuse (error : UsageError) : String :=
  Text.plain ("error: " ++ error.message ++ "\n\nFor more information, try '--help'.\n")

end Usage
end DocBlocks

import DocBlocks.Text.Quoted

/-!
The settings of a run.
-/
namespace DocBlocks

structure Options where
  source : String
  output : Option String
  tag : String
  checkOnly : Bool
  verbose : Bool
  deriving DecidableEq

namespace Options

def defaultTag : String := "jsondoc"

/-- The settings as one line of a log. -/
def describe (options : Options) : String :=
  "CliArgs \x7b source_path: " ++ Text.quoted options.source ++
    ", output_path: " ++
    (match options.output with
      | none => "None"
      | some path => "Some(" ++ Text.quoted path ++ ")") ++
    ", tag: " ++ Text.quoted options.tag ++
    ", check: " ++ toString options.checkOnly ++
    ", verbose: " ++ toString options.verbose ++ " \x7d"

end Options
end DocBlocks

import DocBlocks.Reference

/-!
A reference as Markdown: the class with an index of its functions, then a
section for each function.
-/
namespace DocBlocks

namespace Markdown

def indexLine (doc : FunctionDoc) : String :=
  "- [" ++ doc.name ++ "](#" ++ doc.anchor ++ ")\n"

/-- The index is left out when it would be empty. -/
def index (functions : List FunctionDoc) : String :=
  if functions.isEmpty then ""
  else "## Methods\n\n" ++ String.join (functions.map indexLine) ++ "\n---\n\n"

def header (doc : ClassDoc) : String :=
  "# " ++ doc.name ++ "\n\n" ++ doc.description ++ "\n"

def parameter (p : Parameter) : String :=
  "- " ++ p.name ++ "\n\n  type: " ++ p.type ++ "\n\n  " ++ p.text ++ "\n\n"

def returns : Option String → String
  | none => ""
  | some text => "**Returns:** " ++ text ++ "\n\n"

def usage (text : String) : String := "```\n" ++ text ++ "\n```\n\n"

def function (doc : FunctionDoc) : String :=
  "## " ++ doc.signature ++ "\n\n" ++ doc.description ++ "\n\n" ++
    String.join (doc.parameters.map parameter) ++ returns doc.returns ++ usage doc.usage

end Markdown

def Reference.markdown (reference : Reference) : String :=
  (match reference.header with
    | none => ""
    | some doc => Markdown.header doc ++ Markdown.index reference.functions) ++
  String.join (reference.functions.map Markdown.function)

end DocBlocks

import DocBlocks.Text.LowerCase

/-!
What a descriptor documents: a class, or a function with its parameters. A
long text takes precedence over a short one.
-/
namespace DocBlocks

structure Parameter where
  name : String
  type : String
  text : String
  deriving DecidableEq

structure FunctionDoc where
  name : String
  parameters : List Parameter
  text : Option String
  longText : Option String
  returns : Option String
  usage : String
  deriving DecidableEq

structure ClassDoc where
  name : String
  text : Option String
  longText : Option String
  deriving DecidableEq

inductive Entry
  | ofClass (doc : ClassDoc)
  | ofFunction (doc : FunctionDoc)
  deriving DecidableEq

def ClassDoc.description (doc : ClassDoc) : String := (doc.longText.or doc.text).getD ""

namespace FunctionDoc

def description (doc : FunctionDoc) : String := (doc.longText.or doc.text).getD ""

/-- The name and the parameters' names, as in a call. -/
def signature (doc : FunctionDoc) : String :=
  doc.name ++ "(" ++ String.intercalate "," (doc.parameters.map (·.name)) ++ ")"

/-- The name and the parameters' names run together, in lower case. -/
def anchor (doc : FunctionDoc) : String :=
  String.ofList (Text.lowerCase
    (doc.name.toList ++ doc.parameters.flatMap (·.name.toList)))

end FunctionDoc
end DocBlocks

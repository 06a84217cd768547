import DocBlocks.Entry
import DocBlocks.Json.Value
import DocBlocks.Number.Layout
import DocBlocks.Text.Quoted

/-!
From a JSON value to an entry. An object with the key `class` is a class
descriptor, any other value a function descriptor. The members of an object
are taken in ascending order of their keys, the elements of a list in its
order; the first that does not fit is the one reported. Keys without a meaning
are passed over.
-/
namespace DocBlocks

open Json (Value Members)

inductive Wanted
  | text
  | sequence
  | function
  | parameter

/-- Why a value is not an entry. -/
inductive Mismatch
  | missing (field : String)
  | unexpected (found : Value) (wanted : Wanted)
  | tooShort (length : Nat) (wanted : Wanted)
  | tooLong (length : Nat)

namespace Wanted

def message : Wanted → String
  | .text => "a string"
  | .sequence => "a sequence"
  | .function => "struct FunctionEntry"
  | .parameter => "struct Argument"

/-- The number of positions that a list for this has at most. -/
def positions : Wanted → Nat
  | .text | .sequence => 0
  | .function => 6
  | .parameter => 3

end Wanted

namespace Mismatch

/-- Real numbers are positional with a first digit from 0.00001 to 15 places
before the units. -/
def realLayout : Number.Layout := ⟨-5, 15⟩

def describe : Value → String
  | .null => "null"
  | .boolean b => "boolean `" ++ toString b ++ "`"
  | .number (.whole n) => "integer `" ++ toString n ++ "`"
  | .number (.real x) => "floating point `" ++ String.ofList (realLayout.number x) ++ "`"
  | .text s => "string " ++ Text.quoted s
  | .list _ => "sequence"
  | .object _ => "map"

def message : Mismatch → String
  | .missing field => "missing field `" ++ field ++ "`"
  | .unexpected found wanted =>
      "invalid type: " ++ describe found ++ ", expected " ++ wanted.message
  | .tooShort length wanted =>
      "invalid length " ++ toString length ++ ", expected " ++ wanted.message ++
        " with " ++ toString wanted.positions ++ " elements"
  | .tooLong length =>
      "invalid length " ++ toString length ++ ", expected fewer elements in array"

end Mismatch

namespace Decode

abbrev Result (α : Type) := Except Mismatch α

def text : Value → Result String
  | .text s => .ok s
  | other => .error (.unexpected other .text)

def optionalText : Value → Result (Option String)
  | .null => .ok none
  | .text s => .ok (some s)
  | other => .error (.unexpected other .text)

/-- The member with a key, decoded if there is one. -/
def member? {α : Type} (members : Members) (key : String) (decode : Value → Result α) :
    Result (Option α) :=
  match members.get? key with
  | some value => (decode value).map some
  | none => .ok none

/-- The element at a position, decoded if the list is that long. -/
def element? {α : Type} (items : List Value) (position : Nat) (decode : Value → Result α) :
    Result (Option α) :=
  match items[position]? with
  | some value => (decode value).map some
  | none => .ok none

def required {α : Type} (field : String) : Option α → Result α
  | some a => .ok a
  | none => .error (.missing field)

def reached {α : Type} (position : Nat) (wanted : Wanted) : Option α → Result α
  | some a => .ok a
  | none => .error (.tooShort position wanted)

def notLonger (items : List Value) (wanted : Wanted) : Result Unit :=
  if items.length ≤ wanted.positions then .ok () else .error (.tooLong items.length)

def parameterOfMembers (members : Members) : Result Parameter := do
  let name ← member? members "name" text
  let words ← member? members "text" text
  let type ← member? members "vtype" text
  let name ← required "name" name
  let type ← required "vtype" type
  return ⟨name, type, words.getD ""⟩

def parameterOfList (items : List Value) : Result Parameter := do
  let name ← element? items 0 text >>= reached 0 .parameter
  let type ← element? items 1 text >>= reached 1 .parameter
  let words ← element? items 2 text
  notLonger items .parameter
  return ⟨name, type, words.getD ""⟩

def parameter : Value → Result Parameter
  | .object members => parameterOfMembers members
  | .list items => parameterOfList items
  | other => .error (.unexpected other .parameter)

def parameters : Value → Result (List Parameter)
  | .list items => items.mapM parameter
  | other => .error (.unexpected other .sequence)

def functionOfMembers (members : Members) : Result FunctionDoc := do
  let parameters ← member? members "args" parameters
  let usage ← member? members "example" text
  let longText ← member? members "longtext" optionalText
  let name ← member? members "name" text
  let returns ← member? members "return" optionalText
  let words ← member? members "text" optionalText
  let name ← required "name" name
  return ⟨name, parameters.getD [], words.join, longText.join, returns.join, usage.getD ""⟩

def functionOfList (items : List Value) : Result FunctionDoc := do
  let name ← element? items 0 text >>= reached 0 .function
  let parameters ← element? items 1 parameters
  let words ← element? items 2 optionalText
  let longText ← element? items 3 optionalText
  let returns ← element? items 4 optionalText
  let usage ← element? items 5 text
  notLonger items .function
  return ⟨name, parameters.getD [], words.join, longText.join, returns.join, usage.getD ""⟩

def function : Value → Result FunctionDoc
  | .object members => functionOfMembers members
  | .list items => functionOfList items
  | other => .error (.unexpected other .function)

def classOfMembers (members : Members) : Result ClassDoc := do
  let name ← member? members "class" text
  let longText ← member? members "longtext" optionalText
  let words ← member? members "text" optionalText
  let name ← required "class" name
  return ⟨name, words.join, longText.join⟩

/-- Whatever its value is, the key `class` makes an object a class descriptor. -/
def entry : Value → Result Entry
  | .object members =>
      if (Members.get? "class" members).isSome then
        (classOfMembers members).map .ofClass
      else (functionOfMembers members).map .ofFunction
  | other => (function other).map .ofFunction

end Decode
end DocBlocks

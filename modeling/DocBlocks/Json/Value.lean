import DocBlocks.Number.Binary64

/-!
JSON values. An object keeps its members as written; a key that is repeated
has the value that was written last.
-/
namespace DocBlocks.Json

/-- A whole number stays exact as long as it fits 64 bits. -/
inductive Numeral
  | whole (n : Int)
  | real (x : Number.Binary64)

inductive Value
  | null
  | boolean (b : Bool)
  | number (n : Numeral)
  | text (s : String)
  | list (items : List Value)
  | object (members : List (String × Value))

abbrev Members := List (String × Value)

def Members.get? (key : String) : Members → Option Value
  | [] => none
  | (k, v) :: later => (Members.get? key later).or (if k = key then some v else none)

end DocBlocks.Json

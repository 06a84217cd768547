/-!
A set of characters written as its inversion list: the ascending code points
at which membership changes. Below the first of them nothing is a member, and
a list of odd length never closes its last stretch.
-/
namespace DocBlocks.Text

structure InversionList where
  changes : List Nat

namespace InversionList

/-- Every change at or below `n` turns the answer over, and those above are not reached. -/
def containsFrom (n : Nat) : List Nat → Bool
  | [] => false
  | first :: later => if n < first then false else !containsFrom n later

def contains (set : InversionList) (c : Char) : Bool :=
  containsFrom c.toNat set.changes

end InversionList
end DocBlocks.Text

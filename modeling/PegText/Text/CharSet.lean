/-!
Sets of characters as inversion lists: the code points, in order, at which membership changes.
-/

namespace PegText

structure CharSet where
  changes : List Nat

namespace CharSet

def inSome (code : Nat) (inside : Bool) : List Nat → Bool
  | [] => inside
  | change :: rest => if code < change then inside else inSome code (!inside) rest

def contains (set : CharSet) (c : Char) : Bool := inSome c.toNat false set.changes

end CharSet

end PegText

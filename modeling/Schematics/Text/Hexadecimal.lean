namespace Schematics

namespace Text

def hexDigit? (x : Char) : Option Nat :=
  if x.isDigit then some (x.toNat - '0'.toNat)
  else if 'a' ≤ x ∧ x ≤ 'f' then some (x.toNat - 'a'.toNat + 10)
  else if 'A' ≤ x ∧ x ≤ 'F' then some (x.toNat - 'A'.toNat + 10)
  else none

def hexValue? (xs : List Char) : Option Nat :=
  xs.foldlM (fun n x => (hexDigit? x).map (16 * n + ·)) 0

end Text

end Schematics

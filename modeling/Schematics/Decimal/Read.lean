namespace Schematics

namespace Decimal

def value (digits : List Char) : Nat :=
  digits.foldl (fun n c => 10 * n + (c.toNat - '0'.toNat)) 0

def splitSign : List Char → Bool × List Char
  | '-' :: rest => (true, rest)
  | '+' :: rest => (false, rest)
  | cs => (false, cs)

def readInt? (text : String) : Option Int :=
  let (negative, digits) := splitSign text.toList
  if digits.isEmpty || !digits.all Char.isDigit then none
  else some (if negative then -value digits else value digits)

def toInt64? (i : Int) : Option Int64 :=
  if Int64.minValue.toInt ≤ i ∧ i ≤ Int64.maxValue.toInt then some (.ofInt i) else none

def readInt64? (text : String) : Option Int64 := (readInt? text).bind toInt64?

def digitCount (n : Nat) : Nat := (Nat.toDigits 10 n).length

/--
The double nearest to `significand * 10 ^ exponent`. Numbers whose first digit stands far above or
below all doubles are not worked out.
-/
def toFloat (significand : Nat) (exponent : Int) : Float :=
  let lead := digitCount significand + exponent
  if significand = 0 ∨ lead < -340 then 0.0
  else if 320 < lead then 1.0 / 0.0
  else .ofScientific significand (exponent < 0) exponent.natAbs

def readExponent? : List Char → Option Int
  | [] => some 0
  | mark :: rest =>
    let (negative, digits) := splitSign rest
    if (mark = 'e' ∨ mark = 'E') ∧ digits ≠ [] ∧ digits.all Char.isDigit then
      some (if negative then -value digits else value digits)
    else none

def readMagnitude? (cs : List Char) : Option Float :=
  let whole := cs.takeWhile Char.isDigit
  let (fraction, rest) :=
    match cs.dropWhile Char.isDigit with
    | '.' :: rest => (rest.takeWhile Char.isDigit, rest.dropWhile Char.isDigit)
    | rest => ([], rest)
  if whole.isEmpty && fraction.isEmpty then none
  else (readExponent? rest).map fun e => toFloat (value (whole ++ fraction)) (e - fraction.length)

def readReal? (text : String) : Option Float :=
  let (negative, cs) := splitSign text.toList
  ((readMagnitude? cs).map fun x => if negative then -x else x).filter Float.isFinite

end Decimal

end Schematics

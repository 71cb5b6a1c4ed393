import Schematics.Json
import Schematics.Json.Cursor

/-!
Numbers in documents. An integer that fits 64 bits is kept; every other number becomes a double, by
a quick rule that need not give the nearest one: as many leading digits as fit 64 bits are
multiplied by, or divided by, a power of ten, and both steps round.
-/

namespace Schematics

namespace Json

def maxSignificand : Nat := UInt64.size - 1

def maxExponent : Nat := Int32.maxValue.toInt.toNat

def gather (limit : Nat) (n : Nat) : List Char → Nat × Nat
  | [] => (n, 0)
  | d :: rest =>
    let next := 10 * n + (d.toNat - '0'.toNat)
    if next ≤ limit then gather limit next rest else (n, rest.length + 1)

def powerOfTen (n : Nat) : Float := .ofScientific 1 false n

def divideByPower : Nat → Float → Nat → Float
  | 0, x, _ => x
  | steps + 1, x, n =>
    if n ≤ 308 then x / powerOfTen n
    else if x == 0.0 then x
    else divideByPower steps (x / powerOfTen 308) (n - 308)

/-- The double taken for `significand * 10 ^ exponent`, if it is finite. -/
def scale? (significand : Nat) (exponent : Int) : Option Float :=
  let x := significand.toUInt64.toFloat
  if exponent < 0 then some (divideByPower 4 x exponent.natAbs)
  else if 308 < exponent then if x == 0.0 then some x else none
  else
    let y := x * powerOfTen exponent.natAbs
    if y.isInf then none else some y

def scaled (c : Cursor) (negative : Bool) (significand : Nat) (exponent : Int) :
    Except Error (Json × Cursor) :=
  match scale? significand exponent with
  | some x => .ok (.real (if negative then -x else x), c)
  | none => .error (c.here .numberOutOfRange)

def clampExponent (e : Int) : Int := max Int32.minValue.toInt (min e Int32.maxValue.toInt)

def exponent (c : Cursor) (negative : Bool) (significand : Nat) (start : Int) :
    Except Error (Json × Cursor) :=
  let (down, c) :=
    match c.rest with
    | '-' :: _ => (true, c.skip 1)
    | '+' :: _ => (false, c.skip 1)
    | _ => (false, c)
  let digits := c.rest.takeWhile Char.isDigit
  if digits.isEmpty then .error (c.aheadOr .endInValue .invalidNumber)
  else
    let (e, left) := gather maxExponent 0 digits
    let behind := c.skip digits.length
    if left = 0 then
      scaled behind negative significand (clampExponent (if down then start - e else start + e))
    else if significand = 0 ∨ down then .ok (.real (if negative then -0.0 else 0.0), behind)
    else .error ((c.skip (digits.length - left + 1)).here .numberOutOfRange)

def exponentOrEnd (c : Cursor) (negative : Bool) (significand : Nat) (start : Int) :
    Except Error (Json × Cursor) :=
  match c.rest with
  | 'e' :: _ | 'E' :: _ => exponent (c.skip 1) negative significand start
  | _ => scaled c negative significand start

def fraction (c : Cursor) (negative : Bool) (significand : Nat) (start : Int) :
    Except Error (Json × Cursor) :=
  let digits := c.rest.takeWhile Char.isDigit
  if digits.isEmpty then .error (c.aheadOr .endInValue .invalidNumber)
  else
    let (n, left) := gather maxSignificand significand digits
    exponentOrEnd (c.skip digits.length) negative n (start - (digits.length - left : Nat))

def integer (negative : Bool) (n : Nat) : Json :=
  if !negative then .int n
  else if n = 0 ∨ Int64.maxValue.toInt + 1 < n then .real (-n.toUInt64.toFloat)
  else .int (-n)

def numberEnd (c : Cursor) (negative : Bool) (n left : Nat) : Except Error (Json × Cursor) :=
  match c.rest with
  | '.' :: _ => fraction (c.skip 1) negative n left
  | 'e' :: _ | 'E' :: _ => exponent (c.skip 1) negative n left
  | _ => if left = 0 then .ok (integer negative n, c) else scaled c negative n left

def number (c : Cursor) : Except Error (Json × Cursor) :=
  let (negative, c) :=
    match c.rest with
    | '-' :: _ => (true, c.skip 1)
    | _ => (false, c)
  let digits := c.rest.takeWhile Char.isDigit
  match digits with
  | [] => .error (c.aheadOr .endInValue .invalidNumber)
  | '0' :: _ :: _ => .error ((c.skip 1).ahead .invalidNumber)
  | _ =>
    let (n, left) := gather maxSignificand 0 digits
    numberEnd (c.skip digits.length) negative n left

end Json

end Schematics

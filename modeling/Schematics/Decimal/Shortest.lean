/-!
The fewest decimal digits that read back to a double. A decimal reads back when it lies between the
midpoints to the two neighbouring doubles; of the grids of powers of ten, the coarsest that has
such a point next to the value decides.
-/

namespace Schematics

structure Binary where
  significand : Nat
  exponent : Int
  narrowBelow : Bool

structure Decimal where
  digits : List Char
  lead : Int
  deriving DecidableEq, Repr

inductive Tie where
  | toEven
  | up
  deriving DecidableEq, Repr

namespace Binary

def ofBits (bits : UInt64) : Binary :=
  let e := ((bits >>> 52) &&& 0x7FF).toNat
  let f := (bits &&& 0xFFFFFFFFFFFFF).toNat
  if e = 0 then ⟨f, -1074, false⟩ else ⟨0x10000000000000 + f, e - 1075, f = 0 && 1 < e⟩

def unit (b : Binary) (e : Int) : Nat × Nat :=
  (Nat.pow 2 b.exponent.toNat * Nat.pow 10 (-e).toNat,
    Nat.pow 2 (-b.exponent).toNat * Nat.pow 10 e.toNat)

/-- Whether `c * 10 ^ e` reads back. The midpoints do exactly when the significand is even. -/
def readsBack (b : Binary) (e : Int) (c : Nat) : Bool :=
  let (p, r) := b.unit e
  let low := (4 * b.significand - if b.narrowBelow then 1 else 2) * p
  let high := (4 * b.significand + 2) * p
  let x := 4 * c * r
  if b.significand % 2 = 0 then low ≤ x && x ≤ high else low < x && x < high

def nearest? (b : Binary) (tie : Tie) (e : Int) : Option Nat :=
  let (p, r) := b.unit e
  let x := b.significand * p
  let c := x / r
  match b.readsBack e c, b.readsBack e (c + 1) with
  | false, false => none
  | true, false => some c
  | false, true => some (c + 1)
  | true, true =>
    match compare (2 * x) ((2 * c + 1) * r) with
    | .lt => some c
    | .gt => some (c + 1)
    | .eq => some (match tie with | .up => c + 1 | .toEven => c + c % 2)

def bound (b : Binary) : Int := (b.significand.log2 + b.exponent + 1) * 30103 / 100000 + 2

def exact (b : Binary) : Nat × Int :=
  if 0 ≤ b.exponent then (b.significand * Nat.pow 2 b.exponent.toNat, 0)
  else (b.significand * Nat.pow 5 (-b.exponent).toNat, b.exponent)

end Binary

namespace Decimal

def ofNat (c : Nat) (e : Int) : Decimal :=
  let digits := Nat.toDigits 10 c
  ⟨(digits.reverse.dropWhile (· == '0')).reverse, e + digits.length - 1⟩

def shortest (tie : Tie) (b : Binary) : Decimal :=
  let found := (List.range 24).findSome? fun (k : Nat) =>
    let e := b.bound - k
    (b.nearest? tie e).map (·, e)
  let (c, e) := found.getD b.exact
  ofNat c e

end Decimal

end Schematics

import Schematics.Decimal.Shortest

namespace Schematics

structure Layout where
  plainFrom : Int
  plainBelow : Int
  plusSign : Bool
  tie : Tie

namespace Layout

def plain (d : Decimal) : String :=
  if d.lead < 0 then
    String.ofList ('0' :: '.' :: (List.replicate (-d.lead - 1).toNat '0' ++ d.digits))
  else
    let k := d.lead.toNat + 1
    let whole := d.digits.take k ++ List.replicate (k - d.digits.length) '0'
    let fraction := if d.digits.length ≤ k then ['0'] else d.digits.drop k
    String.ofList (whole ++ '.' :: fraction)

def scientific (l : Layout) (d : Decimal) : String :=
  let fraction := if d.digits.length ≤ 1 then [] else '.' :: d.digits.drop 1
  let sign := if d.lead < 0 then "-" else if l.plusSign then "+" else ""
  s!"{String.ofList (d.digits.take 1 ++ fraction)}e{sign}{d.lead.natAbs}"

def decimal (l : Layout) (d : Decimal) : String :=
  if l.plainFrom ≤ d.lead ∧ d.lead < l.plainBelow then plain d else l.scientific d

def isNegative (x : Float) : Bool := x.toBits >>> 63 = 1

def write (l : Layout) (x : Float) : String :=
  if x.isNaN then "NaN"
  else
    let sign := if isNegative x then "-" else ""
    if x.isInf then sign ++ "inf"
    else
      let b := Binary.ofBits x.toBits
      sign ++ if b.significand = 0 then "0.0" else l.decimal (.shortest l.tie b)

end Layout

def Layout.listing : Layout where
  plainFrom := -4
  plainBelow := 16
  plusSign := false
  tie := .up

def Layout.document : Layout where
  plainFrom := -5
  plainBelow := 16
  plusSign := true
  tie := .toEven

end Schematics

import Schematics.Decimal.Read
import Schematics.Toml
import Schematics.Toml.Parser

namespace Schematics

namespace Toml

namespace Parser

def numeral (width low high : Nat) : Parser Nat := do
  let ds ← times width (satisfy Char.isDigit)
  let n := Decimal.value ds
  guard (low ≤ n ∧ n ≤ high)
  pure n

def isLeap (year : Nat) : Bool := year % 4 = 0 && (year % 100 ≠ 0 || year % 400 = 0)

def daysIn (year month : Nat) : Nat :=
  if month = 2 then if isLeap year then 29 else 28
  else if month = 4 ∨ month = 6 ∨ month = 9 ∨ month = 11 then 30
  else 31

def day : Parser Unit := do
  let year ← numeral 4 0 9999
  char '-'
  let month ← numeral 2 1 12
  char '-'
  discard (numeral 2 1 (daysIn year month))

def clock : Parser Unit := do
  discard (numeral 2 0 23)
  char ':'
  discard (numeral 2 0 59)

def time : Parser Unit := do
  clock
  char ':'
  discard (numeral 2 0 60)
  discard (optional do
    char '.'
    guard ((← run Char.isDigit) ≠ []))

def zone : Parser Unit :=
  char 'Z' <|> char 'z' <|> (do
    discard (satisfy fun c => c = '+' || c = '-')
    clock)

def dayAndTime : Parser Unit := do
  day
  discard (optional do
    discard (satisfy fun c => c = 'T' || c = 't' || c = ' ')
    time
    discard (optional zone))

def taken (p : Parser Unit) : Parser String := fun cs =>
  (p cs).map fun r => (.ofList (cs.take (cs.length - r.2.length)), r.2)

def moment : Parser Toml := .moment <$> taken (dayAndTime <|> time)

end Parser

end Toml

end Schematics

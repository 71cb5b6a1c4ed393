import Schematics.Decimal.Read
import Schematics.Toml
import Schematics.Toml.Text

namespace Schematics

namespace Toml

namespace Parser

def digits (isDigit : Char → Bool) : Parser (List Char) := do
  let first ← satisfy isDigit
  pure (first :: (← many (satisfy isDigit <|> char '_' *> satisfy isDigit)))

def sign : Parser Bool := do
  match ← optional (satisfy fun c => c = '-' || c = '+') with
  | some c => pure (c = '-')
  | none => pure false

def whole : Parser (List Char) := do
  let ds ← digits Char.isDigit
  guard (ds.head? ≠ some '0' ∨ ds.length = 1)
  pure ds

def fits (i : Int) : Parser Toml := .integer <$> (Decimal.toInt64? i).getM

def decimalInteger : Parser Toml := do
  let negative ← sign
  let n := Decimal.value (← whole)
  fits (if negative then -n else n)

def integerIn (base : Nat) (mark : String) : Parser Toml := do
  word mark
  let ds ← digits fun c => (Text.hexDigit? c).any (· < base)
  fits (ds.foldl (fun n c => base * n + (Text.hexDigit? c).getD 0) 0 : Nat)

def integer : Parser Toml :=
  integerIn 16 "0x" <|> integerIn 8 "0o" <|> integerIn 2 "0b" <|> decimalInteger

def exponent : Parser Int := do
  discard (satisfy fun c => c = 'e' || c = 'E')
  let negative ← sign
  let n := Decimal.value (← digits Char.isDigit)
  pure (if negative then -n else n)

def fraction : Parser (List Char × Int) :=
  (do
    char '.'
    let ds ← digits Char.isDigit
    pure (ds, (← optional exponent).getD 0)) <|>
  (do
    pure ([], ← exponent))

def finiteReal : Parser Toml := do
  let negative ← sign
  let high ← whole
  let (low, e) ← fraction
  let x := Decimal.toFloat (Decimal.value (high ++ low)) (e - low.length)
  guard (negative || x.isFinite)
  pure (.real (if negative then -x else x))

def specialReal : Parser Toml := do
  let negative ← sign
  let x : Float ← (do word "inf"; pure (1.0 / 0.0)) <|> (do word "nan"; pure (0.0 / 0.0))
  pure (.real (if negative then -x else x))

def real : Parser Toml := finiteReal <|> specialReal

end Parser

end Toml

end Schematics

import Schematics.Toml.Moment
import Schematics.Toml.Number
import Schematics.Toml.Table

namespace Schematics

namespace Toml

structure Assignment where
  path : List String
  key : String
  value : Toml

namespace Parser

def boolean : Parser Toml :=
  (do word "true"; pure (.boolean true)) <|> (do word "false"; pure (.boolean false))

def scalar : Parser Toml := .string <$> text <|> boolean <|> moment <|> real <|> integer

def padded (element : Parser Toml) : Parser Toml := do
  blankLines
  let v ← element
  blankLines
  pure v

def array (element : Parser Toml) : Parser Toml := do
  char '['
  let items ← optional do
    let items ← separated (char ',') (padded element)
    discard (optional (char ','))
    pure items
  blankLines
  char ']'
  pure (.array (items.getD []))

def assignment (element : Parser Toml) : Parser Assignment := do
  let (path, k) ← key
  char '='
  spaces
  pure ⟨path, k, ← element⟩

def inlineTable (element : Parser Toml) : Parser Toml := do
  char '\x7b'
  let given ← optional (separated (char ',') (assignment element <* spaces))
  spaces
  char '\x7d'
  let entries ← (given.getD []).foldlM (fun es a => Entries.insert [] a.path a.key a.value es) []
  pure (.table (finish entries))

def value : Nat → Parser Toml
  | 0 => scalar
  | depth + 1 => scalar <|> array (value depth) <|> inlineTable (value depth)

end Parser

end Toml

end Schematics

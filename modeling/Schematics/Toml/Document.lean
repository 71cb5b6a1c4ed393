import Schematics.Toml.Value

namespace Schematics

namespace Toml

inductive Line where
  | blank
  | table (path : List String) (key : String)
  | element (path : List String) (key : String)
  | assignment (a : Assignment)

namespace Parser

def tableHeader : Parser Line := do
  char '['
  let (path, k) ← key
  char ']'
  pure (.table path k)

def elementHeader : Parser Line := do
  word "[["
  let (path, k) ← key
  word "]]"
  pure (.element path k)

def content : Parser Line := do
  spaces
  elementHeader <|> tableHeader <|> .assignment <$> assignment (value maxDepth) <|> pure .blank

def fullLine : Parser Line := do
  guard (!(← get).isEmpty)
  content <* lineEnd

def lines : Parser (List Line) := do
  discard (optional (char '\ufeff'))
  many fullLine <* endOfText

end Parser

structure Draft where
  root : Entries := []
  header : List String := []

def Draft.take (d : Draft) : Line → Option Draft
  | .blank => some d
  | .table path k => (fun root => ⟨root, path ++ [k]⟩) <$> d.root.openTable path k
  | .element path k => (fun root => ⟨root, path ++ [k]⟩) <$> d.root.openElement path k
  | .assignment a => (fun root => { d with root }) <$> d.root.insert d.header a.path a.key a.value

def parse? (text : String) : Option (List (String × Toml)) := do
  let (found, _) ← Parser.lines text.toList
  let d ← found.foldlM Draft.take {}
  pure (finish d.root)

end Toml

end Schematics

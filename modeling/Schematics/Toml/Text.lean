import Schematics.Text.Hexadecimal
import Schematics.Toml.Parser

namespace Schematics

namespace Toml

namespace Parser

def quote : Char := '"'

def apostrophe : Char := '\x27'

def codePoint (n : Nat) : Parser Char := do
  let digits ← times n (satisfy fun _ => true)
  let code ← (Text.hexValue? digits).getM
  guard code.isValidChar
  pure (.ofNat code)

def escape : Parser Char := do
  char '\\'
  match ← satisfy fun _ => true with
  | 'b' => pure '\x08'
  | 't' => pure '\t'
  | 'n' => pure '\n'
  | 'f' => pure '\x0c'
  | 'r' => pure '\r'
  | '"' => pure '"'
  | '\\' => pure '\\'
  | 'u' => codePoint 4
  | 'U' => codePoint 8
  | _ => failure

def unescaped : Parser Char := satisfy fun c => isPlain c && c ≠ quote && c ≠ '\\'

def literal : Parser Char := satisfy fun c => isPlain c && c ≠ apostrophe

def enclosed (mark : Char) (content : Parser Char) : Parser String := do
  char mark
  let text ← many content
  char mark
  pure (.ofList text)

def basicLine : Parser String := enclosed quote (unescaped <|> escape)

def literalLine : Parser String := enclosed apostrophe literal

def single (p : Parser Char) : Parser (List Char) := (fun c => [c]) <$> p

def lineFeed : Parser (List Char) := do
  newline
  pure ['\n']

def joint : Parser (List Char) := do
  char '\\'
  spaces
  newline
  discard (many (discard (satisfy isSpace) <|> newline))
  pure []

def marksWithin (mark : Char) : Parser (List Char) := do
  let marks ← run (· = mark)
  guard (0 < marks.length ∧ marks.length < 3)
  pure marks

def marksAtEnd (mark : Char) : Parser (List Char) := do
  let marks ← run (· = mark)
  guard (3 ≤ marks.length ∧ marks.length ≤ 5)
  pure (marks.drop 3)

def enclosedLines (mark : Char) (content : Parser (List Char)) : Parser String := do
  char mark
  char mark
  char mark
  discard (optional newline)
  let pieces ← many (content <|> lineFeed <|> marksWithin mark)
  pure (.ofList (pieces.flatten ++ (← marksAtEnd mark)))

def basicLines : Parser String := enclosedLines quote (single unescaped <|> joint <|> single escape)

def literalLines : Parser String := enclosedLines apostrophe (single literal)

def text : Parser String := basicLines <|> basicLine <|> literalLines <|> literalLine

def isBare (c : Char) : Bool := c.isAlphanum || c = '_' || c = '-'

def bareKey : Parser String := do
  let letters ← run isBare
  guard (letters ≠ [])
  pure (.ofList letters)

def simpleKey : Parser String := do
  spaces
  let k ← basicLine <|> literalLine <|> bareKey
  spaces
  pure k

def maxDepth : Nat := 79

def key : Parser (List String × String) := do
  let keys ← separated (char '.') simpleKey
  guard (keys.length ≤ maxDepth)
  match keys.getLast? with
  | some last => pure (keys.dropLast, last)
  | none => failure

end Parser

end Toml

end Schematics

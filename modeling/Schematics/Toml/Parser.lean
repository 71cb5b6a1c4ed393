namespace Schematics

namespace Toml

abbrev Parser := StateT (List Char) Option

namespace Parser

variable {α : Type}

def satisfy (p : Char → Bool) : Parser Char := fun cs =>
  match cs with
  | [] => none
  | c :: rest => if p c then some (c, rest) else none

def char (c : Char) : Parser Unit := discard (satisfy (· = c))

def word (w : String) : Parser Unit := w.toList.forM char

def run (p : Char → Bool) : Parser (List Char) := fun cs => some (cs.span p)

def optional (p : Parser α) : Parser (Option α) := some <$> p <|> pure none

def times : Nat → Parser α → Parser (List α)
  | 0, _ => pure []
  | n + 1, p => do
    let a ← p
    pure (a :: (← times n p))

def manyUpTo (p : Parser α) : Nat → Parser (List α)
  | 0 => pure []
  | n + 1 => (do
      let a ← p
      pure (a :: (← manyUpTo p n))) <|> pure []

def many (p : Parser α) : Parser (List α) := fun cs => manyUpTo p cs.length cs

def separated (separator : Parser Unit) (p : Parser α) : Parser (List α) := do
  let first ← p
  pure (first :: (← many (separator *> p)))

def endOfText : Parser Unit := fun cs => if cs.isEmpty then some ((), cs) else none

def isSpace (c : Char) : Bool := c = ' ' || c = '\t'

def isPlain (c : Char) : Bool := c = '\t' || (' ' ≤ c && c ≠ '\x7f')

def spaces : Parser Unit := discard (run isSpace)

def newline : Parser Unit := char '\n' <|> word "\r\n"

def comment : Parser Unit := do
  char '#'
  discard (run isPlain)

def lineEnd : Parser Unit := do
  spaces
  discard (optional comment)
  newline <|> endOfText

def blankLines : Parser Unit := do
  spaces
  discard (many (do
    discard (optional comment)
    newline
    spaces))

end Parser

end Toml

end Schematics

namespace Schematics

namespace Json

structure Position where
  line : Nat := 1
  column : Nat := 0
  deriving DecidableEq, Repr

inductive Reason where
  | endInValue
  | endInList
  | endInObject
  | endInString
  | noValue
  | noIdentifier
  | noListSeparator
  | noObjectSeparator
  | noColon
  | trailingComma
  | keyNotString
  | trailingCharacters
  | invalidNumber
  | numberOutOfRange
  | controlCharacter
  | invalidEscape
  | loneSurrogate
  | endOfPair
  | tooDeep
  deriving DecidableEq, Repr

def Reason.text : Reason → String
  | .endInValue => "EOF while parsing a value"
  | .endInList => "EOF while parsing a list"
  | .endInObject => "EOF while parsing an object"
  | .endInString => "EOF while parsing a string"
  | .noValue => "expected value"
  | .noIdentifier => "expected ident"
  | .noListSeparator => "expected `,` or `]`"
  | .noObjectSeparator => "expected `,` or `\x7d`"
  | .noColon => "expected `:`"
  | .trailingComma => "trailing comma"
  | .keyNotString => "key must be a string"
  | .trailingCharacters => "trailing characters"
  | .invalidNumber => "invalid number"
  | .numberOutOfRange => "number out of range"
  | .controlCharacter =>
    "control character (\\u0000-\\u001F) found while parsing a string"
  | .invalidEscape => "invalid escape"
  | .loneSurrogate => "lone leading surrogate in hex escape"
  | .endOfPair => "unexpected end of hex escape"
  | .tooDeep => "recursion limit exceeded"

structure Error where
  reason : Reason
  position : Position
  deriving DecidableEq, Repr

def Error.message (e : Error) : String :=
  s!"{e.reason.text} at line {e.position.line} column {e.position.column}"

def Position.afterBytes (p : Position) (c : Char) (n : Nat) : Position :=
  if c = '\n' then ⟨p.line + 1, 0⟩ else ⟨p.line, p.column + min n c.utf8Size⟩

def Position.after (p : Position) (c : Char) : Position := p.afterBytes c c.utf8Size

def Position.right (p : Position) (n : Nat) : Position := ⟨p.line, p.column + n⟩

structure Cursor where
  rest : List Char
  position : Position := {}

namespace Cursor

def here (c : Cursor) (r : Reason) : Error := ⟨r, c.position⟩

def ahead (c : Cursor) (r : Reason) : Error :=
  match c.rest with
  | [] => c.here r
  | x :: _ => ⟨r, c.position.afterBytes x 1⟩

def aheadOr (c : Cursor) (atEnd r : Reason) : Error :=
  if c.rest.isEmpty then c.here atEnd else c.ahead r

def skip (c : Cursor) (n : Nat) : Cursor := ⟨c.rest.drop n, c.position.right n⟩

def isBlank (x : Char) : Bool := x = ' ' || x = '\t' || x = '\n' || x = '\r'

def skipBlankFrom : List Char → Position → Cursor
  | [], p => ⟨[], p⟩
  | x :: rest, p => if isBlank x then skipBlankFrom rest (p.after x) else ⟨x :: rest, p⟩

def skipBlank (c : Cursor) : Cursor := skipBlankFrom c.rest c.position

def bytesOn? (n : Nat) : List Char → Position → Option Position
  | [], p => if n = 0 then some p else none
  | x :: rest, p =>
    if n = 0 then some p
    else bytesOn? (n - x.utf8Size) rest (p.afterBytes x n)

def endOf : List Char → Position → Position
  | [], p => p
  | x :: rest, p => endOf rest (p.after x)

end Cursor

end Json

end Schematics

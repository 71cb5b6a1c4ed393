namespace Schematics

inductive Severity where
  | note
  | warning
  | error
  deriving DecidableEq, Repr

namespace Severity

def text : Severity → String
  | .note => "note"
  | .warning => "warning"
  | .error => "error"

def rank : Severity → Nat
  | .note => 0
  | .warning => 1
  | .error => 2

instance : LT Severity := ⟨fun a b => a.rank < b.rank⟩

instance (a b : Severity) : Decidable (a < b) := inferInstanceAs (Decidable (a.rank < b.rank))

def isError (s : Severity) : Bool := s = .error

end Severity

inductive CodeCategory where
  | error
  | warning
  | note
  deriving DecidableEq, Repr

namespace CodeCategory

def letter : CodeCategory → String
  | .error => "E"
  | .warning => "W"
  | .note => "N"

def name : CodeCategory → String
  | .error => "Error"
  | .warning => "Warning"
  | .note => "Note"

end CodeCategory

structure Code where
  category : CodeCategory
  number : Nat
  deriving DecidableEq, Repr

def Code.text (c : Code) : String :=
  let digits := Nat.toDigits 10 c.number
  c.category.letter ++ String.ofList (List.replicate (3 - digits.length) '0' ++ digits)

structure Diagnostic where
  severity : Severity
  code : Code
  message : String
  location : Option String := none
  notes : List String := []
  help : List String := []
  deriving DecidableEq, Repr

namespace Diagnostic

def located (d : Diagnostic) (location : String) : Diagnostic := { d with location := some location }

def withNote (d : Diagnostic) (note : String) : Diagnostic := { d with notes := d.notes ++ [note] }

def withHelp (d : Diagnostic) (help : String) : Diagnostic := { d with help := d.help ++ [help] }

end Diagnostic

structure Verbosity where
  quiet : Bool := false
  verbose : Bool := false
  deriving DecidableEq, Repr

def Diagnostic.isVisible (d : Diagnostic) (v : Verbosity) : Bool :=
  match d.severity with
  | .error => true
  | .warning => !v.quiet
  | .note => v.verbose && !v.quiet

end Schematics

namespace Schematics

inductive SystemError where
  | noPermission
  | noEntry
  | notDirectory
  | isDirectory
  | nameTooLong
  | loopOfLinks
  | other (number : Nat) (details : String)
  deriving DecidableEq, Repr

namespace SystemError

def ofCode (code : UInt32) (details : String) : SystemError :=
  match min code.toNat (UInt32.size - code.toNat) with
  | 2 => .noEntry
  | 13 => .noPermission
  | 20 => .notDirectory
  | 21 => .isDirectory
  | 36 => .nameTooLong
  | 40 => .loopOfLinks
  | number => .other number details

def number : SystemError → Nat
  | .noEntry => 2
  | .noPermission => 13
  | .notDirectory => 20
  | .isDirectory => 21
  | .nameTooLong => 36
  | .loopOfLinks => 40
  | .other number _ => number

def sentence : SystemError → String
  | .noEntry => "No such file or directory"
  | .noPermission => "Permission denied"
  | .notDirectory => "Not a directory"
  | .isDirectory => "Is a directory"
  | .nameTooLong => "File name too long"
  | .loopOfLinks => "Too many levels of symbolic links"
  | .other _ details => details

def message (e : SystemError) : String := s!"{e.sentence} (os error {e.number})"

end SystemError

def notText : String := "stream did not contain valid UTF-8"

end Schematics

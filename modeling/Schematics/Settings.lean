import Schematics.Document.Reader
import Schematics.Text.Alphanumeric
import Schematics.Text.Blank

namespace Schematics

structure Settings where
  name : String
  document : Option String := none
  reading : ReadOptions := {}
  deriving DecidableEq, Repr

inductive SettingsError where
  | unreadable (reason : String)
  | notToml
  | absent (setting : String)
  | wrongKind (setting : String)
  | emptyName
  | emptyDocument
  | ambiguousDelimiter (delimiter : Char)
  deriving DecidableEq, Repr

namespace SettingsError

def malformed (reason : String) : String := s!"malformed manifold.toml: {reason}"

def invalid (reason : String) : String := s!"invalid setting in manifold.toml: {reason}"

def message : SettingsError → String
  | .unreadable reason => s!"cannot read manifold.toml: {reason}"
  | .notToml => malformed "no settings can be read from this text"
  | .absent setting => malformed s!"missing `{setting}`"
  | .wrongKind setting => malformed s!"wrong kind of value for `{setting}`"
  | .emptyName => "manifold.toml is missing `project.name`"
  | .emptyDocument => invalid "project.schematic must not be empty"
  | .ambiguousDelimiter c =>
    invalid s!"endpoint_delimiter `{c}` would be ambiguous inside instance names"

end SettingsError

namespace Settings

def fileName : String := "manifold.toml"

def isAmbiguous (delimiter : Char) : Bool :=
  Text.isBlank delimiter || Text.isAlphanumeric delimiter || delimiter = '_'

def check (s : Settings) : Except SettingsError Settings :=
  if s.name = "" then .error .emptyName
  else if s.document = some "" then .error .emptyDocument
  else if isAmbiguous s.reading.delimiter then .error (.ambiguousDelimiter s.reading.delimiter)
  else .ok s

end Settings

end Schematics

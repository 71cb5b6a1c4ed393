import Schematics.Settings
import Schematics.Toml.Document

namespace Schematics

namespace Settings

abbrev Group := List (String × Toml)

def group (setting : String) (names : List String) : Toml → Except SettingsError Group
  | .table entries => .ok entries
  | .array items => .ok (names.zip items)
  | .moment _ => .ok []
  | _ => .error (.wrongKind setting)

def string (setting : String) : Toml → Except SettingsError String
  | .string s => .ok s
  | _ => .error (.wrongKind setting)

def boolean (setting : String) : Toml → Except SettingsError Bool
  | .boolean b => .ok b
  | _ => .error (.wrongKind setting)

def character (setting : String) (t : Toml) : Except SettingsError Char := do
  match (← string setting t).toList with
  | [c] => pure c
  | _ => throw (.wrongKind setting)

variable {α : Type}

def required (g : Group) (setting : String) (read : String → Toml → Except SettingsError α) :
    Except SettingsError α :=
  match g.lookup setting with
  | some t => read setting t
  | none => .error (.absent setting)

def optional (g : Group) (setting : String) (read : String → Toml → Except SettingsError α) :
    Except SettingsError (Option α) :=
  (g.lookup setting).mapM (read setting)

def readReading (t : Toml) : Except SettingsError ReadOptions := do
  let g ← group "deserialize" ["endpoint_delimiter", "verify", "report_missing_sections"] t
  let default : ReadOptions := {}
  pure
    { delimiter := (← optional g "endpoint_delimiter" character).getD default.delimiter
      verify := (← optional g "verify" boolean).getD default.verify
      reportMissing := (← optional g "report_missing_sections" boolean).getD default.reportMissing }

def read (root : Group) : Except SettingsError Settings := do
  let project ← required root "project" fun setting => group setting ["name", "schematic"]
  let name ← required project "name" string
  let document ← optional project "schematic" string
  let reading ← optional root "deserialize" fun _ => readReading
  pure { name, document, reading := reading.getD {} }

def readText (text : String) : Except SettingsError Settings :=
  match Toml.parse? text with
  | none => .error .notToml
  | some root => do (← read root).check

end Settings

end Schematics

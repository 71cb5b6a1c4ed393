import Schematics.Document.Stage
import Schematics.Diagnostic
import Schematics.Fault
import Schematics.Json.Cursor

namespace Schematics

def Fault.code (f : Fault) : Code :=
  ⟨.error,
    match f with
    | .undeclared .. => 302
    | .undeclaredAttribute .. => 303
    | .typeMismatch .. => 304
    | .multipleDefinition .. => 305
    | .multipleAssignment .. => 306
    | .malformed .. => 307
    | .invalidValue .. => 308
    | .supertypeCycle .. => 309
    | .verification .. => 310
    | .internal .. => 311⟩

namespace Notice

def stageComplete (stage : Stage) (count : Nat) : Diagnostic where
  severity := .note
  code := ⟨.note, 300⟩
  message := s!"deserialized {count} {stage.text}"

def missingSection (stage : Stage) : Diagnostic where
  severity := .note
  code := ⟨.note, 301⟩
  message := s!"section `{stage.key}` is absent; no {stage.text} registered"

def emptyPortAttributes (node port : String) : Diagnostic where
  severity := .warning
  code := ⟨.warning, 300⟩
  message := s!"`portAttrs` entry for port `{port}` supplies no values"
  location := some s!"{Stage.nodes.key}.{node}.portAttrs.{port}"
  help := ["remove the entry"]

end Notice

inductive DocumentError where
  | text (e : Json.Error)
  | layout (message : String)
  | entry (stage : Stage) (name : String) (cause : Fault)
  | verification (cause : Fault)
  | internal (message : String)
  deriving DecidableEq

namespace DocumentError

def message : DocumentError → String
  | .text e => s!"malformed document: {e.message}"
  | .layout message => s!"invalid document: {message}"
  | .entry stage name cause => s!"{stage.text} entry `{name}`: {cause.message}"
  | .verification cause => cause.message
  | .internal message => Fault.internalText message

def cause? : DocumentError → Option Fault
  | .entry _ _ cause => some cause
  | .verification cause => some cause
  | _ => none

def stage? : DocumentError → Option Stage
  | .entry stage _ _ => some stage
  | _ => none

def bugHelp : String := "this is a bug in the schematic registry"

def diagnostic : DocumentError → Diagnostic
  | .text e =>
    { severity := .error, code := ⟨.error, 300⟩, message := s!"malformed document: {e.message}"
      location := some s!"line {e.position.line}, column {e.position.column}" }
  | .layout message => { severity := .error, code := ⟨.error, 301⟩, message }
  | .entry stage name cause =>
    { severity := .error, code := cause.code, message := cause.message
      location := some s!"{stage.key}.{name}"
      notes := [s!"while deserializing {stage.text}"]
      help := if cause.isInternal then [bugHelp] else [] }
  | .verification cause =>
    { severity := .error, code := ⟨.error, 310⟩, message := cause.message }
  | .internal message =>
    { severity := .error, code := ⟨.error, 311⟩, message := Fault.internalText message
      help := [bugHelp] }

end DocumentError

end Schematics

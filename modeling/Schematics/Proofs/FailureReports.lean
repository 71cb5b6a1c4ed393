import Schematics.CommandLine.Outcome

namespace Schematics

inductive Namespace.Called : Namespace → String → Prop
  | type : Called .type "type"
  | userDefinedType : Called .userDefinedType "user-defined type"
  | portType : Called .portType "port type"
  | nodeType : Called .nodeType "node type"
  | connectionType : Called .connectionType "connection type"
  | constraintType : Called .constraintType "constraint type"
  | node : Called .node "node"
  | port : Called .port "port"
  | connection : Called .connection "connection"
  | constraint : Called .constraint "constraint"

inductive Fault.Says : Fault → Nat → String → Prop
  | undeclared {space : Namespace} {noun name : String} (h : space.Called noun) :
    Says (.undeclared space name) 302 s!"undeclared {noun} `{name}`"
  | undeclaredAttribute {name : String} :
    Says (.undeclaredAttribute name) 303 s!"undeclared attribute `{name}`"
  | typeMismatch {context expected found : String} :
    Says (.typeMismatch context expected found) 304
      s!"type mismatch in {context}: expected `{expected}`, found `{found}`"
  | multipleDefinition {name : String} :
    Says (.multipleDefinition name) 305 s!"multiple definition of type `{name}`"
  | multipleAssignment {space : Namespace} {noun name : String} (h : space.Called noun) :
    Says (.multipleAssignment space name) 306 s!"multiple assignment to {noun} `{name}`"
  | malformed {details : String} : Says (.malformed details) 307 s!"syntax error: {details}"
  | invalidValue {name value expected : String} :
    Says (.invalidValue name value expected) 308
      s!"invalid value `{value}` for attribute `{name}`: expected {expected}"
  | supertypeCycle {name : String} :
    Says (.supertypeCycle name) 309 s!"supertype chain of `{name}` does not terminate"
  | verification {details : String} :
    Says (.verification details) 310 s!"verification failed: {details}"
  | internal {details : String} : Says (.internal details) 311 s!"internal compiler error: {details}"

inductive Json.Reason.Says : Json.Reason → String → Prop
  | endInValue : Says .endInValue "EOF while parsing a value"
  | endInList : Says .endInList "EOF while parsing a list"
  | endInObject : Says .endInObject "EOF while parsing an object"
  | endInString : Says .endInString "EOF while parsing a string"
  | noValue : Says .noValue "expected value"
  | noIdentifier : Says .noIdentifier "expected ident"
  | noListSeparator : Says .noListSeparator "expected `,` or `]`"
  | noObjectSeparator : Says .noObjectSeparator "expected `,` or `\x7d`"
  | noColon : Says .noColon "expected `:`"
  | trailingComma : Says .trailingComma "trailing comma"
  | keyNotString : Says .keyNotString "key must be a string"
  | trailingCharacters : Says .trailingCharacters "trailing characters"
  | invalidNumber : Says .invalidNumber "invalid number"
  | numberOutOfRange : Says .numberOutOfRange "number out of range"
  | controlCharacter :
    Says .controlCharacter "control character (\\u0000-\\u001F) found while parsing a string"
  | invalidEscape : Says .invalidEscape "invalid escape"
  | loneSurrogate : Says .loneSurrogate "lone leading surrogate in hex escape"
  | endOfPair : Says .endOfPair "unexpected end of hex escape"
  | tooDeep : Says .tooDeep "recursion limit exceeded"

def Stage.row (stage : Stage) : Stage × String × String := (stage, stage.key, stage.text)

namespace Document

def stageRows : List (Stage × String × String) :=
  [(.userDefinedTypes, "userDefinedTypes", "user-defined types"),
    (.portTypes, "portTypes", "port types"), (.nodeTypes, "nodeTypes", "node types"),
    (.connectionTypes, "connectionTypes", "connection types"),
    (.constraintTypes, "constraintTypes", "constraint types"), (.nodes, "nodes", "nodes"),
    (.connections, "connections", "connections"), (.constraints, "constraints", "constraints")]

theorem stageRows_eq : stageRows = Stage.all.map Stage.row := rfl

theorem row_mem_stageRows (stage : Stage) : stage.row ∈ stageRows := by
  rw [stageRows_eq]
  exact List.mem_map_of_mem (by cases stage <;> decide)

end Document

inductive DocumentError.ReportedAs : DocumentError → Diagnostic → Prop
  | text {r : Json.Reason} {reason : String} {line column : Nat} (h : r.Says reason) :
    ReportedAs (.text ⟨r, ⟨line, column⟩⟩)
      { severity := .error, code := ⟨.error, 300⟩
        message := s!"malformed document: {reason} at line {line} column {column}"
        location := some s!"line {line}, column {column}" }
  | layout {message : String} :
    ReportedAs (.layout message) { severity := .error, code := ⟨.error, 301⟩, message }
  | entry {stage : Stage} {key plural name sentence : String} {cause : Fault} {number : Nat}
    (hs : (stage, key, plural) ∈ Document.stageRows) (hcause : cause.Says number sentence) :
    ReportedAs (.entry stage name cause)
      { severity := .error, code := ⟨.error, number⟩, message := sentence
        location := some s!"{key}.{name}"
        notes := [s!"while deserializing {plural}"]
        help := if number = 311 then ["this is a bug in the schematic registry"] else [] }
  | verification {sentence : String} {cause : Fault} {number : Nat}
    (hcause : cause.Says number sentence) :
    ReportedAs (.verification cause)
      { severity := .error, code := ⟨.error, 310⟩, message := sentence }
  | internal {details : String} :
    ReportedAs (.internal details)
      { severity := .error, code := ⟨.error, 311⟩
        message := s!"internal compiler error: {details}"
        help := ["this is a bug in the schematic registry"] }

inductive SettingsError.Says : SettingsError → String → Prop
  | unreadable {reason : String} : Says (.unreadable reason) s!"cannot read manifold.toml: {reason}"
  | notToml :
    Says .notToml "malformed manifold.toml: no settings can be read from this text"
  | absent {setting : String} :
    Says (.absent setting) s!"malformed manifold.toml: missing `{setting}`"
  | wrongKind {setting : String} :
    Says (.wrongKind setting) s!"malformed manifold.toml: wrong kind of value for `{setting}`"
  | emptyName : Says .emptyName "manifold.toml is missing `project.name`"
  | emptyDocument :
    Says .emptyDocument "invalid setting in manifold.toml: project.schematic must not be empty"
  | ambiguousDelimiter {c : Char} :
    Says (.ambiguousDelimiter c) ("invalid setting in manifold.toml: " ++
      s!"endpoint_delimiter `{c}` would be ambiguous inside instance names")

inductive RunError.Says : RunError → String → Prop
  | surroundings {reason : String} : Says (.surroundings reason) reason
  | settings {e : SettingsError} {sentence : String} (h : e.Says sentence) :
    Says (.settings e) sentence
  | noDocument :
    Says .noDocument "no schematic document given and none set in manifold.toml"
  | unreadable {path reason : String} :
    Says (.unreadable path reason) s!"cannot read {path}: {reason}"

inductive Severity.Called : Severity → (word colour : String) → Prop
  | error : Called .error "error" "1;31"
  | warning : Called .warning "warning" "1;33"
  | note : Called .note "note" "1;36"

inductive CodeCategory.Called : CodeCategory → (letter name : String) → Prop
  | error : Called .error "E" "Error"
  | warning : Called .warning "W" "Warning"
  | note : Called .note "N" "Note"

def Code.HasThreeDigits (c : Code) : Prop := 100 ≤ c.number ∧ c.number < 1000

instance (c : Code) : Decidable c.HasThreeDigits :=
  inferInstanceAs (Decidable (100 ≤ c.number ∧ c.number < 1000))

def Text.ofLines (lines : List String) : String := String.join (lines.map fun l => l ++ "\n")

namespace Diagnostic

variable {d : Diagnostic} {coloured : Bool}

inductive Lines (coloured : Bool) (d : Diagnostic) : List String → Prop
  | mk {word colour letter category label : String} (hs : d.severity.Called word colour)
    (hc : d.code.category.Called letter category) (hn : d.code.HasThreeDigits)
    (hl : label = if coloured then s!"\x1b[{colour}m{word}[{letter}{d.code.number}]\x1b[0m"
      else s!"{word}[{letter}{d.code.number}]") :
    Lines coloured d (s!"{label}: {d.message}" ::
      (d.location.toList.map (fun l => s!"  --> {l}") ++
        d.notes.map (fun n => s!"   = note: {n}") ++ d.help.map (fun h => s!"   = help: {h}")))

def listed (name : String) (texts : List String) : List (String × Json) :=
  if texts = [] then [] else [(name, .array (texts.map .string))]

inductive Describes (d : Diagnostic) : Json → Prop
  | mk {word colour letter category : String} (hs : d.severity.Called word colour)
    (hc : d.code.category.Called letter category) :
    Describes d (.object
      ([("severity", .string word),
          ("code", .object [("category", .string category), ("number", .int d.code.number)]),
          ("message", .string d.message)] ++
        d.location.toList.map (fun l => ("location", .string l)) ++
        listed "notes" d.notes ++ listed "help" d.help))

end Diagnostic

theorem Namespace.called_text (space : Namespace) : space.Called space.text := by
  cases space <;> constructor

theorem Json.Reason.says_text (r : Json.Reason) : r.Says r.text := by
  cases r <;> constructor

theorem Fault.says_message (f : Fault) : f.Says f.code.number f.message := by
  cases f with
  | undeclared space name => exact .undeclared space.called_text
  | multipleAssignment space name => exact .multipleAssignment space.called_text
  | undeclaredAttribute | typeMismatch | multipleDefinition | malformed | invalidValue
  | supertypeCycle | verification | internal => constructor

theorem Fault.isInternal_iff (f : Fault) : f.isInternal = true ↔ f.code.number = 311 := by
  cases f <;> simp [isInternal, code]

namespace DocumentError

theorem reportedAs_diagnostic (e : DocumentError) : e.ReportedAs e.diagnostic := by
  cases e with
  | text e => exact .text e.reason.says_text
  | layout message => exact .layout
  | entry stage name cause =>
    have hreport : ReportedAs (.entry stage name cause) _ :=
      .entry (Document.row_mem_stageRows stage) cause.says_message
    simp only [← cause.isInternal_iff] at hreport
    exact hreport
  | verification cause => exact .verification cause.says_message
  | internal details => exact .internal

theorem ReportedAs.severity {e : DocumentError} {d : Diagnostic} (h : e.ReportedAs d) :
    d.severity = .error := by
  cases h <;> rfl

end DocumentError

theorem SettingsError.says_message (e : SettingsError) : e.Says e.message := by
  cases e with
  | unreadable | emptyName => constructor
  | notToml => exact .notToml
  | absent setting => exact .absent
  | wrongKind setting => exact .wrongKind
  | emptyDocument => exact .emptyDocument
  | ambiguousDelimiter c => exact .ambiguousDelimiter

theorem RunError.says_message (e : RunError) : e.Says e.message := by
  cases e with
  | settings e => exact .settings e.says_message
  | surroundings | noDocument | unreadable => constructor

theorem Severity.called_text (s : Severity) :
    ∃ colour, s.Called s.text colour ∧ ∀ text, s.paint text = s!"\x1b[{colour}m{text}\x1b[0m" := by
  cases s with
  | error => exact ⟨_, .error, fun _ => rfl⟩
  | warning => exact ⟨_, .warning, fun _ => rfl⟩
  | note => exact ⟨_, .note, fun _ => rfl⟩

namespace Diagnostic

variable {d : Diagnostic}

end Diagnostic

end Schematics

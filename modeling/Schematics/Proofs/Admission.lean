import Schematics.Proofs.DistinctFields
import Schematics.Proofs.ScalarTexts
import Schematics.Proofs.Sections

namespace Schematics

inductive Conforms (arrays : Entries) : String → Json → Prop
  | scalar {name text : String} {shape : Shape} {raw : Json} (hn : BaseType.Called name shape)
    (hraw : raw.HasText text) (h : shape.Takes text) : Conforms arrays name raw
  | array {name element : String} {body : Fields} {items : List Json} (hn : (name, body) ∈ arrays)
    (he : body.lookup "elementType" = some (.string element))
    (h : ∀ j ∈ items, Conforms arrays element j) : Conforms arrays name (.array items)

def ObjectOrAbsent (key : String) (body : Fields) : Prop :=
  ∀ j, body.lookup key = some j → j.isObject = true

def GivesTypes (doc : Sections) (c : Category) (key : String) (body : Fields) : Prop :=
  ∀ member j, (member, j) ∈ given key body → ∃ t, j = .string t ∧ doc.Names c t

def Keeps (key : String) (earlier : Entries) (body : Fields) : Prop :=
  ∀ parent member t t', body.lookup "supertype" = some (.string parent) →
    Offers key earlier parent member t → (given key body).lookup member = some (.string t') → t' = t

namespace Sections

variable (doc : Sections)

structure ProperSignature (earlier : Entries) (body : Fields) : Prop where
  attributes : ObjectOrAbsent "attributes" body
  types : GivesTypes doc .userDefined "attributes" body
  supertype : ∀ j, body.lookup "supertype" = some j →
    ∃ parent, j = .string parent ∧ parent ∈ earlier.map Prod.fst
  kept : Keeps "attributes" earlier body

structure ProperNodeSignature (earlier : Entries) (body : Fields) : Prop
    extends ProperSignature doc earlier body where
  ports : ∃ fields, body.lookup "portTypes" = some (.object fields)
  portTypes : GivesTypes doc .port "portTypes" body
  keptPorts : Keeps "portTypes" earlier body

def ProperValues (c : Category) (name : String) (values : Fields) : Prop :=
  ∀ member raw, (member, raw) ∈ values → ∃ t,
    Offers "attributes" (doc c.stage) name member t ∧ Conforms (doc .userDefinedTypes) t raw

structure ProperInstance (c : Category) (name : String) (body : Fields) : Prop where
  type : body.lookup "type" = some (.string name)
  known : name ∈ (doc c.stage).map Prod.fst
  attributes : ObjectOrAbsent "attributes" body
  values : doc.ProperValues c name (given "attributes" body)

structure ProperNode (name : String) (body : Fields) : Prop
    extends ProperInstance doc .node name body where
  portAttrs : ObjectOrAbsent "portAttrs" body
  ports : ∀ port j, (port, j) ∈ given "portAttrs" body → j.isObject = true ∧
    ∃ t, Offers "portTypes" (doc .nodeTypes) name port t ∧ doc.ProperValues .port t j.fieldsOf

def HasPort (e : Endpoint) : Prop :=
  ∃ body name t, (e.node, body) ∈ doc .nodes ∧ body.lookup "type" = some (.string name) ∧
    Offers "portTypes" (doc .nodeTypes) name e.port t

structure ProperEndpoint (delimiter : Char) (key : String) (body : Fields) (e : Endpoint) :
    Prop where
  text : ∃ text, body.lookup key = some (.string text) ∧ e.Splits delimiter text
  port : doc.HasPort e

structure ProperConnection (delimiter : Char) (name : String) (body : Fields) : Prop
    extends ProperInstance doc .connection name body where
  ends : ∃ source target, doc.ProperEndpoint delimiter "from" body source ∧
    doc.ProperEndpoint delimiter "to" body target ∧ source ≠ target

def Proper (delimiter : Char) (earlier : Entries) (body : Fields) : Stage → Prop
  | .userDefinedTypes => ∃ element, body.lookup "elementType" = some (.string element) ∧
    (element ∈ BaseType.names ∨ element ∈ earlier.map Prod.fst)
  | .portTypes | .connectionTypes | .constraintTypes => doc.ProperSignature earlier body
  | .nodeTypes => doc.ProperNodeSignature earlier body
  | .nodes => ∃ name, doc.ProperNode name body
  | .connections => ∃ name, doc.ProperConnection delimiter name body
  | .constraints => ∃ name, doc.ProperInstance .constraint name body

end Sections

namespace Document

/-- The form of a document, the names of its types taken together, and each entry at its place. -/
structure Acceptable (delimiter : Char) (root : Fields) : Prop where
  named : ∃ name, root.lookup nameKey = some (.string name)
  layout : ∀ stage : Stage, ObjectOrAbsent stage.key root
  bodies : ∀ (stage : Stage) name j, (name, j) ∈ given stage.key root → j.isObject = true
  names : (sections root).typeNames.Nodup
  entries : ∀ stage earlier name body later,
    sections root stage = earlier ++ (name, body) :: later →
      (sections root).Proper delimiter earlier body stage

end Document

end Schematics

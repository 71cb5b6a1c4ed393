import Schematics.Document.Reader
import Schematics.Proofs.Ledger

namespace Schematics

def Json.fieldsOf : Json → Fields
  | .object fields => fields
  | _ => []

def Json.isObject : Json → Bool
  | .object _ => true
  | _ => false

def Category.stage : Category → Stage
  | .userDefined => .userDefinedTypes
  | .port => .portTypes
  | .node => .nodeTypes
  | .connection => .connectionTypes
  | .constraint => .constraintTypes

def Stage.category? : Stage → Option Category
  | .userDefinedTypes => some .userDefined
  | .portTypes => some .port
  | .nodeTypes => some .node
  | .connectionTypes => some .connection
  | .constraintTypes => some .constraint
  | _ => none

theorem Stage.category?_eq_some_iff {stage : Stage} {c : Category} :
    stage.category? = some c ↔ stage = c.stage := by
  cases stage <;> cases c <;> simp [category?, Category.stage]

theorem Stage.types_or_instances (stage : Stage) : (∃ c : Category, stage = c.stage) ∨
    stage = .nodes ∨ stage = .connections ∨ stage = .constraints := by
  cases hc : stage.category? with
  | some c => exact .inl ⟨c, category?_eq_some_iff.1 hc⟩
  | none => cases stage <;> simp [category?] at hc ⊢

theorem Stage.ne_of_category? {stage other : Stage} {c : Category} (h : stage.category? = some c)
    (ho : other.category? = none) : stage ≠ other := by
  intro heq
  rw [heq, ho] at h
  cases h

namespace BaseType

def names : List String := all.map Prod.fst

end BaseType

abbrev Entries := List (String × Fields)

abbrev Sections := Stage → Entries

def Document.sections (root : Fields) : Sections := fun stage =>
  (root.lookup stage.key).elim [] fun j => j.fieldsOf.map fun e => (e.1, e.2.fieldsOf)

def given (key : String) (body : Fields) : Fields := (body.lookup key).elim [] Json.fieldsOf

namespace Sections

def typeEntries (doc : Sections) : List (Category × String × Fields) :=
  Category.all.flatMap fun c => (doc c.stage).map fun e => (c, e)

def typeNames (doc : Sections) : List String :=
  BaseType.names ++ doc.typeEntries.map fun e => e.2.1

def typeId? (doc : Sections) (name : String) : Option TypeId :=
  (doc.typeNames.findIdx? fun other => other = name).map .ofSlot

def nodeId? (doc : Sections) (name : String) : Option NodeId := Ledger.handle? (doc .nodes) name

def Names (doc : Sections) (c : Category) (name : String) : Prop :=
  c = .userDefined ∧ name ∈ BaseType.names ∨ name ∈ (doc c.stage).map Prod.fst

def Numbers (doc : Sections) (c : Category) (name : String) (id : TypeId) : Prop :=
  doc.Names c name ∧ doc.typeId? name = some id

end Sections

/--
A type has a member of some type when it gives it, or else extends a type that has it. Members are
given under one key: attributes under one, ports under another.
-/
inductive Offers (key : String) (types : Entries) : String → String → String → Prop
  | own {name : String} {body : Fields} {member t : String} (hn : (name, body) ∈ types)
    (ht : (given key body).lookup member = some (.string t)) : Offers key types name member t
  | inherited {name : String} {body : Fields} {parent member t : String} (hn : (name, body) ∈ types)
    (hp : body.lookup "supertype" = some (.string parent))
    (hm : (given key body).lookup member = none) (h : Offers key types parent member t) :
    Offers key types name member t

structure Endpoint.Splits (delimiter : Char) (text : String) (e : Endpoint) : Prop where
  text : text.toList = e.node.toList ++ delimiter :: e.port.toList
  first : delimiter ∉ e.node.toList
  node : e.node ≠ ""
  port : e.port ≠ ""

end Schematics

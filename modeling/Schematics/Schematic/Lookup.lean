import Schematics.Schematic.Basic

namespace Schematics

universe u

variable {κ : Kind} {α : Type u}

namespace Schematic

def nameOf (s : Schematic) (symbol : Symbol) : Except Fault String :=
  match s.names.resolve? symbol with
  | some name => .ok name
  | none => .error (.internal s!"name #{symbol.index} is not interned")

def label (s : Schematic) (symbol : Symbol) : String :=
  (s.names.resolve? symbol).getD s!"#{symbol.index}"

def typeEntry (s : Schematic) (id : TypeId) : Except Fault (Named TypeDef) :=
  match s.types.get? id with
  | some e => .ok e
  | none => .error (.undeclared .type id.text)

def typeId (s : Schematic) (name : String) : Except Fault TypeId :=
  match s.find? s.typeNames name with
  | some id => .ok id
  | none => .error (.undeclared .type name)

def typeName (s : Schematic) (id : TypeId) : Except Fault String := do
  s.nameOf (← s.typeEntry id).symbol

def typeDefinition (s : Schematic) (id : TypeId) : Except Fault TypeDef :=
  Named.value <$> s.typeEntry id

def describe (s : Schematic) (id : TypeId) : String :=
  match s.typeName id with
  | .ok name => name
  | .error _ => id.text

def describe? (s : Schematic) (id : Option TypeId) : String := id.elim "<type>" s.describe

def readsAs (d : TypeDef) (c : Category) : Bool := c = .userDefined || d.category = c

def lookup (s : Schematic) (c : Category) (name : String) : Except Fault (TypeId × TypeDef) :=
  match s.find? (s.categories.of c) name with
  | none => .error (.undeclared c.space name)
  | some id =>
    match s.types.get? id with
    | some e =>
      if readsAs e.value c then .ok (id, e.value)
      else .error (.internal s!"{c.text} index maps to {id.text}, which is not a {c.text}")
    | none =>
      .error (.internal s!"{c.text} index maps `{name}` to unregistered type {id.text}")

def requireCategory (s : Schematic) (c : Category) (id : TypeId) : Except Fault Unit :=
  match s.types.get? id with
  | some e => if e.value.category = c then .ok () else .error (.undeclared c.space id.text)
  | none => .error (.undeclared c.space id.text)

def instanceId (s : Schematic) (t : InstanceTable κ α) (space : Namespace) (name : String) :
    Except Fault (Handle κ) :=
  match s.find? t.byName name with
  | some id => .ok id
  | none => .error (.undeclared space name)

def instanceEntry (t : InstanceTable κ α) (space : Namespace) (id : Handle κ) :
    Except Fault (Named α) :=
  match t.items.get? id with
  | some e => .ok e
  | none => .error (.undeclared space id.text)

def nodeId (s : Schematic) : String → Except Fault NodeId := s.instanceId s.nodes .node

def nodeById (s : Schematic) (id : NodeId) : Except Fault Node :=
  Named.value <$> instanceEntry s.nodes .node id

def nodeName (s : Schematic) (id : NodeId) : Except Fault String := do
  s.nameOf (← instanceEntry s.nodes .node id).symbol

def node (s : Schematic) (name : String) : Except Fault Node := do s.nodeById (← s.nodeId name)

def connectionId (s : Schematic) : String → Except Fault ConnectionId :=
  s.instanceId s.connections .connection

def connectionById (s : Schematic) (id : ConnectionId) : Except Fault Connection :=
  Named.value <$> instanceEntry s.connections .connection id

def connectionName (s : Schematic) (id : ConnectionId) : Except Fault String := do
  s.nameOf (← instanceEntry s.connections .connection id).symbol

def connection (s : Schematic) (name : String) : Except Fault Connection := do
  s.connectionById (← s.connectionId name)

def constraintId (s : Schematic) : String → Except Fault ConstraintId :=
  s.instanceId s.constraints .constraint

def constraintById (s : Schematic) (id : ConstraintId) : Except Fault Constraint :=
  Named.value <$> instanceEntry s.constraints .constraint id

def constraintName (s : Schematic) (id : ConstraintId) : Except Fault String := do
  s.nameOf (← instanceEntry s.constraints .constraint id).symbol

def constraint (s : Schematic) (name : String) : Except Fault Constraint := do
  s.constraintById (← s.constraintId name)

def portOf (n : Node) (name : String) : Except Fault Port :=
  match n.ports.get? name with
  | some p => .ok p
  | none => .error (.undeclared .port name)

def resolvePort (s : Schematic) (r : PortRef) : Except Fault Port := do
  portOf (← s.nodeById r.node) r.port

end Schematic

end Schematics

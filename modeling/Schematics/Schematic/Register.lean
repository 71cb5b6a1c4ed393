import Schematics.Schematic.Lineage
import Schematics.Value.Defect

/-!
Registration. What is asked for is checked in full first, and then recorded in one step that cannot
fail, so that a refused registration changes nothing.
-/

namespace Schematics

namespace Schematic

def checkMembers (s : Schematic) (c : Category) (members : NameMap TypeId) : Except Fault Unit :=
  members.entries.forM fun e => s.requireCategory c e.2

def checkRedeclared (s : Schematic) (owner what : String) (declared inherited : NameMap TypeId) :
    Except Fault Unit :=
  declared.entries.forM fun e =>
    match inherited.get? e.1 with
    | none => .ok ()
    | some parent =>
      if parent = e.2 then .ok ()
      else
        .error (.typeMismatch s!"{what} `{e.1}` of `{owner}` redeclared from supertype"
          (s.describe parent) (s.describe e.2))

def checkInherited (s : Schematic) (name : String) (shape : Shape) (parent : TypeId) :
    Except Fault Unit := do
  s.requireCategory shape.category parent
  s.checkRedeclared name "attribute" shape.attributes (← s.effectiveAttributes parent)
  match shape.ports? with
  | none => pure ()
  | some ports => s.checkRedeclared name "port" ports (← s.effectivePorts parent)

def checkElement (s : Schematic) (shape : Shape) : Except Fault Unit :=
  match shape.element? with
  | none => .ok ()
  | some element => s.requireCategory .userDefined element

def checkSupertype (s : Schematic) (name : String) (shape : Shape) : Except Fault Unit :=
  match shape.supertype with
  | none => .ok ()
  | some parent => s.checkInherited name shape parent

def checkType (s : Schematic) (name : String) (shape : Shape) : Except Fault Unit := do
  if (s.find? s.typeNames name).isSome then throw (.multipleDefinition name)
  s.checkElement shape
  s.checkMembers .userDefined shape.attributes
  s.checkMembers .port (shape.ports?.getD ∅)
  s.checkSupertype name shape

def addType (s : Schematic) (name : String) (shape : Shape) :
    Except Fault (TypeId × Schematic) := do
  s.checkType name shape
  pure (s.types.next, s.recordType name shape)

def addUserDefinedType (s : Schematic) (name : String) (shape : Shape) :
    Except Fault (TypeId × Schematic) :=
  if shape.category = .userDefined then s.addType name shape
  else
    .error (.typeMismatch s!"user-defined type `{name}`" "scalar or array type"
      shape.category.text)

def addPortType (s : Schematic) (name : String) (g : Signature) :
    Except Fault (TypeId × Schematic) := s.addType name (.port g)

def addNodeType (s : Schematic) (name : String) (g : NodeSignature) :
    Except Fault (TypeId × Schematic) := s.addType name (.node g)

def addConnectionType (s : Schematic) (name : String) (g : Signature) :
    Except Fault (TypeId × Schematic) := s.addType name (.connection g)

def addConstraintType (s : Schematic) (name : String) (g : Signature) :
    Except Fault (TypeId × Schematic) := s.addType name (.constraint g)

def checkAttributes (s : Schematic) (owner : TypeId) (values : Attributes) :
    Except Fault Unit := do
  let declared ← s.effectiveAttributes owner
  values.entries.forM fun e =>
    match declared.get? e.1 with
    | none => .error (.undeclaredAttribute e.1)
    | some expected =>
      if e.2.type? = some expected then .ok ()
      else
        .error (.typeMismatch s!"attribute `{e.1}`" (s.describe expected)
          (s.describe? e.2.type?))

def checkPorts (s : Schematic) (name : String) (declared : NameMap TypeId)
    (ports : NameMap Port) : Except Fault Unit :=
  ports.entries.forM fun e =>
    match declared.get? e.1 with
    | none => .error (.undeclared .port e.1)
    | some expected =>
      if e.2.type = expected then s.checkAttributes expected e.2.attributes
      else
        .error (.typeMismatch s!"port `{e.1}` of node `{name}`" (s.describe expected)
          (s.describe e.2.type))

def checkNode (s : Schematic) (name : String) (n : Node) : Except Fault Unit := do
  if (s.find? s.nodes.byName name).isSome then throw (.multipleAssignment .node name)
  s.requireCategory .node n.type
  s.checkAttributes n.type n.attributes
  s.checkPorts name (← s.effectivePorts n.type) n.ports

def addNode (s : Schematic) (name : String) (n : Node) : Except Fault (NodeId × Schematic) := do
  s.checkNode name n
  pure (s.nodes.items.next, s.recordNode name n)

def checkConnection (s : Schematic) (name : String) (c : Connection) : Except Fault Unit := do
  if (s.find? s.connections.byName name).isSome then
    throw (.multipleAssignment .connection name)
  s.requireCategory .connection c.type
  s.checkAttributes c.type c.attributes
  let _ ← s.resolvePort c.source
  let _ ← s.resolvePort c.target
  Defect.check (c.defect?.map (.inside s!"connection `{name}`"))

def addConnection (s : Schematic) (name : String) (c : Connection) :
    Except Fault (ConnectionId × Schematic) := do
  s.checkConnection name c
  pure (s.connections.items.next, s.recordConnection name c)

def checkConstraint (s : Schematic) (name : String) (c : Constraint) : Except Fault Unit := do
  if (s.find? s.constraints.byName name).isSome then
    throw (.multipleAssignment .constraint name)
  s.requireCategory .constraint c.type
  s.checkAttributes c.type c.attributes

def addConstraint (s : Schematic) (name : String) (c : Constraint) :
    Except Fault (ConstraintId × Schematic) := do
  s.checkConstraint name c
  pure (s.constraints.items.next, s.recordConstraint name c)

def seedType (s : Schematic) (t : (String × Shape) × TypeId) : Except String Schematic :=
  match s.addUserDefinedType t.1.1 t.1.2 with
  | .error f => .error s!"could not create default type definitions ({f.message})"
  | .ok (id, s') =>
    if id = t.2 then .ok s'
    else .error s!"base type `{t.1.1}` seeded as {id.text}, expected {t.2.text}"

def seed (name : String) : Except String Schematic :=
  (BaseType.all.zip BaseType.handles).foldlM seedType { name := name }

theorem seed_eq (name : String) : seed name = .ok (new name) := rfl

end Schematic

end Schematics

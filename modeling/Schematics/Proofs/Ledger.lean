import Schematics.Proofs.Registration
import Schematics.Schematic.Snapshot

namespace Schematics

universe u

variable {κ : Kind} {α : Type u}

inductive Query : Type → Type where
  | typeId (name : String) : Query TypeId
  | typeName (id : TypeId) : Query String
  | typeDefinition (id : TypeId) : Query TypeDef
  | typeIn (c : Category) (name : String) : Query (TypeId × TypeDef)
  | node (name : String) : Query Node
  | nodeId (name : String) : Query NodeId
  | nodeById (id : NodeId) : Query Node
  | nodeName (id : NodeId) : Query String
  | connection (name : String) : Query Connection
  | connectionId (name : String) : Query ConnectionId
  | connectionById (id : ConnectionId) : Query Connection
  | connectionName (id : ConnectionId) : Query String
  | constraint (name : String) : Query Constraint
  | constraintId (name : String) : Query ConstraintId
  | constraintById (id : ConstraintId) : Query Constraint
  | constraintName (id : ConstraintId) : Query String
  | types : Query (List (TypeId × String × TypeDef))
  | typesIn (c : Category) : Query (NameMap (TypeId × TypeDef))
  | nodes : Query (NameMap Node)
  | connections : Query (NameMap Connection)
  | constraints : Query (NameMap Constraint)
  | typeCount : Query Nat
  | nodeCount : Query Nat
  | connectionCount : Query Nat
  | constraintCount : Query Nat

def Schematic.ask {α : Type} (s : Schematic) : Query α → Except Fault α
  | .typeId name => s.typeId name
  | .typeName id => s.typeName id
  | .typeDefinition id => s.typeDefinition id
  | .typeIn c name => s.lookup c name
  | .node name => s.node name
  | .nodeId name => s.nodeId name
  | .nodeById id => s.nodeById id
  | .nodeName id => s.nodeName id
  | .connection name => s.connection name
  | .connectionId name => s.connectionId name
  | .connectionById id => s.connectionById id
  | .connectionName id => s.connectionName id
  | .constraint name => s.constraint name
  | .constraintId name => s.constraintId name
  | .constraintById id => s.constraintById id
  | .constraintName id => s.constraintName id
  | .types => .ok s.typeList
  | .typesIn c => .ok (s.typesIn c)
  | .nodes => .ok s.nodesByName
  | .connections => .ok s.connectionsByName
  | .constraints => .ok s.constraintsByName
  | .typeCount => .ok s.typeCount
  | .nodeCount => .ok s.nodeCount
  | .connectionCount => .ok s.connectionCount
  | .constraintCount => .ok s.constraintCount

structure Ledger where
  types : List (String × Shape)
  nodes : List (String × Node)
  connections : List (String × Connection)
  constraints : List (String × Constraint)

namespace Ledger

def new : Ledger := ⟨BaseType.all, [], [], []⟩

def record (l : Ledger) : Item → Ledger
  | .type name shape => { l with types := l.types ++ [(name, shape)] }
  | .node name n => { l with nodes := l.nodes ++ [(name, n)] }
  | .connection name c => { l with connections := l.connections ++ [(name, c)] }
  | .constraint name c => { l with constraints := l.constraints ++ [(name, c)] }

def nextFor (l : Ledger) : Item → Issued
  | .type _ _ => ⟨.type, .ofSlot l.types.length⟩
  | .node _ _ => ⟨.node, .ofSlot l.nodes.length⟩
  | .connection _ _ => ⟨.connection, .ofSlot l.connections.length⟩
  | .constraint _ _ => ⟨.constraint, .ofSlot l.constraints.length⟩

def handle? (l : List (String × α)) (name : String) : Option (Handle κ) :=
  (l.findIdx? fun e => e.1 = name).map .ofSlot

def row? (l : List (String × α)) (id : Handle κ) : Option (String × α) := id.slot?.bind (l[·]?)

def found (space : Namespace) (text : String) (a : Option α) : Except Fault α :=
  a.elim (.error (.undeclared space text)) .ok

def typeList (l : Ledger) : List (TypeId × String × TypeDef) :=
  l.types.zipIdx.map fun e => (.ofSlot e.2, e.1.1, ⟨some (.ofSlot e.2), e.1.2⟩)

def typeIn? (l : Ledger) (c : Category) (name : String) : Option (TypeId × TypeDef) :=
  (handle? l.types name).bind fun id =>
    ((row? l.types id).filter fun e => e.2.category = c).map fun e => (id, ⟨some id, e.2⟩)

def typesIn (l : Ledger) (c : Category) : NameMap (TypeId × TypeDef) :=
  .ofList ((l.typeList.filter fun t => t.2.2.category = c).map fun t => (t.2.1, t.1, t.2.2))

def ask {α : Type} (l : Ledger) : Query α → Except Fault α
  | .typeId name => found .type name (handle? l.types name)
  | .typeName id => found .type id.text ((row? l.types id).map Prod.fst)
  | .typeDefinition id =>
    found .type id.text ((row? l.types id).map fun e => ⟨some id, e.2⟩)
  | .typeIn c name => found c.space name (l.typeIn? c name)
  | .node name => found .node name (l.nodes.lookup name)
  | .nodeId name => found .node name (handle? l.nodes name)
  | .nodeById id => found .node id.text ((row? l.nodes id).map Prod.snd)
  | .nodeName id => found .node id.text ((row? l.nodes id).map Prod.fst)
  | .connection name => found .connection name (l.connections.lookup name)
  | .connectionId name => found .connection name (handle? l.connections name)
  | .connectionById id => found .connection id.text ((row? l.connections id).map Prod.snd)
  | .connectionName id => found .connection id.text ((row? l.connections id).map Prod.fst)
  | .constraint name => found .constraint name (l.constraints.lookup name)
  | .constraintId name => found .constraint name (handle? l.constraints name)
  | .constraintById id => found .constraint id.text ((row? l.constraints id).map Prod.snd)
  | .constraintName id => found .constraint id.text ((row? l.constraints id).map Prod.fst)
  | .types => .ok l.typeList
  | .typesIn c => .ok (l.typesIn c)
  | .nodes => .ok (.ofList l.nodes)
  | .connections => .ok (.ofList l.connections)
  | .constraints => .ok (.ofList l.constraints)
  | .typeCount => .ok l.types.length
  | .nodeCount => .ok l.nodes.length
  | .connectionCount => .ok l.connections.length
  | .constraintCount => .ok l.constraints.length

end Ledger

end Schematics

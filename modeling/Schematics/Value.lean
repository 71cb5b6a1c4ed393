import Schematics.TypeDef

namespace Schematics

universe u

structure PortOf (α : Type u) where
  type : TypeId
  attributes : NameMap α

structure NodeOf (α : Type u) where
  type : TypeId
  attributes : NameMap α
  ports : NameMap (PortOf α)

structure PortRef where
  node : NodeId
  port : String
  deriving DecidableEq, Repr

def PortRef.text (r : PortRef) : String := s!"node {r.node.text}, port `{r.port}`"

structure ConnectionOf (α : Type u) where
  type : TypeId
  source : PortRef
  target : PortRef
  attributes : NameMap α

structure ConstraintOf (α : Type u) where
  type : TypeId
  attributes : NameMap α

inductive Value where
  | bool (b : Bool)
  | int (i : Int64)
  | string (s : String)
  | real (x : Float)
  | array (type element : TypeId) (items : List Value)
  | type (d : TypeDef)
  | node (n : NodeOf Value)
  | connection (c : ConnectionOf Value)
  | constraint (c : ConstraintOf Value)

abbrev Attributes := NameMap Value

abbrev Port := PortOf Value

abbrev Node := NodeOf Value

abbrev Connection := ConnectionOf Value

abbrev Constraint := ConstraintOf Value

namespace Value

def type? : Value → Option TypeId
  | .bool _ => some BaseType.bool
  | .int _ => some BaseType.int
  | .string _ => some BaseType.string
  | .real _ => some BaseType.real
  | .array t _ _ => some t
  | .type _ => none
  | .node n => some n.type
  | .connection c => some c.type
  | .constraint c => some c.type

def registeredId? : Value → Option TypeId
  | .type d => d.id
  | _ => none

end Value

end Schematics

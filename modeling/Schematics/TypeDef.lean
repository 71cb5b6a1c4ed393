import Schematics.NameMap
import Schematics.Handle
import Schematics.Fault

namespace Schematics

inductive Category where
  | userDefined
  | port
  | node
  | connection
  | constraint
  deriving DecidableEq, Repr

namespace Category

def all : List Category := [.userDefined, .port, .node, .connection, .constraint]

def space : Category → Namespace
  | .userDefined => .userDefinedType
  | .port => .portType
  | .node => .nodeType
  | .connection => .connectionType
  | .constraint => .constraintType

def text (c : Category) : String := c.space.text

end Category

structure Signature where
  attributes : NameMap TypeId := ∅
  supertype : Option TypeId := none
  deriving DecidableEq

structure NodeSignature extends Signature where
  ports : NameMap TypeId := ∅
  deriving DecidableEq

inductive Shape where
  | bool
  | int
  | string
  | real
  | array (element : TypeId)
  | port (s : Signature)
  | node (s : NodeSignature)
  | connection (s : Signature)
  | constraint (s : Signature)
  deriving DecidableEq

namespace Shape

def category : Shape → Category
  | .bool | .int | .string | .real | .array _ => .userDefined
  | .port _ => .port
  | .node _ => .node
  | .connection _ => .connection
  | .constraint _ => .constraint

def signature? : Shape → Option Signature
  | .port s | .connection s | .constraint s => some s
  | .node s => some s.toSignature
  | _ => none

def attributes (s : Shape) : NameMap TypeId := s.signature?.elim ∅ Signature.attributes

def supertype (s : Shape) : Option TypeId := s.signature?.bind Signature.supertype

def ports? : Shape → Option (NameMap TypeId)
  | .node s => some s.ports
  | _ => none

def element? : Shape → Option TypeId
  | .array element => some element
  | _ => none

def isScalar : Shape → Bool
  | .bool | .int | .string | .real => true
  | _ => false

end Shape

structure TypeDef where
  id : Option TypeId := none
  shape : Shape
  deriving DecidableEq

namespace TypeDef

def category (d : TypeDef) : Category := d.shape.category

end TypeDef

namespace BaseType

def bool : TypeId := ⟨1⟩

def int : TypeId := ⟨2⟩

def string : TypeId := ⟨3⟩

def real : TypeId := ⟨4⟩

def all : List (String × Shape) :=
  [("Bool", .bool), ("Int", .int), ("String", .string), ("Real", .real)]

def handles : List TypeId := [bool, int, string, real]

end BaseType

end Schematics

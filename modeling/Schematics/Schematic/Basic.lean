import Std.Data.TreeMap
import Schematics.Arena
import Schematics.Interner
import Schematics.Value

/-!
A schematic: its types and its named instances. Every thing is stored once, under its handle, and
is found by name through indexes that are extended in the same step. Nothing is replaced or removed.
-/

namespace Schematics

universe u

variable {κ : Kind} {α : Type u}

abbrev NameIndex (κ : Kind) := Std.TreeMap Symbol (Handle κ)

structure Named (α : Type u) where
  symbol : Symbol
  value : α

structure CategoryIndexes where
  userDefined : NameIndex .type := ∅
  port : NameIndex .type := ∅
  node : NameIndex .type := ∅
  connection : NameIndex .type := ∅
  constraint : NameIndex .type := ∅

namespace CategoryIndexes

def of (ix : CategoryIndexes) : Category → NameIndex .type
  | .userDefined => ix.userDefined
  | .port => ix.port
  | .node => ix.node
  | .connection => ix.connection
  | .constraint => ix.constraint

def insert (ix : CategoryIndexes) (c : Category) (s : Symbol) (id : TypeId) : CategoryIndexes :=
  match c with
  | .userDefined => { ix with userDefined := ix.userDefined.insert s id }
  | .port => { ix with port := ix.port.insert s id }
  | .node => { ix with node := ix.node.insert s id }
  | .connection => { ix with connection := ix.connection.insert s id }
  | .constraint => { ix with constraint := ix.constraint.insert s id }

theorem of_insert (ix : CategoryIndexes) (c d : Category) (s : Symbol) (id : TypeId) :
    (ix.insert c s id).of d = if d = c then (ix.of c).insert s id else ix.of d := by
  cases c <;> cases d <;> rfl

end CategoryIndexes

structure InstanceTable (κ : Kind) (α : Type u) where
  items : Arena κ (Named α) := ∅
  byName : NameIndex κ := ∅

namespace InstanceTable

def size (t : InstanceTable κ α) : Nat := t.items.size

def insert (t : InstanceTable κ α) (s : Symbol) (value : α) : InstanceTable κ α :=
  ⟨t.items.alloc ⟨s, value⟩, t.byName.insert s t.items.next⟩

end InstanceTable

structure Schematic where
  name : String
  names : Interner := .empty
  types : Arena .type (Named TypeDef) := ∅
  typeNames : NameIndex .type := ∅
  categories : CategoryIndexes := {}
  nodes : InstanceTable .node Node := {}
  connections : InstanceTable .connection Connection := {}
  constraints : InstanceTable .constraint Constraint := {}

namespace Schematic

def find? (s : Schematic) (index : NameIndex κ) (name : String) : Option (Handle κ) :=
  (s.names.get? name).bind (index[·]?)

def recordType (s : Schematic) (name : String) (shape : Shape) : Schematic :=
  let id := s.types.next
  let (symbol, names) := s.names.intern name
  { s with
    names := names
    types := s.types.alloc ⟨symbol, ⟨some id, shape⟩⟩
    typeNames := s.typeNames.insert symbol id
    categories := s.categories.insert shape.category symbol id }

def recordNode (s : Schematic) (name : String) (n : Node) : Schematic :=
  let (symbol, names) := s.names.intern name
  { s with names := names, nodes := s.nodes.insert symbol n }

def recordConnection (s : Schematic) (name : String) (c : Connection) : Schematic :=
  let (symbol, names) := s.names.intern name
  { s with names := names, connections := s.connections.insert symbol c }

def recordConstraint (s : Schematic) (name : String) (c : Constraint) : Schematic :=
  let (symbol, names) := s.names.intern name
  { s with names := names, constraints := s.constraints.insert symbol c }

def new (name : String) : Schematic :=
  BaseType.all.foldl (fun s t => s.recordType t.1 t.2) { name := name }

end Schematic

end Schematics

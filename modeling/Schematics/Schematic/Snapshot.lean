import Schematics.Schematic.Lookup

namespace Schematics

universe u

variable {κ : Kind} {α : Type u}

namespace Schematic

def typeList (s : Schematic) : List (TypeId × String × TypeDef) :=
  s.types.entries.map fun e => (e.1, s.label e.2.symbol, e.2.value)

def typesIn (s : Schematic) (c : Category) : NameMap (TypeId × TypeDef) :=
  .ofList ((s.categories.of c).toList.filterMap fun e =>
    (s.types.get? e.2).bind fun t =>
      if readsAs t.value c then some (s.label e.1, e.2, t.value) else none)

def instancesByName (s : Schematic) (t : InstanceTable κ α) : NameMap α :=
  .ofList (t.items.values.map fun e => (s.label e.symbol, e.value))

def nodesByName (s : Schematic) : NameMap Node := s.instancesByName s.nodes

def connectionsByName (s : Schematic) : NameMap Connection := s.instancesByName s.connections

def constraintsByName (s : Schematic) : NameMap Constraint := s.instancesByName s.constraints

def typeCount (s : Schematic) : Nat := s.types.size

def nodeCount (s : Schematic) : Nat := s.nodes.size

def connectionCount (s : Schematic) : Nat := s.connections.size

def constraintCount (s : Schematic) : Nat := s.constraints.size

end Schematic

end Schematics

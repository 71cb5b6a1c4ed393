import Schematics.Schematic.Lookup

/-!
What a type inherits. Its lineage is the type followed by its supertypes, nearest first; an
attribute or port declared nearer wins over one declared further up.
-/

namespace Schematics

namespace Schematic

/--
The supertypes from a link upwards. As many links as there are types, and one more, lead to some
type twice.
-/
def climb (s : Schematic) (start : TypeId) (c : Category) :
    Nat → Option TypeId → Except Fault (List (TypeId × TypeDef))
  | _, none => .ok []
  | 0, some _ => .error (.supertypeCycle (s.describe start))
  | links + 1, some next =>
    match s.types.get? next with
    | none => .error (.internal s!"supertype {next.text} of {start.text} is not registered")
    | some ⟨_, d⟩ =>
      if d.category = c then ((next, d) :: ·) <$> s.climb start c links d.shape.supertype
      else
        .error (.internal
          s!"supertype {next.text} of {start.text} is a {d.category.text}, expected a {c.text}")

def lineage (s : Schematic) (id : TypeId) : Except Fault (List (TypeId × TypeDef)) := do
  let d ← s.typeDefinition id
  let above ← s.climb id d.category s.types.size d.shape.supertype
  pure ((id, d) :: above)

def supertypeChain (s : Schematic) (id : TypeId) : Except Fault (List TypeId) :=
  List.map Prod.fst <$> s.lineage id

def inheritAttributes (line : List (TypeId × TypeDef)) : NameMap TypeId :=
  line.foldr (fun link inherited => inherited.override link.2.shape.attributes) ∅

def effectiveAttributes (s : Schematic) (id : TypeId) : Except Fault (NameMap TypeId) :=
  inheritAttributes <$> s.lineage id

def inheritPorts : List (TypeId × TypeDef) → Except Fault (NameMap TypeId)
  | [] => .ok ∅
  | (id, d) :: above => do
    let inherited ← inheritPorts above
    match d.shape.ports? with
    | some own => .ok (inherited.override own)
    | none => .error (.undeclared .nodeType id.text)

def effectivePorts (s : Schematic) (id : TypeId) : Except Fault (NameMap TypeId) := do
  inheritPorts (← s.lineage id)

end Schematic

end Schematics

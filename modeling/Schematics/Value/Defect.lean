import Schematics.Value

/-!
The structural faults of a value: an array element of another type than the array says, and a
connection from a port to itself. The first one, in the order in which a value is read, is reported
with the way to it.
-/

namespace Schematics

inductive Defect where
  | element (index : Nat) (found : Option TypeId) (expected : TypeId)
  | selfConnection (port : PortRef)
  | inside (place : String) (d : Defect)
  deriving DecidableEq, Repr

def Defect.message : Defect → String
  | .element index found expected =>
    let actual := found.elim "<type>" Handle.text
    s!"array element [{index}] has type {actual}, expected {expected.text}"
  | .selfConnection port => s!"connection from {port.text} to itself"
  | .inside place d => s!"{place}: {d.message}"

def Defect.attributeOf (owner name : String) : Defect → Defect :=
  .inside s!"{owner} attribute `{name}`"

def Defect.portNamed (name : String) : Defect → Defect := .inside s!"port `{name}`"

mutual

def Value.defect? : Value → Option Defect
  | .array _ element items => itemDefect? element 0 items
  | .node ⟨_, ⟨attributes⟩, ⟨ports⟩⟩ =>
    (attributeDefect? "node" attributes).or (portDefect? ports)
  | .connection ⟨_, source, target, ⟨attributes⟩⟩ =>
    if source = target then some (.selfConnection source)
    else attributeDefect? "connection" attributes
  | .constraint ⟨_, ⟨attributes⟩⟩ => attributeDefect? "constraint" attributes
  | _ => none

def itemDefect? (element : TypeId) (index : Nat) : List Value → Option Defect
  | [] => none
  | v :: rest =>
    if v.type? = some element then v.defect?.or (itemDefect? element (index + 1) rest)
    else some (.element index v.type? element)

def attributeDefect? (owner : String) : List (String × Value) → Option Defect
  | [] => none
  | (name, v) :: rest =>
    (v.defect?.map (Defect.attributeOf owner name)).or (attributeDefect? owner rest)

def portDefect? : List (String × PortOf Value) → Option Defect
  | [] => none
  | (name, ⟨_, ⟨attributes⟩⟩) :: rest =>
    ((attributeDefect? "port" attributes).map (Defect.portNamed name)).or (portDefect? rest)

end

def Port.defect? (p : Port) : Option Defect := attributeDefect? "port" p.attributes.entries

def Node.defect? (n : Node) : Option Defect := (Value.node n).defect?

def Connection.defect? (c : Connection) : Option Defect := (Value.connection c).defect?

def Constraint.defect? (c : Constraint) : Option Defect := (Value.constraint c).defect?

def Defect.check : Option Defect → Except Fault Unit
  | none => .ok ()
  | some d => .error (.verification d.message)

end Schematics

import Schematics.Schematic.Snapshot
import Schematics.Value.Defect

namespace Schematics

universe u

variable {κ : Kind} {α : Type u}

namespace Schematic

def instanceDefect? (s : Schematic) (t : InstanceTable κ α) (what : String)
    (defect? : α → Option Defect) : Option Defect :=
  t.items.values.findSome? fun e =>
    (defect? e.value).map (.inside s!"{what} `{s.label e.symbol}`")

def defect? (s : Schematic) : Option Defect :=
  ((s.instanceDefect? s.nodes "node" Node.defect?).or
    (s.instanceDefect? s.connections "connection" Connection.defect?)).or
    (s.instanceDefect? s.constraints "constraint" Constraint.defect?)

def verify (s : Schematic) : Except Fault Unit := Defect.check s.defect?

end Schematic

end Schematics

import Schematics.Schematic.Snapshot
import Schematics.Json

namespace Schematics

namespace Schematic

def summary (s : Schematic) : String :=
  s!"Schematic `{s.name}`: {s.typeCount} type(s), {s.nodeCount} node(s), {s.connectionCount} connection(s), {s.constraintCount} constraint(s)"

def countIn (s : Schematic) (c : Category) : Json := .int (s.typesIn c).size

def summaryJson (s : Schematic) : Json :=
  .object
    [("name", .string s.name),
      ("types", .object
        [("userDefined", s.countIn .userDefined), ("port", s.countIn .port),
          ("node", s.countIn .node), ("connection", s.countIn .connection),
          ("constraint", s.countIn .constraint)]),
      ("nodes", .int s.nodeCount), ("connections", .int s.connectionCount),
      ("constraints", .int s.constraintCount)]

end Schematic

end Schematics

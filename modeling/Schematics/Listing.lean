import Schematics.Listing.Value
import Schematics.Listing.Summary
import Schematics.Schematic.Lineage

namespace Schematics

namespace Schematic

def shapeText (s : Schematic) (shape : Shape) : String :=
  match shape with
  | .bool | .int | .string | .real => "base type"
  | .array element => s!"array of {s.describe element}"
  | _ =>
    match shape.supertype with
    | none => shape.category.text
    | some parent => s!"{shape.category.text} extends {s.describe parent}"

def endpointText (s : Schematic) (r : PortRef) : Except Fault String := do
  pure s!"{← s.nodeName r.node}:{r.port}"

def braced (values : Attributes) : String := "\x7b" ++ attributesText values ++ "\x7d"

def line (text : String) : String := text ++ "\n"

def padRight (width : Nat) (text : String) : String :=
  text ++ String.ofList (List.replicate (width - text.length) ' ')

def memberLines (s : Schematic) (label : String) (members : NameMap TypeId) : String :=
  String.join (members.entries.map fun e => line s!"         {label}{e.1}: {s.describe e.2}")

def typeLines (s : Schematic) (id : TypeId) (name : String) (d : TypeDef) :
    Except Fault String := do
  let heading := line s!"  {padRight 4 id.text} {name}: {s.shapeText d.shape}"
  let attributes := s.memberLines "." (← s.effectiveAttributes id)
  let ports ← match d.shape.ports? with
    | none => pure ""
    | some _ => s.memberLines "port " <$> s.effectivePorts id
  pure (heading ++ attributes ++ ports)

def portLine (name : String) (p : Port) : String :=
  if p.attributes.isEmpty then "" else line s!"    port {name} {braced p.attributes}"

def nodeLines (s : Schematic) (name : String) (n : Node) : Except Fault String := do
  let heading := line s!"  {name}: {← s.typeName n.type} {braced n.attributes}"
  pure (heading ++ String.join (n.ports.entries.map fun e => portLine e.1 e.2))

def connectionLine (s : Schematic) (name : String) (c : Connection) : Except Fault String := do
  let t ← s.typeName c.type
  let source ← s.endpointText c.source
  let target ← s.endpointText c.target
  pure (line s!"  {name}: {t} {source} -> {target} {braced c.attributes}")

def constraintLine (s : Schematic) (name : String) (c : Constraint) : Except Fault String := do
  pure (line s!"  {name}: {← s.typeName c.type} {braced c.attributes}")

def listing (s : Schematic) : Except Fault String := do
  let types ← s.typeList.mapM fun t => s.typeLines t.1 t.2.1 t.2.2
  let nodes ← s.nodesByName.entries.mapM fun e => s.nodeLines e.1 e.2
  let connections ← s.connectionsByName.entries.mapM fun e => s.connectionLine e.1 e.2
  let constraints ← s.constraintsByName.entries.mapM fun e => s.constraintLine e.1 e.2
  pure (String.join
    ([line s!"schematic `{s.name}`", line "types:"] ++ types ++ [line "nodes:"] ++ nodes ++
      [line "connections:"] ++ connections ++ [line "constraints:"] ++ constraints))

def typeJson (s : Schematic) (id : TypeId) (name : String) (d : TypeDef) : Json :=
  .object
    [("id", .int id.raw), ("name", .string name), ("category", .string d.category.text),
      ("kind", .string (s.shapeText d.shape))]

def nodeJson (s : Schematic) (n : Node) : Except Fault Json := do
  let ports := n.ports.map fun (p : Port) => attributesJson p.attributes
  pure (.object
    [("type", .string (← s.typeName n.type)), ("attributes", attributesJson n.attributes),
      ("ports", .object ports.entries)])

def connectionJson (s : Schematic) (c : Connection) : Except Fault Json := do
  let t ← s.typeName c.type
  let source ← s.endpointText c.source
  let target ← s.endpointText c.target
  pure (.object
    [("type", .string t), ("from", .string source), ("to", .string target),
      ("attributes", attributesJson c.attributes)])

def constraintJson (s : Schematic) (c : Constraint) : Except Fault Json := do
  pure (.object
    [("type", .string (← s.typeName c.type)), ("attributes", attributesJson c.attributes)])

def named {α : Type} (f : α → Except Fault Json) (m : NameMap α) : Except Fault Json :=
  Json.object <$> m.entries.mapM fun e => do pure (e.1, ← f e.2)

def listingJson (s : Schematic) : Except Fault Json := do
  let types := s.typeList.map fun t => s.typeJson t.1 t.2.1 t.2.2
  let nodes ← named s.nodeJson s.nodesByName
  let connections ← named s.connectionJson s.connectionsByName
  let constraints ← named s.constraintJson s.constraintsByName
  pure (.object
    [("schematicName", .string s.name), ("types", .array types), ("nodes", nodes),
      ("connections", connections), ("constraints", constraints)])

end Schematic

end Schematics

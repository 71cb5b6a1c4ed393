import Schematics.Value
import Schematics.Decimal.Layout
import Schematics.Json.Printer

namespace Schematics

mutual

def Value.trace : Value → List String
  | .bool b => [s!"bool {Json.boolText b}"]
  | .int i => [s!"int {i.toInt}"]
  | .string s => [s!"string {s}"]
  | .real x => [s!"real {Layout.listing.write x}"]
  | .array _ element items => s!"array {items.length} of {element.text}" :: traces items
  | .type d => [s!"type {d.category.text}"]
  | .node n => [s!"node {n.attributes.size} {n.ports.size}"]
  | .connection c => [s!"connection {c.source.text} -> {c.target.text}"]
  | .constraint c => [s!"constraint {c.attributes.size}"]

def traces : List Value → List String
  | [] => []
  | v :: rest => v.trace ++ traces rest

end

end Schematics

import Schematics.Value

namespace Schematics

mutual

def Value.same : Value → Value → Bool
  | .bool a, .bool b => a == b
  | .int a, .int b => a == b
  | .string a, .string b => a == b
  | .real a, .real b => a == b
  | .array t e items, .array t' e' items' =>
    t == t' && e == e' && sameItems items items'
  | .type d, .type d' => d == d'
  | .node ⟨t, ⟨attributes⟩, ⟨ports⟩⟩, .node n =>
    t == n.type && sameAttributes attributes n.attributes.entries &&
      samePorts ports n.ports.entries
  | .connection ⟨t, source, target, ⟨attributes⟩⟩, .connection c =>
    t == c.type && source == c.source && target == c.target &&
      sameAttributes attributes c.attributes.entries
  | .constraint ⟨t, ⟨attributes⟩⟩, .constraint c =>
    t == c.type && sameAttributes attributes c.attributes.entries
  | _, _ => false

def sameItems : List Value → List Value → Bool
  | [], [] => true
  | v :: rest, w :: rest' => v.same w && sameItems rest rest'
  | _, _ => false

def sameAttributes : List (String × Value) → List (String × Value) → Bool
  | [], [] => true
  | (name, v) :: rest, (name', w) :: rest' =>
    name == name' && v.same w && sameAttributes rest rest'
  | _, _ => false

def samePorts : List (String × PortOf Value) → List (String × PortOf Value) → Bool
  | [], [] => true
  | (name, ⟨t, ⟨attributes⟩⟩) :: rest, (name', p) :: rest' =>
    name == name' && t == p.type && sameAttributes attributes p.attributes.entries &&
      samePorts rest rest'
  | _, _ => false

end

end Schematics

import Schematics.TypeDef

namespace Schematics

inductive Stage where
  | userDefinedTypes
  | portTypes
  | nodeTypes
  | connectionTypes
  | constraintTypes
  | nodes
  | connections
  | constraints
  deriving DecidableEq, Repr

namespace Stage

def all : List Stage :=
  [.userDefinedTypes, .portTypes, .nodeTypes, .connectionTypes, .constraintTypes, .nodes,
    .connections, .constraints]

def key : Stage → String
  | .userDefinedTypes => "userDefinedTypes"
  | .portTypes => "portTypes"
  | .nodeTypes => "nodeTypes"
  | .connectionTypes => "connectionTypes"
  | .constraintTypes => "constraintTypes"
  | .nodes => "nodes"
  | .connections => "connections"
  | .constraints => "constraints"

def text : Stage → String
  | .userDefinedTypes => "user-defined types"
  | .portTypes => "port types"
  | .nodeTypes => "node types"
  | .connectionTypes => "connection types"
  | .constraintTypes => "constraint types"
  | .nodes => "nodes"
  | .connections => "connections"
  | .constraints => "constraints"

theorem key_injective {a b : Stage} (h : a.key = b.key) : a = b := by
  cases a <;> cases b <;> first | rfl | simp [key] at h

end Stage

end Schematics

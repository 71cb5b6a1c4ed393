namespace Schematics

inductive Namespace where
  | type
  | userDefinedType
  | portType
  | nodeType
  | connectionType
  | constraintType
  | node
  | port
  | connection
  | constraint
  deriving DecidableEq, Repr

def Namespace.text : Namespace → String
  | .type => "type"
  | .userDefinedType => "user-defined type"
  | .portType => "port type"
  | .nodeType => "node type"
  | .connectionType => "connection type"
  | .constraintType => "constraint type"
  | .node => "node"
  | .port => "port"
  | .connection => "connection"
  | .constraint => "constraint"

inductive Fault where
  | undeclared (space : Namespace) (name : String)
  | undeclaredAttribute (name : String)
  | typeMismatch (context expected found : String)
  | multipleDefinition (name : String)
  | multipleAssignment (space : Namespace) (name : String)
  | malformed (message : String)
  | invalidValue (name value expected : String)
  | supertypeCycle (name : String)
  | verification (message : String)
  | internal (message : String)
  deriving DecidableEq, Repr

namespace Fault

def internalText (message : String) : String := s!"internal compiler error: {message}"

def message : Fault → String
  | .undeclared space name => s!"undeclared {space.text} `{name}`"
  | .undeclaredAttribute name => s!"undeclared attribute `{name}`"
  | .typeMismatch context expected found =>
    s!"type mismatch in {context}: expected `{expected}`, found `{found}`"
  | .multipleDefinition name => s!"multiple definition of type `{name}`"
  | .multipleAssignment space name => s!"multiple assignment to {space.text} `{name}`"
  | .malformed message => s!"syntax error: {message}"
  | .invalidValue name value expected =>
    s!"invalid value `{value}` for attribute `{name}`: expected {expected}"
  | .supertypeCycle name => s!"supertype chain of `{name}` does not terminate"
  | .verification message => s!"verification failed: {message}"
  | .internal message => internalText message

def isInternal : Fault → Bool
  | .internal _ => true
  | _ => false

end Fault

end Schematics

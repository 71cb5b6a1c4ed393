import Schematics.Schematic.Lineage
import Schematics.Json.Printer
import Schematics.Decimal.Read

namespace Schematics

namespace Json

def scalarText : Json → String
  | .string s => s
  | .int i => toString i
  | .real x => realText x
  | .bool b => boolText b
  | _ => ""

end Json

namespace AttributeValue

def readScalar (shape : Shape) (name text : String) : Except Fault Value :=
  match shape with
  | .bool =>
    if text = "true" then .ok (.bool true)
    else if text = "false" then .ok (.bool false)
    else .error (.invalidValue name text "`true` or `false`")
  | .int =>
    match Decimal.readInt64? text with
    | some i => .ok (.int i)
    | none => .error (.invalidValue name text "a signed 64-bit integer")
  | .string => .ok (.string text)
  | .real =>
    match Decimal.readReal? text with
    | some x => .ok (.real x)
    | none => .error (.invalidValue name text "a finite floating-point number")
  | _ => .error (.undeclaredAttribute name)

def notArray (s : Schematic) (expected : TypeId) (name : String) : Fault :=
  .malformed
    s!"attribute `{name}` is an array but its declared type `{s.describe expected}` is not an array type"

def unsupported (name what : String) : Fault :=
  .internal s!"unsupported value shape for attribute `{name}`: {what}"

mutual

def read (s : Schematic) (expected : TypeId) (name : String) (raw : Json) :
    Except Fault Value := do
  let d ← s.typeDefinition expected
  match raw with
  | .null => throw (unsupported name "null")
  | .object _ => throw (unsupported name "object")
  | .array items =>
    match d.shape.element? with
    | none => throw (notArray s expected name)
    | some element => .array expected element <$> readItems s element name 0 items
  | scalar => readScalar d.shape name scalar.scalarText

def readItems (s : Schematic) (element : TypeId) (name : String) (index : Nat) :
    List Json → Except Fault (List Value)
  | [] => pure []
  | raw :: rest => do
    let v ← read s element s!"{name}[{index}]" raw
    pure (v :: (← readItems s element name (index + 1) rest))

end

def readDeclared (s : Schematic) (expected : Option TypeId) (name : String) (raw : Json) :
    Except Fault Value :=
  match expected with
  | none => .error (.undeclaredAttribute name)
  | some t => read s t name raw

end AttributeValue

end Schematics

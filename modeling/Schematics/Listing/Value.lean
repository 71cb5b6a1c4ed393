import Schematics.Value
import Schematics.Text.Quoted
import Schematics.Json.Printer

namespace Schematics

def bracketed (parts : List String) : String := "[" ++ String.intercalate ", " parts ++ "]"

mutual

def Value.listingText : Value → String
  | .bool b => Json.boolText b
  | .int i => toString i.toInt
  | .string s => Text.quoted s
  | .real x => Layout.listing.write x
  | .array _ _ items => bracketed (listingTexts items)
  | _ => ""

def listingTexts : List Value → List String
  | [] => []
  | v :: rest => v.listingText :: listingTexts rest

end

mutual

def Value.listingJson : Value → Json
  | .bool b => .bool b
  | .int i => .int i.toInt
  | .string s => .string s
  | .real x => if x.isFinite then .real x else .null
  | .array _ _ items => .array (listingJsons items)
  | _ => .null

def listingJsons : List Value → List Json
  | [] => []
  | v :: rest => v.listingJson :: listingJsons rest

end

def attributesText (values : Attributes) : String :=
  String.intercalate ", " (values.entries.map fun e => s!"{e.1} = {e.2.listingText}")

def attributesJson (values : Attributes) : Json :=
  .object (values.map Value.listingJson).entries

end Schematics

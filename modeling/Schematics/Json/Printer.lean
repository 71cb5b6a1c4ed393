import Schematics.Json
import Schematics.Decimal.Layout

namespace Schematics

namespace Json

def hexDigits (width n : Nat) : List Char :=
  let digits := Nat.toDigits 16 n
  List.replicate (width - digits.length) '0' ++ digits

def escapeChar (x : Char) : List Char :=
  match x with
  | '"' => ['\\', '"']
  | '\\' => ['\\', '\\']
  | '\x08' => ['\\', 'b']
  | '\x0c' => ['\\', 'f']
  | '\n' => ['\\', 'n']
  | '\r' => ['\\', 'r']
  | '\t' => ['\\', 't']
  | _ => if x < ' ' then '\\' :: 'u' :: hexDigits 4 x.toNat else [x]

def quote (s : String) : String := String.ofList ('"' :: (s.toList.flatMap escapeChar ++ ['"']))

def realText (x : Float) : String := if x.isFinite then Layout.document.write x else "null"

def boolText (b : Bool) : String := if b then "true" else "false"

def enclosed (opening closing : String) (parts : List String) : String :=
  opening ++ String.intercalate "," parts ++ closing

mutual

def compact : Json → String
  | .null => "null"
  | .bool b => boolText b
  | .int i => toString i
  | .real x => realText x
  | .string s => quote s
  | .array items => enclosed "[" "]" (compactItems items)
  | .object fields => enclosed "\x7b" "\x7d" (compactFields fields)

def compactItems : List Json → List String
  | [] => []
  | j :: rest => j.compact :: compactItems rest

def compactFields : List (String × Json) → List String
  | [] => []
  | (name, j) :: rest => s!"{quote name}:{j.compact}" :: compactFields rest

end

def indentation (level : Nat) : String := String.ofList (List.replicate (2 * level) ' ')

def block (level : Nat) (opening closing : String) (parts : List String) : String :=
  if parts.isEmpty then opening ++ closing
  else
    let lines := parts.map fun p => "\n" ++ indentation (level + 1) ++ p
    opening ++ String.intercalate "," lines ++ "\n" ++ indentation level ++ closing

mutual

def prettyAt (level : Nat) : Json → String
  | .array items => block level "[" "]" (prettyItems (level + 1) items)
  | .object fields => block level "\x7b" "\x7d" (prettyFields (level + 1) fields)
  | .null => "null"
  | .bool b => boolText b
  | .int i => toString i
  | .real x => realText x
  | .string s => quote s

def prettyItems (level : Nat) : List Json → List String
  | [] => []
  | j :: rest => j.prettyAt level :: prettyItems level rest

def prettyFields (level : Nat) : List (String × Json) → List String
  | [] => []
  | (name, j) :: rest => s!"{quote name}: {j.prettyAt level}" :: prettyFields level rest

end

def pretty (j : Json) : String := j.prettyAt 0

end Json

end Schematics

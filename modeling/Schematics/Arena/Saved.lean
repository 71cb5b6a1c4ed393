import Schematics.Arena
import Schematics.Json.Printer
import Schematics.Json.Skim

namespace Schematics

universe u

structure Codec (α : Type u) where
  write : α → Json
  read? : Json → Option α

namespace Codec

def text : Codec String where
  write := .string
  read?
    | .string s => some s
    | _ => none

end Codec

namespace Arena

variable {κ : Kind} {α : Type u}

def saveWith (f : Codec α) (a : Arena κ α) : String :=
  (Json.object [("items", .array (a.values.map f.write))]).compact

def itemsOf? (f : Codec α) : Json → Option (Arena κ α)
  | .array items => (items.mapM f.read?).map fun l => ⟨l.toArray⟩
  | _ => none

def ofFields? (f : Codec α) : List (String × Json) → Option (Arena κ α)
  | [(_, items)] => itemsOf? f items
  | _ => none

def ofList? (f : Codec α) : Json → Option (Arena κ α)
  | .array [items] => itemsOf? f items
  | _ => none

def loadWith? (f : Codec α) (text : String) : Option (Arena κ α) :=
  match Json.wanted? (· = "items") text with
  | some fields => ofFields? f fields
  | none => (Json.spelled text).toOption.bind (ofList? f)

def save (a : Arena κ String) : String := a.saveWith .text

def load? (text : String) : Option (Arena κ String) := loadWith? .text text

end Arena

end Schematics

import Schematics.Toml

/-!
Tables while they are built. How a table came about decides who may still add to it: a table with a
header of its own is open to no dotted key and to no second header.
-/

namespace Schematics

namespace Toml

inductive Origin where
  | header
  | implied
  | dotted
  deriving DecidableEq

inductive Item where
  | value (v : Toml)
  | table (origin : Origin) (entries : List (String × Item))
  | tables (elements : List (List (String × Item)))

abbrev Entries := List (String × Item)

namespace Entries

def set (entries : Entries) (k : String) (i : Item) : Entries :=
  entries.map fun e => if e.1 = k then (k, i) else e

def add (entries : Entries) (k : String) (i : Item) : Entries := entries ++ [(k, i)]

def alter (way : Origin) (change : Origin → Entries → Option Entries) :
    List String → Origin → Entries → Option Entries
  | [], origin, entries => change origin entries
  | k :: path, _, entries =>
    match entries.lookup k with
    | none => (fun inner => entries.add k (.table way inner)) <$> alter way change path way []
    | some (.value _) => none
    | some (.table origin inner) =>
      if way = .dotted ∧ origin = .header then none
      else (fun inner => entries.set k (.table origin inner)) <$>
        alter way change path origin inner
    | some (.tables elements) =>
      (fun last => entries.set k (.tables (elements.dropLast ++ [last]))) <$>
        alter way change path .header (elements.getLast?.getD [])

def insertAt (path : List String) (k : String) (v : Toml) (origin : Origin) (entries : Entries) :
    Option Entries :=
  alter .dotted
    (fun origin entries =>
      if (origin = .dotted) = (path = []) ∨ (entries.lookup k).isSome then none
      else some (entries.add k (.value v)))
    path origin entries

def insert (header path : List String) (k : String) (v : Toml) (root : Entries) : Option Entries :=
  alter .implied (insertAt path k v) header .header root

def openTable (path : List String) (k : String) (root : Entries) : Option Entries :=
  alter .implied
    (fun _ entries =>
      match entries.lookup k with
      | none => some (entries.add k (.table .header []))
      | some (.table .implied inner) => some (entries.set k (.table .header inner))
      | some _ => none)
    path .header root

def openElement (path : List String) (k : String) (root : Entries) : Option Entries :=
  alter .implied
    (fun _ entries =>
      match entries.lookup k with
      | none => some (entries.add k (.tables [[]]))
      | some (.tables elements) => some (entries.set k (.tables (elements ++ [[]])))
      | some _ => none)
    path .header root

end Entries

mutual

def Item.toToml : Item → Toml
  | .value v => v
  | .table _ entries => .table (finish entries)
  | .tables elements => .array (finishAll elements)

def finish : List (String × Item) → List (String × Toml)
  | [] => []
  | (k, i) :: rest => (k, i.toToml) :: finish rest

def finishAll : List (List (String × Item)) → List Toml
  | [] => []
  | entries :: rest => .table (finish entries) :: finishAll rest

end

end Toml

end Schematics

/-!
Documents as trees. The fields of an object are kept in order; a tree read from a text may spell a
field twice, and `collapse` leaves the first place and the last value.
-/

namespace Schematics

universe u

inductive Json where
  | null
  | bool (b : Bool)
  | int (i : Int)
  | real (x : Float)
  | string (s : String)
  | array (items : List Json)
  | object (fields : List (String × Json))

namespace Json

instance : Inhabited Json := ⟨null⟩

def putField {α : Type u} (fields : List (String × α)) (name : String) (a : α) :
    List (String × α) :=
  match fields with
  | [] => [(name, a)]
  | (other, b) :: rest =>
    if other = name then (other, a) :: rest else (other, b) :: putField rest name a

def mergeFields {α : Type u} (fields : List (String × α)) : List (String × α) :=
  fields.foldl (fun merged f => putField merged f.1 f.2) []

mutual

def collapse : Json → Json
  | .array items => .array (collapseItems items)
  | .object fields => .object (mergeFields (collapseFields fields))
  | j => j

def collapseItems : List Json → List Json
  | [] => []
  | j :: rest => j.collapse :: collapseItems rest

def collapseFields : List (String × Json) → List (String × Json)
  | [] => []
  | (name, j) :: rest => (name, j.collapse) :: collapseFields rest

end

end Json

end Schematics

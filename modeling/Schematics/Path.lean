namespace Schematics

namespace Path

def join (directory path : String) : String :=
  if path.toList.head? = some '/' ∨ directory = "" then path
  else if directory.toList.getLast? = some '/' then directory ++ path
  else directory ++ "/" ++ path

def split : List Char → List (List Char)
  | [] => [[]]
  | c :: rest =>
    if c = '/' then [] :: split rest
    else
      match split rest with
      | [] => [[c]]
      | s :: more => (c :: s) :: more

def dropIdle : List (List Char) → List (List Char)
  | [] => []
  | [s] => [s]
  | s :: rest => if s = [] ∨ s = ['.'] then dropIdle rest else s :: rest

def segments (path : String) : List (List Char) := dropIdle (split path.toList).reverse

def ofSegments (segments : List (List Char)) : String :=
  if segments = [[]] then "/" else .ofList (['/'].intercalate segments.reverse)

def parent? (path : String) : Option String :=
  match segments path with
  | [] | [[]] => none
  | _ :: rest => some (ofSegments (dropIdle rest))

def ancestorsUpTo : Nat → String → List String
  | 0, path => [path]
  | n + 1, path => path :: (parent? path).elim [] (ancestorsUpTo n)

def ancestors (path : String) : List String := ancestorsUpTo path.toList.length path

end Path

end Schematics

import Schematics.Json.Parser

/-!
Passing over values that nobody asks for. The brackets have to match, and strings and numbers to be
spelled as such, but no value is built: neither depth nor size is limited. Each step answers what
stands behind the thing passed over.
-/

namespace Schematics

namespace Json

inductive Bracket where
  | list
  | object
  deriving DecidableEq, Repr

def Bracket.closing : Bracket → Char
  | .list => ']'
  | .object => '\x7d'

def pastBlank (cs : List Char) : List Char := cs.dropWhile Cursor.isBlank

def pastLetters : List Char → List Char → Option (List Char)
  | [], cs => some cs
  | x :: xs, c :: cs => if c = x then pastLetters xs cs else none
  | _ :: _, [] => none

def pastString : List Char → Option (List Char)
  | [] => none
  | '"' :: rest => some rest
  | '\\' :: 'u' :: a :: b :: c :: d :: rest =>
    if (Text.hexValue? [a, b, c, d]).isSome then pastString rest else none
  | '\\' :: x :: rest => if (simpleEscape? x).isSome then pastString rest else none
  | x :: rest => if x < ' ' ∨ x = '\\' then none else pastString rest

def pastDigits (cs : List Char) : Option (List Char) :=
  if cs.head?.any Char.isDigit then some (cs.dropWhile Char.isDigit) else none

def pastFraction : List Char → Option (List Char)
  | '.' :: rest => pastDigits rest
  | cs => some cs

def pastExponent : List Char → Option (List Char)
  | 'e' :: '-' :: rest | 'e' :: '+' :: rest | 'E' :: '-' :: rest | 'E' :: '+' :: rest =>
    pastDigits rest
  | 'e' :: rest | 'E' :: rest => pastDigits rest
  | cs => some cs

def pastUnsigned (cs : List Char) : Option (List Char) :=
  if cs.head? = some '0' ∧ (cs.drop 1).head?.any Char.isDigit then none
  else ((pastDigits cs).bind pastFraction).bind pastExponent

def pastToken : List Char → Option (Option Bracket × List Char)
  | '[' :: rest => some (some .list, rest)
  | '\x7b' :: rest => some (some .object, rest)
  | 'n' :: rest => (pastLetters ['u', 'l', 'l'] rest).map (none, ·)
  | 't' :: rest => (pastLetters ['r', 'u', 'e'] rest).map (none, ·)
  | 'f' :: rest => (pastLetters ['a', 'l', 's', 'e'] rest).map (none, ·)
  | '"' :: rest => (pastString rest).map (none, ·)
  | '-' :: rest => (pastUnsigned rest).map (none, ·)
  | cs => (pastUnsigned cs).map (none, ·)

def pastName (b : Bracket) (cs : List Char) : Option (List Char) :=
  match b, pastBlank cs with
  | .list, cs => some cs
  | .object, '"' :: rest =>
    match (pastString rest).map pastBlank with
    | some (':' :: rest) => some rest
    | _ => none
  | .object, _ => none

def pastOpened : Nat → List Bracket → Bool → List Char → Option (List Char)
  | 0, _, _, _ => none
  | fuel + 1, opened, true, cs =>
    match pastToken (pastBlank cs) with
    | none => none
    | some (none, rest) => pastOpened fuel opened false rest
    | some (some b, rest) =>
      match pastBlank rest with
      | [] => none
      | x :: behind =>
        if x = b.closing then pastOpened fuel opened false behind
        else
          match pastName b rest with
          | some rest => pastOpened fuel (b :: opened) true rest
          | none => none
  | _ + 1, [], false, cs => some cs
  | fuel + 1, b :: opened, false, cs =>
    match pastBlank cs with
    | [] => none
    | x :: rest =>
      if x = b.closing then pastOpened fuel opened false rest
      else if x = ',' then
        match pastName b rest with
        | some rest => pastOpened fuel (b :: opened) true rest
        | none => none
      else none

def pastValue (cs : List Char) : Option (List Char) := pastOpened (cs.length + 1) [] true cs

def wantedFields (wanted : String → Bool) :
    Nat → Bool → List Char → Option (List (String × Json) × List Char)
  | 0, _, _ => none
  | fuel + 1, first, cs =>
    match pastBlank cs with
    | '\x7d' :: rest => some ([], rest)
    | cs => do
      let cs ← if first then some cs else pastLetters [','] cs
      let cs ← pastLetters ['"'] (pastBlank cs)
      let (name, c) ← (stringEnd cs {} []).toOption
      let cs ← pastLetters [':'] (pastBlank c.rest)
      if wanted name then
        let (j, c) ← (value (2 * cs.length + 2) (maxDepth - 1) ⟨cs, {}⟩).toOption
        let (fields, cs) ← wantedFields wanted fuel false c.rest
        pure ((name, j) :: fields, cs)
      else wantedFields wanted fuel false (← pastValue cs)

def wanted? (wanted : String → Bool) (text : String) : Option (List (String × Json)) := do
  let cs ← pastLetters ['\x7b'] (pastBlank text.toList)
  let (fields, cs) ← wantedFields wanted (cs.length + 1) true cs
  if (pastBlank cs).isEmpty then some fields else none

end Json

end Schematics

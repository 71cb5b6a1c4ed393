import Schematics.Json.Number
import Schematics.Text.Hexadecimal

namespace Schematics

namespace Json

def badHex (rest : List Char) (p : Position) : Error :=
  match Cursor.bytesOn? 4 rest p with
  | none => ⟨.endInString, Cursor.endOf rest p⟩
  | some q => ⟨.invalidEscape, q⟩

def badPair : List Char → Position → Error
  | '\\' :: 'u' :: rest, p => badHex rest (p.right 2)
  | ['\\'], p => ⟨.endInString, p.right 1⟩
  | '\\' :: x :: _, p => ⟨.endOfPair, (p.right 1).afterBytes x 1⟩
  | x :: _, p => ⟨.endOfPair, p.afterBytes x 1⟩
  | [], p => ⟨.endInString, p⟩

def simpleEscape? : Char → Option Char
  | '"' => some '"'
  | '\\' => some '\\'
  | '/' => some '/'
  | 'b' => some '\x08'
  | 'f' => some '\x0c'
  | 'n' => some '\n'
  | 'r' => some '\r'
  | 't' => some '\t'
  | _ => none

def isHighSurrogate (n : Nat) : Bool := 0xD800 ≤ n && n < 0xDC00

def isLowSurrogate (n : Nat) : Bool := 0xDC00 ≤ n && n < 0xE000

def pairValue (high low : Nat) : Nat := 0x10000 + (high - 0xD800) * 0x400 + (low - 0xDC00)

def stringEnd : List Char → Position → List Char → Except Error (String × Cursor)
  | [], p, _ => .error ⟨.endInString, p⟩
  | '"' :: rest, p, read => .ok (.ofList read.reverse, ⟨rest, p.right 1⟩)
  | ['\\'], p, _ => .error ⟨.endInString, p.right 1⟩
  | '\\' :: 'u' :: a :: b :: c :: d :: rest, p, read =>
    match Text.hexValue? [a, b, c, d] with
    | none => .error (badHex (a :: b :: c :: d :: rest) (p.right 2))
    | some n =>
      if isLowSurrogate n then .error ⟨.loneSurrogate, p.right 6⟩
      else if isHighSurrogate n then
        match rest with
        | '\\' :: 'u' :: a' :: b' :: c' :: d' :: rest' =>
          match Text.hexValue? [a', b', c', d'] with
          | none => .error (badPair rest (p.right 6))
          | some m =>
            if isLowSurrogate m then
              stringEnd rest' (p.right 12) (.ofNat (pairValue n m) :: read)
            else .error ⟨.loneSurrogate, p.right 12⟩
        | _ => .error (badPair rest (p.right 6))
      else stringEnd rest (p.right 6) (.ofNat n :: read)
  | '\\' :: x :: rest, p, read =>
    match simpleEscape? x with
    | some y => stringEnd rest (p.right 2) (y :: read)
    | none =>
      .error (if x = 'u' then badHex rest (p.right 2)
        else ⟨.invalidEscape, (p.right 1).afterBytes x 1⟩)
  | x :: rest, p, read =>
    if x < ' ' then .error ⟨.controlCharacter, p.afterBytes x 1⟩
    else stringEnd rest (p.after x) (x :: read)

def stringAt (c : Cursor) : Except Error (String × Cursor) :=
  stringEnd (c.rest.drop 1) (c.position.right 1) []

def word : List Char → Json → Cursor → Except Error (Json × Cursor)
  | [], j, c => .ok (j, c)
  | x :: rest, j, c =>
    match c.rest with
    | y :: _ => if y = x then word rest j (c.skip 1) else .error (c.ahead .noIdentifier)
    | [] => .error (c.here .endInValue)

def maxDepth : Nat := 127

mutual

def value (fuel depth : Nat) (start : Cursor) : Except Error (Json × Cursor) :=
  match fuel with
  | 0 => .error (start.here .tooDeep)
  | fuel + 1 =>
    let c := start.skipBlank
    match c.rest with
    | [] => .error (c.here .endInValue)
    | x :: _ =>
      if x = 'n' then word ['u', 'l', 'l'] .null (c.skip 1)
      else if x = 't' then word ['r', 'u', 'e'] (.bool true) (c.skip 1)
      else if x = 'f' then word ['a', 'l', 's', 'e'] (.bool false) (c.skip 1)
      else if x = '-' || x.isDigit then number c
      else if x = '"' then (fun r => (.string r.1, r.2)) <$> stringAt c
      else if x = '[' then
        if depth = 0 then .error (c.ahead .tooDeep)
        else (fun r => (.array r.1, r.2)) <$> items fuel (depth - 1) true (c.skip 1)
      else if x = '\x7b' then
        if depth = 0 then .error (c.ahead .tooDeep)
        else (fun r => (.object r.1, r.2)) <$> fields fuel (depth - 1) true (c.skip 1)
      else .error (c.ahead .noValue)

def items (fuel depth : Nat) (first : Bool) (start : Cursor) :
    Except Error (List Json × Cursor) :=
  match fuel with
  | 0 => .error (start.here .tooDeep)
  | fuel + 1 =>
    let c := start.skipBlank
    match c.rest with
    | [] => .error (c.here .endInList)
    | x :: _ =>
      if x = ']' then .ok ([], c.skip 1)
      else if !first && x ≠ ',' then .error (c.ahead .noListSeparator)
      else
        let c := if first then c else (c.skip 1).skipBlank
        if !first && c.rest.head? = some ']' then .error (c.ahead .trailingComma)
        else do
          let (j, c) ← value fuel depth c
          let (rest, c) ← items fuel depth false c
          pure (j :: rest, c)

def fields (fuel depth : Nat) (first : Bool) (start : Cursor) :
    Except Error (List (String × Json) × Cursor) :=
  match fuel with
  | 0 => .error (start.here .tooDeep)
  | fuel + 1 =>
    let c := start.skipBlank
    match c.rest with
    | [] => .error (c.here .endInObject)
    | x :: _ =>
      if x = '\x7d' then .ok ([], c.skip 1)
      else if !first && x ≠ ',' then .error (c.ahead .noObjectSeparator)
      else
        let c := if first then c else (c.skip 1).skipBlank
        match c.rest with
        | [] => .error (c.here .endInValue)
        | y :: _ =>
          if y = '\x7d' then .error (c.ahead .trailingComma)
          else if y ≠ '"' then .error (c.ahead .keyNotString)
          else do
            let (name, c) ← stringAt c
            let c := c.skipBlank
            if c.rest.head? = some ':' then
              let (j, c) ← value fuel depth (c.skip 1)
              let (rest, c) ← fields fuel depth false c
              pure ((name, j) :: rest, c)
            else throw (c.aheadOr .endInObject .noColon)

end

def spelled (text : String) : Except Error Json := do
  let cs := text.toList
  let (j, c) ← value (2 * cs.length + 2) maxDepth ⟨cs, {}⟩
  let c := c.skipBlank
  if c.rest.isEmpty then pure j else throw (c.ahead .trailingCharacters)

def parse (text : String) : Except Error Json := collapse <$> spelled text

end Json

end Schematics

import Schematics.Diagnostic

namespace Schematics

namespace CommandLine

inductive Action where
  | check
  | dump
  deriving DecidableEq, Repr

inductive Format where
  | text
  | json
  deriving DecidableEq, Repr

inductive Colour where
  | auto
  | always
  | never
  deriving DecidableEq, Repr

structure Invocation where
  action : Action
  document : Option String := none
  format : Format := .text
  verbosity : Verbosity := {}
  colour : Colour := .auto
  settings : Option String := none
  deriving DecidableEq, Repr

inductive Refusal where
  | help
  | version
  | nothingGiven
  | noCommand
  | unknownCommand
  | unknownArgument
  | badValue
  | unwantedValue
  | repeated
  deriving DecidableEq, Repr

inductive Switch where
  | quiet
  | verbose
  | colour
  | settings
  | format
  | help
  | version
  deriving DecidableEq, Repr

namespace Switch

def wantsValue : Switch → Bool
  | .colour | .settings | .format => true
  | _ => false

def ofName? : String → Option Switch
  | "quiet" => some .quiet
  | "verbose" => some .verbose
  | "color" => some .colour
  | "config" => some .settings
  | "format" => some .format
  | "help" => some .help
  | "version" => some .version
  | _ => none

def ofLetter? : Char → Option Switch
  | 'q' => some .quiet
  | 'v' => some .verbose
  | 'f' => some .format
  | 'h' => some .help
  | 'V' => some .version
  | _ => none

end Switch

inductive Level where
  | outer
  | inner
  deriving DecidableEq, Repr

def Level.allows : Level → Switch → Bool
  | .outer, .format => false
  | .inner, .version => false
  | _, _ => true

inductive Command where
  | run (a : Action)
  | help
  deriving DecidableEq, Repr

def Command.ofName? : String → Option Command
  | "check" => some (.run .check)
  | "dump" => some (.run .dump)
  | "help" => some .help
  | _ => none

structure Pending where
  switch : Switch
  value : Option String := none
  deriving DecidableEq, Repr

structure Given where
  quiet : Bool := false
  verbose : Bool := false
  colour : Option Colour := none
  settings : Option String := none
  format : Option Format := none
  document : Option String := none
  pending : Option Pending := none
  deriving DecidableEq, Repr

namespace Given

def readColour : String → Except Refusal Colour
  | "auto" => .ok .auto
  | "always" => .ok .always
  | "never" => .ok .never
  | _ => .error .badValue

def readFormat : String → Except Refusal Format
  | "text" => .ok .text
  | "json" => .ok .json
  | _ => .error .badValue

def once {α : Type} (already : Option α) (value : Except Refusal α) : Except Refusal (Option α) :=
  if already.isSome then .error .repeated else some <$> value

def assign (g : Given) (s : Switch) (value : String) : Except Refusal Given :=
  match s with
  | .colour => (fun c => { g with colour := c }) <$> once g.colour (readColour value)
  | .format => (fun f => { g with format := f }) <$> once g.format (readFormat value)
  | .settings => (fun p => { g with settings := p }) <$> once g.settings (.ok value)
  | _ => .error .unwantedValue

def turnOn (g : Given) : Switch → Except Refusal Given
  | .quiet => if g.quiet then .error .repeated else .ok { g with quiet := true }
  | .verbose => if g.verbose then .error .repeated else .ok { g with verbose := true }
  | .help => .error .help
  | .version => .error .version
  | _ => .error .badValue

def settle (g : Given) : Except Refusal Given :=
  match g.pending with
  | none => .ok g
  | some ⟨_, none⟩ => .error .badValue
  | some ⟨s, some value⟩ => assign { g with pending := none } s value

def isWaiting (g : Given) : Bool := g.pending.any fun p => p.value.isNone

def wait (g : Given) (s : Switch) : Given := { g with pending := some ⟨s, none⟩ }

def supply (g : Given) (value : String) : Given :=
  { g with pending := g.pending.map fun p => { p with value := some value } }

def take (g : Given) (s : Switch) (attached : Option String) : Except Refusal Given :=
  match s.wantsValue, attached with
  | true, some value => do assign (← g.settle) s value
  | true, none => do pure ((← g.settle).wait s)
  | false, some _ => .error .unwantedValue
  | false, none => do turnOn (← g.settle) s

def takeName (g : Given) (level : Level) (name : String) (attached : Option String) :
    Except Refusal Given :=
  match (Switch.ofName? name).filter level.allows with
  | some s => g.take s attached
  | none => .error .unknownArgument

def takeLetters (level : Level) : List Char → Given → Except Refusal Given
  | [], g => .ok g
  | c :: rest, g =>
    match (Switch.ofLetter? c).filter level.allows with
    | none => .error .unknownArgument
    | some s =>
      if s.wantsValue then
        match rest with
        | [] => g.take s none
        | '=' :: value => g.take s (some (.ofList value))
        | value => g.take s (some (.ofList value))
      else do takeLetters level rest (← g.take s none)

end Given

inductive Word where
  | escape
  | name (name : String) (attached : Option String)
  | letters (letters : List Char)
  | free
  deriving DecidableEq, Repr

def Word.ofText (word : String) : Word :=
  match word.toList with
  | ['-', '-'] => .escape
  | '-' :: '-' :: rest =>
    let name := rest.takeWhile (· ≠ '=')
    .name (.ofList name) (((rest.dropWhile (· ≠ '=')).tail?).map .ofList)
  | '-' :: c :: rest => .letters (c :: rest)
  | _ => .free

def takeFree (level : Level) (literal : Bool) (word : String) (g : Given) :
    Except Refusal Given :=
  match level with
  | .outer =>
    .error (if literal && (Command.ofName? word).isSome then .unknownArgument else .unknownCommand)
  | .inner =>
    if g.document.isSome then .error .unknownArgument
    else (fun g => { g with document := some word }) <$> g.settle

def readLevel (level : Level) :
    Bool → List String → Given → Except Refusal (Given × Option (Command × List String))
  | _, [], g => .ok (g, none)
  | true, word :: rest, g => do readLevel level true rest (← takeFree level true word g)
  | false, word :: rest, g =>
    match (if level = .outer ∧ !g.isWaiting then Command.ofName? word else none) with
    | some c => .ok (g, some (c, rest))
    | none =>
      match Word.ofText word with
      | .escape => readLevel level true rest g
      | .name name attached => do readLevel level false rest (← g.takeName level name attached)
      | .letters letters => do readLevel level false rest (← Given.takeLetters level letters g)
      | .free =>
        if g.isWaiting then readLevel level false rest (g.supply word)
        else do readLevel level false rest (← takeFree level false word g)

def helpOn : List String → Refusal
  | [] => .help
  | [word] => if (Command.ofName? word).isSome then .help else .unknownCommand
  | _ => .unknownCommand

def combine (a : Action) (outer inner : Given) : Invocation where
  action := a
  document := inner.document
  format := inner.format.getD .text
  verbosity :=
    { quiet := outer.quiet || inner.quiet, verbose := outer.verbose || inner.verbose }
  colour := (inner.colour <|> outer.colour).getD .auto
  settings := inner.settings <|> outer.settings

def parse (words : List String) : Except Refusal Invocation := do
  let (outer, command) ← readLevel .outer false words {}
  match command with
  | some (.help, rest) => throw (helpOn rest)
  | some (.run a, rest) =>
    let (inner, _) ← readLevel .inner false rest {}
    let inner ← inner.settle
    pure (combine a (← outer.settle) inner)
  | none => throw (if (← outer.settle) = {} then .nothingGiven else .noCommand)

end CommandLine

end Schematics

import Schematics.CommandLine.Usage
import Schematics.Project
import Schematics.Settings.Reader

namespace Schematics

namespace CommandLine

structure Host (m : Type → Type) where
  currentDirectory : m (Except String String)
  isFile : String → m Bool
  contents : String → m (Except String String)
  isTerminal : m Bool

variable {m : Type → Type} [Monad m]

def findDirectory (h : Host m) : List String → m (Option String)
  | [] => pure none
  | d :: rest => do
    if ← h.isFile (Path.join d Settings.fileName) then pure (some d) else findDirectory h rest

def readSettings (directory text : String) : Except RunError Project :=
  match Settings.readText text with
  | .ok settings => .ok { directory, settings }
  | .error e => .error (.settings e)

def projectIn (h : Host m) (directory : String) : m (Except RunError Project) := do
  match ← h.contents (Path.join directory Settings.fileName) with
  | .ok text => pure (readSettings directory text)
  | .error reason => pure (.error (.settings (.unreadable reason)))

def projectAt (h : Host m) (path : String) : m (Except RunError Project) := do
  if ← h.isFile path then
    match ← h.contents path with
    | .ok text => pure (readSettings ((Path.parent? path).getD ".") text)
    | .error reason => pure (.error (.surroundings reason))
  else projectIn h path

def findProject (h : Host m) (path : Option String) : m (Except RunError (Option Project)) := do
  match path with
  | some path => pure (some <$> (← projectAt h path))
  | none =>
    match ← h.currentDirectory with
    | .error reason => pure (.error (.surroundings reason))
    | .ok current =>
      match ← findDirectory h (Path.ancestors current) with
      | some directory => pure (some <$> (← projectIn h directory))
      | none => pure (.ok none)

def isColoured (h : Host m) : Colour → m Bool
  | .always => pure true
  | .never => pure false
  | .auto => h.isTerminal

def readAndReport (h : Host m) (i : Invocation) (o : ReadOptions) (path : String) : m Outcome := do
  match ← h.contents path with
  | .error reason => pure ((failure (.unreadable path reason)).behind (heading i path))
  | .ok text =>
    pure ((report i (← isColoured h i.colour) (.ofText o text)).behind (heading i path))

def run (h : Host m) (i : Invocation) : m Outcome := do
  match ← findProject h i.settings with
  | .error e => pure (failure e)
  | .ok project =>
    match Project.documentPath? project i.document with
    | none => pure (failure .noDocument)
    | some path => readAndReport h i (Project.reading project) path

def runWords (h : Host m) (words : List String) : m Outcome :=
  match parse words with
  | .ok i => run h i
  | .error r => pure (refuse r)

end CommandLine

end Schematics

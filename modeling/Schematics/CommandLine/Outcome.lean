import Schematics.CommandLine.Arguments
import Schematics.Diagnostic.Report
import Schematics.Diagnostic.Terminal
import Schematics.Document.Verdict
import Schematics.Listing
import Schematics.Settings

namespace Schematics

inductive RunError where
  | surroundings (reason : String)
  | settings (e : SettingsError)
  | noDocument
  | unreadable (path reason : String)
  deriving DecidableEq, Repr

namespace RunError

def message : RunError → String
  | .surroundings reason => reason
  | .settings e => e.message
  | .noDocument => "no schematic document given and none set in manifold.toml"
  | .unreadable path reason => s!"cannot read {path}: {reason}"

end RunError

namespace CommandLine

structure Outcome where
  exitCode : Nat
  output : String := ""
  messages : String := ""
  deriving DecidableEq, Repr

def errorLine (message : String) : String := s!"error: {message}\n"

def failure (e : RunError) : Outcome where
  exitCode := 1
  messages := errorLine e.message

def Outcome.behind (heading : String) (o : Outcome) : Outcome :=
  { o with messages := heading ++ o.messages }

def exitCode (v : Verdict) : Nat := if v.isGood then 0 else 1

def Invocation.isTalkative (i : Invocation) : Bool := !i.verbosity.quiet && i.format = .text

def renderAll (coloured : Bool) (ds : List Diagnostic) : String :=
  String.join (ds.map fun d => d.render coloured)

def heading (i : Invocation) (path : String) : String :=
  if i.action = .check ∧ i.isTalkative then s!"   Checking {path}\n" else ""

def closing (v : Verdict) : String :=
  let summary := v.schematic.elim "" fun s => s!"   {s.summary}\n"
  s!"{summary}   Result: {v.log.errorCount} error(s), {v.log.warningCount} warning(s)\n"

def checkJson (v : Verdict) (shown : List Diagnostic) : Json :=
  .object
    [("ok", .bool v.isGood), ("summary", v.schematic.elim .null Schematic.summaryJson),
      ("diagnostics", .array (shown.map Diagnostic.json))]

def check (i : Invocation) (coloured : Bool) (v : Verdict) : Outcome :=
  let shown := v.log.visible i.verbosity
  match i.format with
  | .text =>
    { exitCode := exitCode v
      messages := renderAll coloured shown ++ if i.verbosity.quiet then "" else closing v }
  | .json => { exitCode := exitCode v, output := (checkJson v shown).pretty ++ "\n" }

def listing (f : Format) (s : Schematic) : Except Fault String :=
  match f with
  | .text => s.listing
  | .json => (fun j => j.pretty ++ "\n") <$> s.listingJson

def dump (i : Invocation) (coloured : Bool) (v : Verdict) : Outcome :=
  let messages := renderAll coloured (v.log.visible i.verbosity)
  match v.schematic.map (listing i.format) with
  | none => { exitCode := 1, messages }
  | some (.ok output) => { exitCode := 0, output, messages }
  | some (.error e) => { exitCode := 1, messages := messages ++ errorLine e.message }

def report (i : Invocation) (coloured : Bool) (v : Verdict) : Outcome :=
  match i.action with
  | .check => check i coloured v
  | .dump => dump i coloured v

end CommandLine

end Schematics

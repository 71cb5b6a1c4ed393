import Schematics.Diagnostic

namespace Schematics

structure Log where
  pending : Array Diagnostic := #[]
  errorCount : Nat := 0
  warningCount : Nat := 0
  deriving DecidableEq

namespace Log

def emit (l : Log) (d : Diagnostic) : Log where
  pending := l.pending.push d
  errorCount := l.errorCount + if d.severity = .error then 1 else 0
  warningCount := l.warningCount + if d.severity = .warning then 1 else 0

def emitAll (l : Log) (ds : List Diagnostic) : Log := ds.foldl emit l

def diagnostics (l : Log) : List Diagnostic := l.pending.toList

def takeAll (l : Log) : List Diagnostic × Log := (l.diagnostics, { l with pending := #[] })

def hasErrors (l : Log) : Bool := 0 < l.errorCount

def visible (l : Log) (v : Verbosity) : List Diagnostic := l.diagnostics.filter (·.isVisible v)

@[simp] theorem diagnostics_emit (l : Log) (d : Diagnostic) :
    (l.emit d).diagnostics = l.diagnostics ++ [d] := by
  simp [emit, diagnostics]

@[simp] theorem diagnostics_emitAll (l : Log) (ds : List Diagnostic) :
    (l.emitAll ds).diagnostics = l.diagnostics ++ ds := by
  induction ds generalizing l with
  | nil => simp [emitAll]
  | cons d ds ih =>
    have h := ih (l.emit d)
    simp only [emitAll, List.foldl_cons] at h ⊢
    simp [h]

end Log

end Schematics

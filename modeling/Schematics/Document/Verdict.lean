import Schematics.Diagnostic.Log
import Schematics.Document.Reader

namespace Schematics

structure Verdict where
  log : Log
  schematic : Option Schematic

namespace Verdict

def ofReported (r : Reported DocumentError Schematic) : Verdict :=
  let log := ({} : Log).emitAll r.log
  match r.result with
  | .ok s => ⟨log, some s⟩
  | .error e => ⟨log.emit e.diagnostic, none⟩

def ofText (o : ReadOptions) (text : String) : Verdict := ofReported (Document.readText o text)

def isGood (v : Verdict) : Bool := v.schematic.isSome

end Verdict

end Schematics

import Schematics.CommandLine.Run
import Schematics.Proofs.CommandReports
import Schematics.Proofs.Rendering

/-!
What the exit code of a run depends on, and what a run that fails has to say. A run gets the text of a
document with the options to read it with, which nothing but the settings and the document asked for
decides; what it then reports differs between commands and switches, and the verdict does not.
-/

namespace Schematics

namespace Document

variable {o : ReadOptions} {s : Schematic}

end Document

namespace CommandLine

variable {h : Host Id} {i : Invocation} {o : ReadOptions} {path text : String}

def prepare (h : Host Id) (settings document : Option String) :
    Except RunError (ReadOptions × String × String) :=
  match findProject h settings with
  | .error e => .error e
  | .ok project =>
    match Project.documentPath? project document with
    | none => .error .noDocument
    | some path =>
      match h.contents path with
      | .error reason => .error (.unreadable path reason)
      | .ok text => .ok (Project.reading project, path, text)

theorem exists_listing {s : Schematic} (hs : s.Built) (f : Format) :
    ∃ output, listing f s = .ok output := by
  cases f with
  | text => exact hs.exists_listing
  | json =>
    obtain ⟨j, hj⟩ := hs.exists_listingJson
    exact ⟨_, map_eq_ok_iff.2 ⟨j, hj, rfl⟩⟩

def ahead (i : Invocation) : RunError → List String
  | .unreadable path _ => announcement i path
  | _ => []

def EndsEarly (h : Host Id) (i : Invocation) (r : Outcome) : Prop :=
  ∃ e sentence, prepare h i.settings i.document = .error e ∧ e.Says sentence ∧
    r = { exitCode := 1, messages := Text.ofLines (ahead i e ++ [s!"error: {sentence}"]) }

section Settings

variable {directory : String} {e : RunError}

end Settings

theorem EndsEarly.exitCode {r : Outcome} (he : EndsEarly h i r) : r.exitCode = 1 := by
  obtain ⟨_, _, -, -, rfl⟩ := he
  rfl

theorem EndsEarly.output {r : Outcome} (he : EndsEarly h i r) : r.output = "" := by
  obtain ⟨_, _, -, -, rfl⟩ := he
  rfl

end CommandLine

end Schematics

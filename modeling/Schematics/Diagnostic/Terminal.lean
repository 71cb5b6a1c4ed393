import Schematics.Diagnostic

namespace Schematics

def Severity.paint (s : Severity) (text : String) : String :=
  let colour :=
    match s with
    | .error => "1;31"
    | .warning => "1;33"
    | .note => "1;36"
  s!"\x1b[{colour}m{text}\x1b[0m"

def Diagnostic.render (d : Diagnostic) (colour : Bool) : String :=
  let label := s!"{d.severity.text}[{d.code.text}]"
  let heading := if colour then d.severity.paint label else label
  let location := d.location.elim "" fun l => s!"  --> {l}\n"
  let notes := d.notes.map fun n => s!"   = note: {n}\n"
  let help := d.help.map fun h => s!"   = help: {h}\n"
  s!"{heading}: {d.message}\n{location}{String.join notes}{String.join help}"

end Schematics

import Schematics.Diagnostic
import Schematics.Json

namespace Schematics

def Code.json (c : Code) : Json :=
  .object [("category", .string c.category.name), ("number", .int c.number)]

def Json.strings (texts : List String) : Json := .array (texts.map .string)

def Diagnostic.json (d : Diagnostic) : Json :=
  .object
    ([("severity", .string d.severity.text), ("code", d.code.json),
        ("message", .string d.message)] ++
      d.location.elim [] (fun l => [("location", .string l)]) ++
      (if d.notes.isEmpty then [] else [("notes", .strings d.notes)]) ++
      if d.help.isEmpty then [] else [("help", .strings d.help)])

end Schematics

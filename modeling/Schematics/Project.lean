import Schematics.Path
import Schematics.Settings

namespace Schematics

structure Project where
  directory : String
  settings : Settings
  deriving DecidableEq, Repr

namespace Project

def reading (p : Option Project) : ReadOptions := p.elim {} fun p => p.settings.reading

def documentPath? (p : Option Project) (given : Option String) : Option String :=
  given <|> p.bind fun p => p.settings.document.map (Path.join p.directory)

end Project

end Schematics

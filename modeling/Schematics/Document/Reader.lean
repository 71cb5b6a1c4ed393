import Schematics.Document.AttributeValue
import Schematics.Document.Endpoint
import Schematics.Document.Notice
import Schematics.Diagnostic.Reported
import Schematics.Json.Parser
import Schematics.Schematic.Register
import Schematics.Schematic.Verify

/-!
Reading a document into a schematic: section by section in the order of the stages, entry by entry
in the order of the document. The first entry that cannot be read or registered ends the reading.
-/

namespace Schematics

structure ReadOptions where
  delimiter : Char := ':'
  verify : Bool := true
  reportMissing : Bool := true
  deriving DecidableEq, Repr

abbrev Fields := List (String × Json)

namespace Document

def nameKey : String := "schematicName"

def requiredString (body : Fields) (key : String) : Except Fault String :=
  match body.lookup key with
  | some (.string s) => .ok s
  | some _ => .error (.malformed s!"`{key}` must be a string")
  | none => .error (.malformed s!"missing `{key}`")

def optionalObject (body : Fields) (key : String) : Except Fault (Option Fields) :=
  match body.lookup key with
  | some (.object fields) => .ok (some fields)
  | some _ => .error (.malformed s!"`{key}` must be an object")
  | none => .ok none

def lookupId (s : Schematic) (c : Category) (name : String) : Except Fault TypeId :=
  Prod.fst <$> s.lookup c name

def readMember (s : Schematic) (c : Category) (what : String) (f : String × Json) :
    Except Fault TypeId :=
  match f.2 with
  | .string t => lookupId s c t
  | _ => .error (.malformed s!"type of {what} `{f.1}` must be a type name")

def readMembers (s : Schematic) (c : Category) (what : String) (declared : Fields) :
    Except Fault (NameMap TypeId) :=
  declared.foldlM (fun members f => members.insert f.1 <$> readMember s c what f) ∅

def readDeclaredAttributes (s : Schematic) (body : Fields) : Except Fault (NameMap TypeId) := do
  match ← optionalObject body "attributes" with
  | none => pure ∅
  | some declared => readMembers s .userDefined "attribute" declared

def readDeclaredPorts (s : Schematic) (body : Fields) : Except Fault (NameMap TypeId) := do
  match ← optionalObject body "portTypes" with
  | none => throw (.malformed "missing `portTypes`")
  | some declared => readMembers s .port "port" declared

def readSupertype (s : Schematic) (c : Category) (body : Fields) :
    Except Fault (Option TypeId) :=
  match body.lookup "supertype" with
  | none => .ok none
  | some (.string name) => some <$> lookupId s c name
  | some _ => .error (.malformed "`supertype` must be a type name")

def readSignature (s : Schematic) (c : Category) (body : Fields) : Except Fault Signature := do
  let attributes ← readDeclaredAttributes s body
  pure { attributes, supertype := ← readSupertype s c body }

def readNodeSignature (s : Schematic) (body : Fields) : Except Fault NodeSignature := do
  let attributes ← readDeclaredAttributes s body
  let ports ← readDeclaredPorts s body
  pure { attributes, ports, supertype := ← readSupertype s .node body }

def readElementType (s : Schematic) (body : Fields) : Except Fault TypeId := do
  lookupId s .userDefined (← requiredString body "elementType")

def readInstanceType (s : Schematic) (c : Category) (body : Fields) : Except Fault TypeId := do
  lookupId s c (← requiredString body "type")

def readGiven (s : Schematic) (declared : NameMap TypeId) (given : Fields) :
    Except Fault Attributes :=
  given.foldlM
    (fun values f =>
      values.insert f.1 <$> AttributeValue.readDeclared s (declared.get? f.1) f.1 f.2)
    ∅

def readAttributes (s : Schematic) (owner : TypeId) (given : Option Fields) :
    Except Fault Attributes :=
  match given with
  | none => .ok ∅
  | some given => do readGiven s (← s.effectiveAttributes owner) given

def readInstanceAttributes (s : Schematic) (owner : TypeId) (body : Fields) :
    Except Fault Attributes := do
  readAttributes s owner (← optionalObject body "attributes")

def givenForPort (node port : String) (portAttrs : Option Fields) :
    Reported Fault (Option Fields) :=
  match portAttrs.bind (·.lookup port) with
  | none => pure none
  | some (.object given) => do
    if given.isEmpty then Reported.tell (Notice.emptyPortAttributes node port)
    pure (some given)
  | some _ => .fail (.malformed s!"`portAttrs` entry for port `{port}` must be an object")

def readPorts (s : Schematic) (node : String) (portAttrs : Option Fields) :
    List (String × TypeId) → NameMap Port → Reported Fault (NameMap Port)
  | [], ports => pure ports
  | (port, t) :: rest, ports => do
    let given ← givenForPort node port portAttrs
    let attributes ← .ofExcept (readAttributes s t given)
    readPorts s node portAttrs rest (ports.insert port ⟨t, attributes⟩)

def checkGivenPorts (declared : NameMap TypeId) (portAttrs : Option Fields) :
    Except Fault Unit :=
  match (portAttrs.getD []).find? fun f => !declared.contains f.1 with
  | some f => .error (.undeclared .port f.1)
  | none => .ok ()

def readNode (s : Schematic) (name : String) (body : Fields) : Reported Fault Node := do
  let t ← .ofExcept (readInstanceType s .node body)
  let attributes ← .ofExcept (readInstanceAttributes s t body)
  let declared ← .ofExcept (s.effectivePorts t)
  let portAttrs ← .ofExcept (optionalObject body "portAttrs")
  .ofExcept (checkGivenPorts declared portAttrs)
  let ports ← readPorts s name portAttrs declared.entries ∅
  pure ⟨t, attributes, ports⟩

def readConnection (s : Schematic) (delimiter : Char) (body : Fields) :
    Except Fault Connection := do
  let t ← readInstanceType s .connection body
  let attributes ← readInstanceAttributes s t body
  let source ← s.resolveEndpoint (← requiredString body "from") delimiter
  let target ← s.resolveEndpoint (← requiredString body "to") delimiter
  pure ⟨t, source, target, attributes⟩

def readConstraint (s : Schematic) (body : Fields) : Except Fault Constraint := do
  let t ← readInstanceType s .constraint body
  pure ⟨t, ← readInstanceAttributes s t body⟩

def readBody (delimiter : Char) (s : Schematic) (stage : Stage) (name : String)
    (body : Fields) : Reported Fault Schematic :=
  match stage with
  | .userDefinedTypes => .ofExcept do
    Prod.snd <$> s.addUserDefinedType name (.array (← readElementType s body))
  | .portTypes => .ofExcept do
    Prod.snd <$> s.addPortType name (← readSignature s .port body)
  | .nodeTypes => .ofExcept do
    Prod.snd <$> s.addNodeType name (← readNodeSignature s body)
  | .connectionTypes => .ofExcept do
    Prod.snd <$> s.addConnectionType name (← readSignature s .connection body)
  | .constraintTypes => .ofExcept do
    Prod.snd <$> s.addConstraintType name (← readSignature s .constraint body)
  | .nodes => do
    let n ← readNode s name body
    .ofExcept (Prod.snd <$> s.addNode name n)
  | .connections => .ofExcept do
    Prod.snd <$> s.addConnection name (← readConnection s delimiter body)
  | .constraints => .ofExcept do
    Prod.snd <$> s.addConstraint name (← readConstraint s body)

def readEntry (delimiter : Char) (s : Schematic) (stage : Stage) (name : String) (body : Json) :
    Reported Fault Schematic :=
  match body with
  | .object fields => readBody delimiter s stage name fields
  | _ => .fail (.malformed "entry must be an object")

def readEntries (delimiter : Char) (stage : Stage) :
    Schematic → Fields → Reported DocumentError Schematic
  | s, [] => pure s
  | s, (name, body) :: rest => do
    let s ← (readEntry delimiter s stage name body).mapError (.entry stage name)
    readEntries delimiter stage s rest

def readSection (o : ReadOptions) (root : Fields) (s : Schematic) (stage : Stage) :
    Reported DocumentError Schematic :=
  match root.lookup stage.key with
  | none => do
    if o.reportMissing then Reported.tell (Notice.missingSection stage)
    pure s
  | some (.object entries) => do
    let s ← readEntries o.delimiter stage s entries
    Reported.tell (Notice.stageComplete stage entries.length)
    pure s
  | some _ => .fail (.layout s!"section `{stage.key}` must be an object")

def readHeader (doc : Json) : Except DocumentError (String × Fields) :=
  match doc with
  | .object root =>
    match root.lookup nameKey with
    | some (.string name) => .ok (name, root)
    | some _ => .error (.layout s!"`{nameKey}` must be a string")
    | none => .error (.layout s!"missing `{nameKey}`")
  | _ => .error (.layout "document root must be an object")

def verified (o : ReadOptions) (s : Schematic) : Except DocumentError Schematic :=
  if o.verify then (fun _ => s) <$> s.verify.mapError .verification else .ok s

def read (o : ReadOptions) (doc : Json) : Reported DocumentError Schematic := do
  let (name, root) ← .ofExcept (readHeader doc)
  let s ← Stage.all.foldlM (readSection o root) (Schematic.new name)
  .ofExcept (verified o s)

def readText (o : ReadOptions) (text : String) : Reported DocumentError Schematic :=
  match Json.parse text with
  | .error e => .fail (.text e)
  | .ok doc => read o doc

end Document

end Schematics

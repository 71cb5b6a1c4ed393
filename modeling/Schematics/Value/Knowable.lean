import Schematics.Value

namespace Schematics

mutual

def Value.isElaborationKnowable : Value → Bool
  | .array _ _ items => areElaborationKnowable items
  | .node ⟨_, ⟨attributes⟩, ⟨ports⟩⟩ =>
    attributesElaborationKnowable attributes && portsElaborationKnowable ports
  | .connection ⟨_, _, _, ⟨attributes⟩⟩ => attributesElaborationKnowable attributes
  | _ => true

def areElaborationKnowable : List Value → Bool
  | [] => true
  | v :: rest => v.isElaborationKnowable && areElaborationKnowable rest

def attributesElaborationKnowable : List (String × Value) → Bool
  | [] => true
  | (_, v) :: rest => v.isElaborationKnowable && attributesElaborationKnowable rest

def portsElaborationKnowable : List (String × PortOf Value) → Bool
  | [] => true
  | (_, ⟨_, ⟨attributes⟩⟩) :: rest =>
    attributesElaborationKnowable attributes && portsElaborationKnowable rest

end

mutual

def Value.isRuntimeKnowable : Value → Bool
  | .array _ _ items => areRuntimeKnowable items
  | .type _ => false
  | .node ⟨_, ⟨attributes⟩, ⟨ports⟩⟩ =>
    attributesRuntimeKnowable attributes && portsRuntimeKnowable ports
  | .connection ⟨_, _, _, ⟨attributes⟩⟩ => attributesRuntimeKnowable attributes
  | .constraint _ => false
  | _ => true

def areRuntimeKnowable : List Value → Bool
  | [] => true
  | v :: rest => v.isRuntimeKnowable && areRuntimeKnowable rest

def attributesRuntimeKnowable : List (String × Value) → Bool
  | [] => true
  | (_, v) :: rest => v.isRuntimeKnowable && attributesRuntimeKnowable rest

def portsRuntimeKnowable : List (String × PortOf Value) → Bool
  | [] => true
  | (_, ⟨_, ⟨attributes⟩⟩) :: rest =>
    attributesRuntimeKnowable attributes && portsRuntimeKnowable rest

end

def Port.isElaborationKnowable (p : Port) : Bool :=
  attributesElaborationKnowable p.attributes.entries

def Port.isRuntimeKnowable (p : Port) : Bool := attributesRuntimeKnowable p.attributes.entries

end Schematics

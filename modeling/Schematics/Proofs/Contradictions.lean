import Schematics.Document.AttributeValue
import Schematics.Document.Endpoint
import Schematics.Proofs.LedgerRefinement
import Schematics.Proofs.TypeOrder
import Schematics.Schematic.Verify

/-!
No operation on a reachable schematic finds the store in contradiction with itself. The failures
that would say so stand behind look-ups that the indexes and the order of registration keep from
failing; only a value that no type can have is answered with one of them.
-/

namespace Schematics

def Fault.isContradiction : Fault → Bool
  | .supertypeCycle _ | .internal _ => true
  | _ => false

def Fault.isUnresolved : Fault → Bool
  | .undeclared _ _ | .malformed _ => true
  | _ => false

abbrev Sound {α : Type} (x : Except Fault α) : Prop := FailsOnly (fun f => f.isContradiction = false) x

abbrev Resolves {α : Type} (x : Except Fault α) : Prop := FailsOnly (fun f => f.isUnresolved = true) x

theorem Resolves.sound {α : Type} {x : Except Fault α} (h : Resolves x) : Sound x := by
  refine h.mono fun f hf => ?_
  cases f with
  | undeclared _ _ | malformed _ => rfl
  | _ => cases hf

theorem Ledger.resolves_found {α : Type} (space : Namespace) (text : String) (a : Option α) :
    Resolves (found space text a) := by
  cases a with
  | none => exact .error rfl
  | some a => exact .ok a

theorem Ledger.resolves_ask {α : Type} (l : Ledger) (q : Query α) : Resolves (l.ask q) := by
  cases q <;> first | exact resolves_found _ _ _ | exact .ok _

namespace Schematic

variable {s : Schematic}

theorem Consistent.resolves_ask {α : Type} (h : s.Consistent) (q : Query α) : Resolves (s.ask q) :=
  h.ask_eq q ▸ s.ledger.resolves_ask q

theorem resolves_requireCategory (c : Category) (id : TypeId) :
    Resolves (s.requireCategory c id) := by
  unfold requireCategory
  split
  · split
    · exact .ok ()
    · exact .error rfl
  · exact .error rfl

theorem resolves_typeDefinition (id : TypeId) : Resolves (s.typeDefinition id) := by
  refine .map _ ?_
  unfold typeEntry
  split
  · exact .ok _
  · exact .error rfl

theorem Grounded.resolves_lineage (h : s.Grounded) (id : TypeId) : Resolves (s.lineage id) := by
  intro f hf
  obtain hf | ⟨d, hd, -⟩ := bind_eq_error_iff.1 hf
  · exact resolves_typeDefinition id f hf
  · obtain ⟨above, hab⟩ := h.exists_above (typeDefinition_eq_ok_iff.1 hd)
    rw [hab.lineage] at hf
    exact nomatch hf

theorem Grounded.resolves_effectiveAttributes (h : s.Grounded) (id : TypeId) :
    Resolves (s.effectiveAttributes id) := .map _ (h.resolves_lineage id)

theorem resolves_inheritPorts (line : List (TypeId × TypeDef)) : Resolves (inheritPorts line) := by
  induction line with
  | nil => exact .ok _
  | cons link above ih =>
    apply FailsOnly.bind ih
    intro inherited _
    split
    · exact .ok _
    · exact .error rfl

theorem Grounded.resolves_effectivePorts (h : s.Grounded) (id : TypeId) :
    Resolves (s.effectivePorts id) :=
  .bind (h.resolves_lineage id) fun line _ => resolves_inheritPorts line

theorem resolves_portOf (n : Node) (port : String) : Resolves (portOf n port) := by
  unfold portOf
  split
  · exact .ok _
  · exact .error rfl

theorem resolves_resolvePort (r : PortRef) : Resolves (s.resolvePort r) := by
  refine .bind (.map _ ?_) fun n _ => resolves_portOf n _
  rw [instanceEntry_eq_found]
  exact Ledger.resolves_found _ _ _

theorem Consistent.resolves_resolveEndpoint (h : s.Consistent) (text : String) (delimiter : Char) :
    Resolves (s.resolveEndpoint text delimiter) := by
  refine .bind ?_ fun e _ => .bind (h.resolves_ask (.nodeId e.node)) fun id _ =>
    .bind (h.resolves_ask (.nodeById id)) fun n _ => .bind (resolves_portOf n _) fun _ _ => .ok _
  unfold Endpoint.parse
  split
  · exact .ok _
  · exact .error rfl

theorem resolves_checkMembers (c : Category) (members : NameMap TypeId) :
    Resolves (s.checkMembers c members) := .forM fun e _ => resolves_requireCategory c e.2

theorem sound_checkRedeclared (owner what : String) (declared inherited : NameMap TypeId) :
    Sound (s.checkRedeclared owner what declared inherited) := by
  apply FailsOnly.forM
  intro e _
  split
  · exact .ok ()
  · split
    · exact .ok ()
    · exact .error rfl

theorem Grounded.sound_checkInherited (h : s.Grounded) (name : String) (shape : Shape)
    (parent : TypeId) : Sound (s.checkInherited name shape parent) := by
  apply FailsOnly.bind (resolves_requireCategory _ _).sound
  intro _ _
  apply FailsOnly.bind (h.resolves_effectiveAttributes parent).sound
  intro inherited _
  apply FailsOnly.bind (sound_checkRedeclared _ _ _ _)
  intro _ _
  split
  · exact .ok ()
  · exact .bind (h.resolves_effectivePorts parent).sound
      fun inherited _ => sound_checkRedeclared _ _ _ _

theorem Grounded.sound_checkType (h : s.Grounded) (name : String) (shape : Shape) :
    Sound (s.checkType name shape) := by
  refine .guard rfl (.bind ?_ fun _ _ => .bind (resolves_checkMembers _ _).sound fun _ _ =>
    .bind (resolves_checkMembers _ _).sound fun _ _ => ?_)
  · unfold checkElement
    split
    · exact .ok ()
    · exact (resolves_requireCategory _ _).sound
  · unfold checkSupertype
    split
    · exact .ok ()
    · exact h.sound_checkInherited _ _ _

theorem Grounded.sound_checkAttributes (h : s.Grounded) (owner : TypeId) (values : Attributes) :
    Sound (s.checkAttributes owner values) := by
  refine .bind (h.resolves_effectiveAttributes owner).sound fun declared _ => .forM fun e _ => ?_
  split
  · exact .error rfl
  · split
    · exact .ok ()
    · exact .error rfl

theorem Grounded.sound_checkPorts (h : s.Grounded) (name : String) (declared : NameMap TypeId)
    (ports : NameMap Port) : Sound (s.checkPorts name declared ports) := by
  apply FailsOnly.forM
  intro e _
  split
  · exact .error rfl
  · split
    · exact h.sound_checkAttributes _ _
    · exact .error rfl

theorem sound_defectCheck (d : Option Defect) : Sound (Defect.check d) := by
  cases d with
  | none => exact .ok ()
  | some d => exact .error rfl

theorem Grounded.sound_check (h : s.Grounded) (i : Item) : Sound (s.check i) := by
  have hcategory (c : Category) (id : TypeId) : Sound (s.requireCategory c id) :=
    (resolves_requireCategory c id).sound
  cases i with
  | type name shape => exact h.sound_checkType name shape
  | node name n =>
    exact .guard rfl (.bind (hcategory _ _) fun _ _ =>
      .bind (h.sound_checkAttributes _ _) fun _ _ =>
      .bind (h.resolves_effectivePorts _).sound fun _ _ => h.sound_checkPorts _ _ _)
  | connection name c =>
    exact .guard rfl (.bind (hcategory _ _) fun _ _ =>
      .bind (h.sound_checkAttributes _ _) fun _ _ =>
      .bind (resolves_resolvePort _).sound fun _ _ =>
      .bind (resolves_resolvePort _).sound fun _ _ => sound_defectCheck _)
  | constraint name c =>
    exact .guard rfl (.bind (hcategory _ _) fun _ _ => h.sound_checkAttributes _ _)

theorem Grounded.sound_addType (h : s.Grounded) (name : String) (shape : Shape) :
    Sound (s.addType name shape) := .bind (h.sound_checkType name shape) fun _ _ => .ok _

theorem Grounded.sound_register (h : s.Grounded) (r : Registration) : Sound (s.register r) := by
  cases r with
  | userDefinedType name shape =>
    refine .map _ ?_
    unfold addUserDefinedType
    split
    · exact h.sound_addType name shape
    · exact .error rfl
  | portType name g | nodeType name g | connectionType name g | constraintType name g =>
    exact .map _ (h.sound_addType name _)
  | node name n => exact .map _ (.bind (h.sound_check (.node name n)) fun _ _ => .ok _)
  | connection name c => exact .map _ (.bind (h.sound_check (.connection name c)) fun _ _ => .ok _)
  | constraint name c => exact .map _ (.bind (h.sound_check (.constraint name c)) fun _ _ => .ok _)

end Schematic

end Schematics

import Schematics.Proofs.EntryReading
import Schematics.Proofs.Operations

namespace Schematics

def Stage.types : List Stage :=
  [.userDefinedTypes, .portTypes, .nodeTypes, .connectionTypes, .constraintTypes]

def Stage.instances : List Stage := [.nodes, .connections, .constraints]

def Fault.ArisesIn (stage : Stage) (supplied : List Json) : Fault → Prop
  | .undeclared _ _ | .malformed _ => True
  | .multipleAssignment _ _ | .supertypeCycle _ => False
  | .typeMismatch _ _ _ => stage ∈ [.portTypes, .nodeTypes, .connectionTypes, .constraintTypes]
  | .multipleDefinition _ => stage ∈ Stage.types
  | .verification _ => stage = .connections
  | .undeclaredAttribute _ | .invalidValue _ _ _ => stage ∈ Stage.instances
  | .internal _ => stage ∈ Stage.instances ∧ ∃ raw ∈ supplied, raw.Unsupported

abbrev FailsIn {α : Type} (stage : Stage) (supplied : List Json) (x : Except Fault α) : Prop :=
  FailsOnly (Fault.ArisesIn stage supplied) x

variable {stage : Stage} {supplied : List Json} {s : Schematic}

theorem Resolves.failsIn {α : Type} {x : Except Fault α} (h : Resolves x) :
    FailsIn stage supplied x := by
  refine h.mono fun f hf => ?_
  cases f with
  | undeclared _ _ | malformed _ => trivial
  | _ => cases hf

theorem Fault.OfValue.arisesIn {f : Fault} (hf : f.OfValue (∃ raw ∈ supplied, raw.Unsupported))
    (h : stage ∈ Stage.instances) : f.ArisesIn stage supplied := by
  cases f with
  | undeclared _ _ | malformed _ => trivial
  | undeclaredAttribute _ | invalidValue _ _ _ => exact h
  | internal message => exact ⟨h, hf⟩
  | typeMismatch _ _ _ | multipleDefinition _ | multipleAssignment _ _ | supertypeCycle _
  | verification _ => exact hf.elim

namespace Document

variable {body : Fields}

theorem resolves_requiredString (body : Fields) (key : String) :
    Resolves (requiredString body key) := by
  unfold requiredString
  split
  · exact .ok _
  · exact .error rfl
  · exact .error rfl

theorem resolves_optionalObject (body : Fields) (key : String) :
    Resolves (optionalObject body key) := by
  unfold optionalObject
  split
  · exact .ok _
  · exact .error rfl
  · exact .ok _

theorem resolves_lookupId (h : s.Consistent) (c : Category) (name : String) :
    Resolves (lookupId s c name) := .map _ (h.resolves_ask (.typeIn c name))

theorem resolves_readMembers (h : s.Consistent) (c : Category) (what : String) (declared : Fields) :
    Resolves (readMembers s c what declared) := by
  apply FailsOnly.foldlM
  intro members f _
  apply FailsOnly.map
  unfold readMember
  split
  · exact resolves_lookupId h c _
  · exact .error rfl

theorem resolves_readDeclaredAttributes (h : s.Consistent) (body : Fields) :
    Resolves (readDeclaredAttributes s body) := by
  apply FailsOnly.bind (resolves_optionalObject body "attributes")
  intro declared _
  split
  · exact .ok _
  · exact resolves_readMembers h _ _ _

theorem resolves_readDeclaredPorts (h : s.Consistent) (body : Fields) :
    Resolves (readDeclaredPorts s body) := by
  apply FailsOnly.bind (resolves_optionalObject body "portTypes")
  intro declared _
  split
  · exact .error rfl
  · exact resolves_readMembers h _ _ _

theorem resolves_readSupertype (h : s.Consistent) (c : Category) (body : Fields) :
    Resolves (readSupertype s c body) := by
  unfold readSupertype
  split
  · exact .ok _
  · exact .map _ (resolves_lookupId h c _)
  · exact .error rfl

theorem resolves_readSignature (h : s.Consistent) (c : Category) (body : Fields) :
    Resolves (readSignature s c body) :=
  .bind (resolves_readDeclaredAttributes h body) fun _ _ =>
    .bind (resolves_readSupertype h c body) fun _ _ => .ok _

theorem resolves_readNodeSignature (h : s.Consistent) (body : Fields) :
    Resolves (readNodeSignature s body) :=
  .bind (resolves_readDeclaredAttributes h body) fun _ _ =>
    .bind (resolves_readDeclaredPorts h body) fun _ _ =>
      .bind (resolves_readSupertype h .node body) fun _ _ => .ok _

theorem resolves_readShape (h : s.Consistent) (c : Category) (body : Fields) :
    Resolves (readShape s c body) := by
  cases c with
  | userDefined =>
    exact .map _ (.bind (resolves_requiredString body _) fun name _ => resolves_lookupId h _ name)
  | port | connection | constraint => exact .map _ (resolves_readSignature h _ body)
  | node => exact .map _ (resolves_readNodeSignature h body)

theorem resolves_readInstanceType (h : s.Consistent) (c : Category) (body : Fields) :
    Resolves (readInstanceType s c body) :=
  .bind (resolves_requiredString body _) fun name _ => resolves_lookupId h c name

theorem readGiven_failsOnly (declared : NameMap TypeId) (given : Fields) :
    FailsOnly (Fault.OfValue (∃ f ∈ given, f.2.Unsupported)) (readGiven s declared given) := by
  apply FailsOnly.foldlM
  intro read f hf
  apply FailsOnly.map
  unfold AttributeValue.readDeclared
  split
  · exact .error trivial
  · exact (AttributeValue.read_failsOnly s f.2 _ f.1).mono fun _ => .mono fun hu => ⟨f, hf, hu⟩

theorem readAttributes_failsOnly (h : s.Grounded) (owner : TypeId) (given : Option Fields) :
    FailsOnly (Fault.OfValue (∃ f ∈ given.getD [], f.2.Unsupported))
      (readAttributes s owner given) := by
  cases given with
  | none => exact .ok _
  | some given =>
    exact .bind (h.resolves_effectiveAttributes owner).ofValue fun declared _ =>
      readGiven_failsOnly declared given

def suppliedValues (stage : Stage) (body : Fields) : List Json :=
  (given "attributes" body).map Prod.snd ++
    if stage = .nodes then (given "portAttrs" body).flatMap fun p => p.2.fieldsOf.map Prod.snd
    else []

theorem readInstanceAttributes_failsOnly (h : s.Grounded) (owner : TypeId) (stage : Stage)
    (body : Fields) : FailsOnly (Fault.OfValue (∃ raw ∈ suppliedValues stage body, raw.Unsupported))
      (readInstanceAttributes s owner body) := by
  apply FailsOnly.bind (resolves_optionalObject body "attributes").ofValue
  intro attributes ha
  refine (readAttributes_failsOnly h owner attributes).mono fun _ => .mono ?_
  rw [(optionalObject_eq_ok_iff.1 ha).2, ← given_eq]
  rintro ⟨f, hf, hu⟩
  exact ⟨f.2, List.mem_append_left _ (List.mem_map_of_mem hf), hu⟩

theorem readPort_failsOnly (h : s.Grounded) (node : String) (attrs : Option Fields)
    (e : String × TypeId) :
    FailsOnly (Fault.OfValue (∃ p ∈ attrs.getD [], ∃ f ∈ p.2.fieldsOf, f.2.Unsupported))
      (readPort s node attrs e) := by
  have hgiven : Resolves (givenForPort node e.1 attrs).result := by
    unfold givenForPort
    split
    · exact .ok _
    · split <;> exact .ok _
    · exact .error rfl
  refine .bind hgiven.ofValue fun o ho => .bind ?_ fun _ _ => .ok _
  refine (readAttributes_failsOnly h e.2 o).mono fun _ => .mono ?_
  rw [(givenForPort_eq_ok_iff.1 ho).2]
  cases hj : (attrs.getD []).lookup e.1 with
  | none => exact fun ⟨_, hf, _⟩ => absurd hf List.not_mem_nil
  | some j => exact fun ⟨f, hf, hu⟩ => ⟨_, mem_of_lookup_eq_some hj, f, hf, hu⟩

theorem readNode_failsOnly (hc : s.Consistent) (hg : s.Grounded) (name : String) (body : Fields) :
    FailsOnly (Fault.OfValue (∃ raw ∈ suppliedValues .nodes body, raw.Unsupported))
      (readNode s name body).result := by
  have hcheck (declared : NameMap TypeId) (attrs : Option Fields) :
      Resolves (checkGivenPorts declared attrs) := by
    unfold checkGivenPorts
    split
    · exact .error rfl
    · exact .ok _
  simp only [readNode, Reported.result_bind, Reported.result_ofExcept, Reported.result_pure,
    readPorts_result]
  refine .bind (resolves_readInstanceType hc _ body).ofValue fun t _ =>
    .bind (readInstanceAttributes_failsOnly hg t _ body) fun _ _ =>
    .bind (hg.resolves_effectivePorts t).ofValue fun declared _ =>
    .bind (resolves_optionalObject body _).ofValue fun attrs hattrs =>
    .bind (hcheck declared attrs).ofValue fun _ _ => .bind (.foldlM fun _ e _ => .map _ ?_) fun _ _ => .ok _
  refine (readPort_failsOnly hg name attrs e).mono fun _ => .mono ?_
  rw [(optionalObject_eq_ok_iff.1 hattrs).2, ← given_eq]
  rintro ⟨p, hp, f, hf, hu⟩
  exact ⟨f.2, List.mem_append_right _ (List.mem_flatMap.2 ⟨p, hp, List.mem_map_of_mem hf⟩), hu⟩

theorem readConnection_failsOnly (hc : s.Consistent) (hg : s.Grounded) (delimiter : Char)
    (body : Fields) :
    FailsOnly (Fault.OfValue (∃ raw ∈ suppliedValues .connections body, raw.Unsupported))
      (readConnection s delimiter body) :=
  .bind (resolves_readInstanceType hc _ body).ofValue fun t _ =>
    .bind (readInstanceAttributes_failsOnly hg t _ body) fun _ _ =>
    .bind (resolves_requiredString body _).ofValue fun _ _ =>
    .bind (hc.resolves_resolveEndpoint _ _).ofValue fun _ _ =>
    .bind (resolves_requiredString body _).ofValue fun _ _ =>
    .bind (hc.resolves_resolveEndpoint _ _).ofValue fun _ _ => .ok _

theorem readConstraint_failsOnly (hc : s.Consistent) (hg : s.Grounded) (body : Fields) :
    FailsOnly (Fault.OfValue (∃ raw ∈ suppliedValues .constraints body, raw.Unsupported))
      (readConstraint s body) :=
  .bind (resolves_readInstanceType hc _ body).ofValue fun t _ =>
    .bind (readInstanceAttributes_failsOnly hg t _ body) fun _ _ => .ok _

theorem failsIn_readItem (hc : s.Consistent) (hg : s.Grounded) (delimiter : Char) (stage : Stage)
    (name : String) (body : Fields) :
    FailsIn stage (suppliedValues stage body) (readItem delimiter s stage name body) := by
  obtain ⟨c, rfl⟩ | rfl | rfl | rfl := stage.types_or_instances
  · rw [readItem_type]
    exact .map _ (resolves_readShape hc c body).failsIn
  · exact .map _ ((readNode_failsOnly hc hg name body).mono fun _ hf => hf.arisesIn (by decide))
  · exact .map _ ((readConnection_failsOnly hc hg delimiter body).mono fun _ hf =>
      hf.arisesIn (by decide))
  · exact .map _ ((readConstraint_failsOnly hc hg body).mono fun _ hf => hf.arisesIn (by decide))

end Document

end Schematics

import Schematics.Proofs.FieldReading
import Schematics.Proofs.LedgerRefinement

namespace Schematics

namespace Schematic

variable {s : Schematic}

theorem type?_of_lookup {c : Category} {name : String} {id : TypeId} {d : TypeDef}
    (h : s.lookup c name = .ok (id, d)) : s.type? id = some d := by
  unfold lookup at h
  split at h
  · cases h
  · next found hfound =>
    split at h
    · next e he =>
      split at h
      · simp only [Except.ok.injEq, Prod.mk.injEq] at h
        obtain ⟨rfl, rfl⟩ := h
        rw [type?, he]
        rfl
      · cases h
    · cases h

theorem Grounded.effectiveAttributes_of_lookup (h : s.Grounded) {c : Category} {name : String}
    {id : TypeId} (hid : Document.lookupId s c name = .ok id) :
    ∃ declared, s.effectiveAttributes id = .ok declared := by
  obtain ⟨d, hd⟩ := Document.lookupId_eq_ok_iff.1 hid
  exact h.exists_effectiveAttributes (type?_of_lookup hd)

theorem sorted_inheritPorts {line : List (TypeId × TypeDef)} {m : NameMap TypeId}
    (h : inheritPorts line = .ok m) : m.Sorted := by
  induction line generalizing m with
  | nil =>
    obtain rfl := Except.ok.inj h
    exact NameMap.sorted_empty
  | cons link above ih =>
    obtain ⟨id, d⟩ := link
    obtain ⟨inherited, hinherited, hm⟩ := bind_eq_ok_iff.1 h
    cases hp : d.shape.ports? with
    | none =>
      rw [hp] at hm
      exact nomatch hm
    | some own =>
      rw [hp] at hm
      obtain rfl := Except.ok.inj hm
      exact (ih hinherited).override

theorem sorted_effectivePorts {id : TypeId} {m : NameMap TypeId}
    (h : s.effectivePorts id = .ok m) : m.Sorted := by
  obtain ⟨line, -, hm⟩ := bind_eq_ok_iff.1 h
  exact sorted_inheritPorts hm

end Schematic

namespace Document

variable {s s' : Schematic} {body : Fields} {c : Category}

structure ReadsInstance (s : Schematic) (c : Category) (name : String) (body : Fields) (id : TypeId)
    (values : Attributes) : Prop where
  type : body.lookup "type" = some (.string name)
  found : lookupId s c name = .ok id
  attributes : ObjectOrAbsent "attributes" body
  values : ∃ declared, s.effectiveAttributes id = .ok declared ∧
    Spells (ReadsValue s declared) (given "attributes" body) values

theorem exists_readsInstance_iff (h : s.Grounded) (hb : (Json.object body).Distinct) {id : TypeId}
    {values : Attributes} : (∃ name, ReadsInstance s c name body id values) ↔
      readInstanceType s c body = .ok id ∧ readInstanceAttributes s id body = .ok values := by
  rw [readInstanceType_eq_ok_iff]
  constructor
  · rintro ⟨name, htype, hid, ho, declared, hdeclared, hvalues⟩
    exact ⟨⟨name, htype, hid⟩,
      (readInstanceAttributes_eq_ok_iff hb hdeclared).2 ⟨ho, hvalues⟩⟩
  · rintro ⟨⟨name, htype, hid⟩, hread⟩
    obtain ⟨declared, hdeclared⟩ := h.effectiveAttributes_of_lookup hid
    obtain ⟨ho, hvalues⟩ := (readInstanceAttributes_eq_ok_iff hb hdeclared).1 hread
    exact ⟨name, htype, hid, ho, declared, hdeclared, hvalues⟩

structure ReadsPorts (s : Schematic) (name : String) (body : Fields) (id : TypeId)
    (ports : NameMap Port) : Prop where
  portAttrs : ObjectOrAbsent "portAttrs" body
  ports : ∃ declared, s.effectivePorts id = .ok declared ∧
    (∀ f ∈ given "portAttrs" body, ∃ t, declared.get? f.1 = some t) ∧
    Spells (fun port t p =>
      readPort s name ((body.lookup "portAttrs").map Json.fieldsOf) (port, t) = .ok p)
      declared.entries ports

theorem readNode_eq_ok_iff (h : s.Grounded) (hb : (Json.object body).Distinct) {name : String}
    {n : Node} : (readNode s name body).result = .ok n ↔
      (∃ type, ReadsInstance s .node type body n.type n.attributes) ∧
        ReadsPorts s name body n.type n.ports := by
  obtain ⟨type, attributes, ports⟩ := n
  rw [exists_readsInstance_iff h hb]
  simp only [readNode, Reported.result_bind, Reported.result_ofExcept, Reported.result_pure,
    bind_eq_ok_iff, exists_unit_iff, optionalObject_eq_ok_iff, readPorts_result,
    checkGivenPorts_eq_ok_iff, Except.ok.injEq, NodeOf.mk.injEq]
  constructor
  · rintro ⟨_, htype, _, hvalues, declared, hdeclared, _, ⟨ho, rfl⟩, hknown, _, hports, rfl, rfl, rfl⟩
    have hsorted := Schematic.sorted_effectivePorts hdeclared
    refine ⟨⟨htype, hvalues⟩, ho, declared, hdeclared, given_eq "portAttrs" body ▸ hknown, ?_⟩
    exact (foldlM_eq_ok_iff_spells hsorted.nodup).1 hports
  · rintro ⟨⟨htype, hvalues⟩, ho, declared, hdeclared, hknown, hports⟩
    have hsorted := Schematic.sorted_effectivePorts hdeclared
    exact ⟨_, htype, _, hvalues, declared, hdeclared, _, ⟨ho, rfl⟩, given_eq "portAttrs" body ▸ hknown,
      _, (foldlM_eq_ok_iff_spells hsorted.nodup).2 hports, rfl, rfl, rfl⟩

theorem readConnection_eq_ok_iff (h : s.Grounded) (hb : (Json.object body).Distinct)
    {delimiter : Char} {k : Connection} : readConnection s delimiter body = .ok k ↔
      (∃ type, ReadsInstance s .connection type body k.type k.attributes) ∧
        (∃ text, body.lookup "from" = some (.string text) ∧
          s.resolveEndpoint text delimiter = .ok k.source) ∧
        ∃ text, body.lookup "to" = some (.string text) ∧
          s.resolveEndpoint text delimiter = .ok k.target := by
  obtain ⟨type, source, target, attributes⟩ := k
  rw [exists_readsInstance_iff h hb]
  simp only [readConnection, bind_eq_ok_iff, requiredString_eq_ok_iff, pure_eq_ok, Except.ok.injEq,
    ConnectionOf.mk.injEq]
  constructor
  · rintro ⟨_, htype, _, hvalues, t, ht, _, hs, t', ht', _, hs', rfl, rfl, rfl, rfl⟩
    exact ⟨⟨htype, hvalues⟩, ⟨t, ht, hs⟩, t', ht', hs'⟩
  · rintro ⟨⟨htype, hvalues⟩, ⟨t, ht, hs⟩, t', ht', hs'⟩
    exact ⟨_, htype, _, hvalues, t, ht, _, hs, t', ht', _, hs', rfl, rfl, rfl, rfl⟩

theorem readConstraint_eq_ok_iff (h : s.Grounded) (hb : (Json.object body).Distinct)
    {k : Constraint} : readConstraint s body = .ok k ↔
      ∃ type, ReadsInstance s .constraint type body k.type k.attributes := by
  obtain ⟨type, attributes⟩ := k
  rw [exists_readsInstance_iff h hb]
  simp only [readConstraint, bind_eq_ok_iff, pure_eq_ok, Except.ok.injEq, ConstraintOf.mk.injEq]
  constructor
  · rintro ⟨_, htype, _, hvalues, rfl, rfl⟩
    exact ⟨htype, hvalues⟩
  · rintro ⟨htype, hvalues⟩
    exact ⟨_, htype, _, hvalues, rfl, rfl⟩

def readItem (delimiter : Char) (s : Schematic) (stage : Stage) (name : String) (body : Fields) :
    Except Fault Item :=
  match stage with
  | .userDefinedTypes => (fun t => .type name (.array t)) <$> readElementType s body
  | .portTypes => (fun g => .type name (.port g)) <$> readSignature s .port body
  | .nodeTypes => (fun g => .type name (.node g)) <$> readNodeSignature s body
  | .connectionTypes => (fun g => .type name (.connection g)) <$> readSignature s .connection body
  | .constraintTypes => (fun g => .type name (.constraint g)) <$> readSignature s .constraint body
  | .nodes => Item.node name <$> (readNode s name body).result
  | .connections => Item.connection name <$> readConnection s delimiter body
  | .constraints => Item.constraint name <$> readConstraint s body

def readShape (s : Schematic) (c : Category) (body : Fields) : Except Fault Shape :=
  match c with
  | .userDefined => Shape.array <$> readElementType s body
  | .port => Shape.port <$> readSignature s .port body
  | .node => Shape.node <$> readNodeSignature s body
  | .connection => Shape.connection <$> readSignature s .connection body
  | .constraint => Shape.constraint <$> readSignature s .constraint body

theorem readBody_type (delimiter : Char) (s : Schematic) (c : Category) (name : String)
    (body : Fields) : (readBody delimiter s c.stage name body).result =
      readShape s c body >>= fun shape => Prod.snd <$> s.addShape name shape := by
  cases c <;>
    simp only [Category.stage, readBody, readShape, Reported.result_ofExcept, bind_map_left] <;>
    rfl

theorem readItem_type (delimiter : Char) (s : Schematic) (c : Category) (name : String)
    (body : Fields) :
    readItem delimiter s c.stage name body = Item.type name <$> readShape s c body := by
  cases c <;> simp only [Category.stage, readItem, readShape, Functor.map_map]

theorem readBody_result {delimiter : Char} {stage : Stage} {name : String} :
    (readBody delimiter s stage name body).result = readItem delimiter s stage name body >>= fun i =>
      s.check i >>= fun _ => .ok (s.record i) := by
  obtain ⟨c, rfl⟩ | rfl | rfl | rfl := stage.types_or_instances
  · simp only [readBody_type, readItem_type, bind_map_left, Schematic.addShape_eq,
      Schematic.addType, map_bind]
    rfl
  all_goals
    simp only [readBody, readItem, Reported.result_bind, Reported.result_ofExcept, bind_map_left,
      Schematic.addNode, Schematic.addConnection, Schematic.addConstraint, map_bind]
    rfl

theorem readBody_eq_ok_iff {delimiter : Char} {stage : Stage} {name : String} :
    (readBody delimiter s stage name body).result = .ok s' ↔
      ∃ i, readItem delimiter s stage name body = .ok i ∧ s.check i = .ok () ∧ s' = s.record i := by
  simp only [readBody_result, bind_eq_ok_iff, exists_unit_iff, Except.ok.injEq, eq_comm (a := s')]

end Document

end Schematics

import Schematics.Proofs.Denotation
import Schematics.Proofs.TypeOrder

namespace Schematics

variable {ε α β : Type}

namespace Reported

@[simp] theorem result_bind (x : Reported ε α) (f : α → Reported ε β) :
    (x >>= f).result = x.result >>= fun a => (f a).result := by
  cases h : x.result with
  | error e => rw [bind_error h]; rfl
  | ok a => rw [bind_ok h]; rfl

@[simp] theorem result_ofExcept (r : Except ε α) : (ofExcept r).result = r := rfl

@[simp] theorem result_fail (e : ε) : (fail e : Reported ε α).result = .error e := rfl

@[simp] theorem result_tell (d : Diagnostic) : (tell d : Reported ε PUnit).result = .ok ⟨⟩ := rfl

@[simp] theorem result_mapError {ε' : Type} (f : ε → ε') (x : Reported ε α) :
    (x.mapError f).result = x.result.mapError f := rfl

end Reported

namespace Json

theorem Distinct.fieldsOf {j : Json} (h : j.Distinct) : (object j.fieldsOf).Distinct := by
  cases j with
  | object fields => exact h
  | null | bool _ | int _ | real _ | string _ | array _ =>
    exact distinct_object_iff.2 ⟨List.nodup_nil, by simp [Json.fieldsOf]⟩

theorem Distinct.names {fields : Fields} (h : (object fields).Distinct) :
    (fields.map Prod.fst).Nodup := (distinct_object_iff.1 h).1

theorem Distinct.of_lookup {fields : Fields} (h : (object fields).Distinct) {key : String} {j : Json}
    (hj : fields.lookup key = some j) : j.Distinct :=
  (distinct_object_iff.1 h).2 _ (mem_of_lookup_eq_some hj)

theorem Distinct.given {body : Fields} (h : (object body).Distinct) (key : String) :
    (object (given key body)).Distinct := by
  unfold Schematics.given
  cases hj : body.lookup key with
  | none => exact distinct_object_iff.2 ⟨List.nodup_nil, by simp⟩
  | some j => exact (h.of_lookup hj).fieldsOf

end Json

namespace Document

variable {s : Schematic} {body : Fields} {key : String} {c : Category}

theorem requiredString_eq_ok_iff {text : String} :
    requiredString body key = .ok text ↔ body.lookup key = some (.string text) := by
  unfold requiredString
  cases body.lookup key with
  | none => simp
  | some j => cases j <;> simp

theorem optionalObject_eq_ok_iff {o : Option Fields} : optionalObject body key = .ok o ↔
    ObjectOrAbsent key body ∧ o = (body.lookup key).map Json.fieldsOf := by
  unfold optionalObject ObjectOrAbsent
  cases body.lookup key with
  | none => simp [eq_comm (a := o)]
  | some j => cases j <;> simp [Json.isObject, Json.fieldsOf, eq_comm (a := o)]

theorem given_eq (key : String) (body : Fields) :
    given key body = ((body.lookup key).map Json.fieldsOf).getD [] := by
  unfold given
  cases body.lookup key <;> rfl

theorem lookupId_eq_ok_iff {name : String} {id : TypeId} :
    lookupId s c name = .ok id ↔ ∃ d, s.lookup c name = .ok (id, d) := by
  rw [lookupId, map_eq_ok_iff]
  exact ⟨fun ⟨⟨_, d⟩, h, hid⟩ => ⟨d, hid ▸ h⟩, fun ⟨d, h⟩ => ⟨_, h, rfl⟩⟩

def ReadsType (s : Schematic) (c : Category) (j : Json) (id : TypeId) : Prop :=
  ∃ name, j = .string name ∧ lookupId s c name = .ok id

theorem readMembers_eq_ok_iff {what : String} {declared : Fields}
    (hnames : (declared.map Prod.fst).Nodup) {m : NameMap TypeId} :
    readMembers s c what declared = .ok m ↔ Spells (fun _ => ReadsType s c) declared m := by
  rw [readMembers, foldlM_eq_ok_iff_spells hnames]
  apply Spells.congr
  intro name j id
  cases j <;> simp [readMember, ReadsType]

theorem spells_nil {R : String → α → β → Prop} {m : NameMap β} : Spells R [] m ↔ m = ∅ := by
  constructor
  · intro h
    exact h.1.eq_of_get? NameMap.sorted_empty fun name => rel_none_left.1 (h.2 name)
  · rintro rfl
    exact ⟨NameMap.sorted_empty, fun _ => .none⟩

theorem readDeclaredAttributes_eq_ok_iff (hb : (Json.object body).Distinct) {m : NameMap TypeId} :
    readDeclaredAttributes s body = .ok m ↔ ObjectOrAbsent "attributes" body ∧
      Spells (fun _ => ReadsType s .userDefined) (given "attributes" body) m := by
  rw [readDeclaredAttributes, bind_eq_ok_iff]
  simp only [optionalObject_eq_ok_iff, and_assoc, exists_and_left, exists_eq_left]
  apply and_congr_right
  intro _
  have hnames := (hb.given "attributes").names
  rw [given_eq] at hnames ⊢
  generalize (body.lookup "attributes").map Json.fieldsOf = o at hnames ⊢
  cases o with
  | none => simp [spells_nil, eq_comm (a := m)]
  | some declared => exact readMembers_eq_ok_iff hnames

theorem readDeclaredPorts_eq_ok_iff (hb : (Json.object body).Distinct) {m : NameMap TypeId} :
    readDeclaredPorts s body = .ok m ↔
      (∃ fields, body.lookup "portTypes" = some (.object fields)) ∧
        Spells (fun _ => ReadsType s .port) (given "portTypes" body) m := by
  rw [readDeclaredPorts, bind_eq_ok_iff]
  simp only [optionalObject_eq_ok_iff, and_assoc, exists_and_left, exists_eq_left]
  have hnames := (hb.given "portTypes").names
  rw [given_eq] at hnames ⊢
  unfold ObjectOrAbsent
  cases hp : body.lookup "portTypes" with
  | none => simp
  | some j =>
    rw [hp] at hnames
    cases j with
    | object fields =>
      have hread : readMembers s .port "port" fields = .ok m ↔
          Spells (fun _ => ReadsType s .port) fields m := readMembers_eq_ok_iff hnames
      simpa [Json.isObject, Json.fieldsOf] using hread
    | null | bool _ | int _ | real _ | string _ | array _ => simp [Json.isObject]

theorem readSupertype_eq_ok_iff {o : Option TypeId} :
    readSupertype s c body = .ok o ↔ Option.Rel (ReadsType s c) (body.lookup "supertype") o := by
  unfold readSupertype
  cases body.lookup "supertype" with
  | none => simp [rel_none_left, eq_comm (a := o)]
  | some j =>
    cases j <;> simp [rel_some_left, map_eq_ok_iff, ReadsType, eq_comm (a := o), and_comm]

theorem readSignature_eq_ok_iff (hb : (Json.object body).Distinct) {g : Signature} :
    readSignature s c body = .ok g ↔ ObjectOrAbsent "attributes" body ∧
      Spells (fun _ => ReadsType s .userDefined) (given "attributes" body) g.attributes ∧
        Option.Rel (ReadsType s c) (body.lookup "supertype") g.supertype := by
  obtain ⟨attributes, supertype⟩ := g
  simp only [readSignature, bind_eq_ok_iff, readDeclaredAttributes_eq_ok_iff hb,
    readSupertype_eq_ok_iff, pure_eq_ok, Except.ok.injEq, Signature.mk.injEq]
  constructor
  · rintro ⟨_, ⟨ho, hm⟩, _, hs, rfl, rfl⟩
    exact ⟨ho, hm, hs⟩
  · rintro ⟨ho, hm, hs⟩
    exact ⟨_, ⟨ho, hm⟩, _, hs, rfl, rfl⟩

theorem readNodeSignature_eq_ok_iff (hb : (Json.object body).Distinct) {g : NodeSignature} :
    readNodeSignature s body = .ok g ↔ readSignature s .node body = .ok g.toSignature ∧
      readDeclaredPorts s body = .ok g.ports := by
  obtain ⟨⟨attributes, supertype⟩, ports⟩ := g
  rw [readSignature_eq_ok_iff hb]
  simp only [readNodeSignature, bind_eq_ok_iff, readDeclaredAttributes_eq_ok_iff hb,
    readSupertype_eq_ok_iff, pure_eq_ok, Except.ok.injEq, NodeSignature.mk.injEq,
    Signature.mk.injEq]
  constructor
  · rintro ⟨_, ⟨ho, hm⟩, _, hp, _, hs, ⟨rfl, rfl⟩, rfl⟩
    exact ⟨⟨ho, hm, hs⟩, hp⟩
  · rintro ⟨⟨ho, hm, hs⟩, hp⟩
    exact ⟨_, ⟨ho, hm⟩, _, hp, _, hs, ⟨rfl, rfl⟩, rfl⟩

theorem readElementType_eq_ok_iff {id : TypeId} : readElementType s body = .ok id ↔
    ∃ name, body.lookup "elementType" = some (.string name) ∧
      lookupId s .userDefined name = .ok id := by
  simp only [readElementType, bind_eq_ok_iff, requiredString_eq_ok_iff]

theorem readInstanceType_eq_ok_iff {id : TypeId} : readInstanceType s c body = .ok id ↔
    ∃ name, body.lookup "type" = some (.string name) ∧ lookupId s c name = .ok id := by
  simp only [readInstanceType, bind_eq_ok_iff, requiredString_eq_ok_iff]

def ReadsValue (s : Schematic) (declared : NameMap TypeId) (name : String) (raw : Json) (v : Value) :
    Prop := ∃ t, declared.get? name = some t ∧ AttributeValue.read s t name raw = .ok v

theorem readGiven_eq_ok_iff {declared : NameMap TypeId} {fields : Fields}
    (hnames : (fields.map Prod.fst).Nodup) {m : Attributes} :
    readGiven s declared fields = .ok m ↔ Spells (ReadsValue s declared) fields m := by
  rw [readGiven, foldlM_eq_ok_iff_spells hnames]
  apply Spells.congr
  intro name raw v
  unfold AttributeValue.readDeclared ReadsValue
  cases declared.get? name <;> simp

theorem readAttributes_eq_ok_iff {owner : TypeId} {declared : NameMap TypeId}
    (ho : s.effectiveAttributes owner = .ok declared) {o : Option Fields}
    (hnames : ((o.getD []).map Prod.fst).Nodup) {m : Attributes} :
    readAttributes s owner o = .ok m ↔ Spells (ReadsValue s declared) (o.getD []) m := by
  cases o with
  | none => simp [readAttributes, spells_nil, eq_comm (a := m)]
  | some fields => simp only [readAttributes, ho, bind_eq_ok_iff, Except.ok.injEq, exists_eq_left',
      readGiven_eq_ok_iff (show (fields.map Prod.fst).Nodup from hnames), Option.getD_some]

theorem readInstanceAttributes_eq_ok_iff (hb : (Json.object body).Distinct) {owner : TypeId}
    {declared : NameMap TypeId} (ho : s.effectiveAttributes owner = .ok declared) {m : Attributes} :
    readInstanceAttributes s owner body = .ok m ↔ ObjectOrAbsent "attributes" body ∧
      Spells (ReadsValue s declared) (given "attributes" body) m := by
  simp only [readInstanceAttributes, bind_eq_ok_iff, optionalObject_eq_ok_iff, and_assoc,
    exists_and_left, exists_eq_left]
  apply and_congr_right
  intro _
  have hnames := (hb.given "attributes").names
  rw [given_eq] at hnames ⊢
  exact readAttributes_eq_ok_iff ho hnames

theorem givenForPort_eq_ok_iff {node port : String} {attrs o : Option Fields} :
    (givenForPort node port attrs).result = .ok o ↔
      ObjectOrAbsent port (attrs.getD []) ∧ o = ((attrs.getD []).lookup port).map Json.fieldsOf := by
  have hlookup : attrs.bind (·.lookup port) = (attrs.getD []).lookup port := by
    cases attrs <;> rfl
  unfold givenForPort ObjectOrAbsent
  rw [hlookup]
  cases (attrs.getD []).lookup port with
  | none => simp [eq_comm (a := o)]
  | some j =>
    cases j with
    | object fields =>
      by_cases hempty : fields.isEmpty <;>
        simp [hempty, Json.isObject, Json.fieldsOf, eq_comm (a := o), bind_eq_ok_iff]
    | null | bool _ | int _ | real _ | string _ | array _ => simp [Json.isObject]

def readPort (s : Schematic) (node : String) (attrs : Option Fields) (e : String × TypeId) :
    Except Fault Port := do
  let o ← (givenForPort node e.1 attrs).result
  let attributes ← readAttributes s e.2 o
  pure ⟨e.2, attributes⟩

theorem readPorts_result (s : Schematic) (node : String) (attrs : Option Fields)
    (declared : List (String × TypeId)) (start : NameMap Port) :
    (readPorts s node attrs declared start).result =
      declared.foldlM (fun ports e => ports.insert e.1 <$> readPort s node attrs e) start := by
  induction declared generalizing start with
  | nil => rfl
  | cons e rest ih =>
    obtain ⟨port, t⟩ := e
    simp only [readPorts, List.foldlM_cons, readPort, Reported.result_bind,
      Reported.result_ofExcept, ih]
    cases (givenForPort node port attrs).result with
    | error e => rfl
    | ok o =>
      simp only [bind, Except.bind]
      cases readAttributes s t o <;> rfl

theorem readPort_eq_ok_iff {node port : String} {attrs : Option Fields} {t : TypeId}
    {declared : NameMap TypeId} (ht : s.effectiveAttributes t = .ok declared)
    (hattrs : (Json.object (attrs.getD [])).Distinct) {p : Port} :
    readPort s node attrs (port, t) = .ok p ↔ ObjectOrAbsent port (attrs.getD []) ∧ p.type = t ∧
      Spells (ReadsValue s declared) (given port (attrs.getD [])) p.attributes := by
  obtain ⟨type, attributes⟩ := p
  have hnames := (hattrs.given port).names
  simp only [readPort, bind_eq_ok_iff, givenForPort_eq_ok_iff, pure_eq_ok, Except.ok.injEq,
    PortOf.mk.injEq, and_assoc, exists_and_left, exists_eq_left, given_eq] at hnames ⊢
  simp only [readAttributes_eq_ok_iff ht hnames]
  apply and_congr_right
  intro _
  constructor
  · rintro ⟨_, h, rfl, rfl⟩
    exact ⟨rfl, h⟩
  · rintro ⟨rfl, h⟩
    exact ⟨_, h, rfl, rfl⟩

theorem checkGivenPorts_eq_ok_iff {declared : NameMap TypeId} {attrs : Option Fields} :
    checkGivenPorts declared attrs = .ok () ↔
      ∀ f ∈ attrs.getD [], ∃ t, declared.get? f.1 = some t := by
  unfold checkGivenPorts
  cases hf : (attrs.getD []).find? fun f => !declared.contains f.1 with
  | none =>
    rw [List.find?_eq_none] at hf
    simp only [true_iff]
    intro f hmem
    exact Option.ne_none_iff_exists'.1 (by simpa [NameMap.contains] using hf f hmem)
  | some f =>
    have hmem := List.mem_of_find?_eq_some hf
    have hnot := List.find?_some hf
    simp only [reduceCtorEq, false_iff]
    intro h
    obtain ⟨t, ht⟩ := h f hmem
    simp [NameMap.contains, ht] at hnot

end Document

end Schematics

import Schematics.Proofs.Operations
import Schematics.Proofs.Rendering

/-!
What has been answered stays answered. A ledger only grows at the ends of its lists, so that what is
found in it is found in any ledger that extends it; what is derived from several answers, such as
inherited members or the values that are read, rests on answers that stay.
-/

namespace Schematics

universe u

variable {κ : Kind} {α β : Type u}

def Query.Lasting {α : Type} : Query α → Prop
  | .types | .typesIn _ | .nodes | .connections | .constraints
  | .typeCount | .nodeCount | .connectionCount | .constraintCount => False
  | _ => True

def Operation.Lasting {α : Type} (s : Schematic) : Operation α → Prop
  | .query q => q.Lasting
  | .describe id => ∃ d, s.typeDefinition id = .ok d
  | .register _ | .verify => False
  | _ => True

def Item.kind : Item → Kind
  | .type _ _ => .type
  | .node _ _ => .node
  | .connection _ _ => .connection
  | .constraint _ _ => .constraint

def Issued.Precedes (i j : Issued) : Prop := i.1 = j.1 → i.2.raw < j.2.raw

namespace Ledger

structure Extends (l l' : Ledger) : Prop where
  types : l.types <+: l'.types
  nodes : l.nodes <+: l'.nodes
  connections : l.connections <+: l'.connections
  constraints : l.constraints <+: l'.constraints

variable {l l' : Ledger}

theorem extends_refl (l : Ledger) : l.Extends l :=
  ⟨List.prefix_rfl, List.prefix_rfl, List.prefix_rfl, List.prefix_rfl⟩

theorem Extends.trans {l'' : Ledger} (h : l.Extends l') (h' : l'.Extends l'') : l.Extends l'' :=
  ⟨h.types.trans h'.types, h.nodes.trans h'.nodes, h.connections.trans h'.connections,
    h.constraints.trans h'.constraints⟩

theorem extends_record (l : Ledger) (i : Item) : l.Extends (l.record i) := by
  cases i with
  | type name shape => exact { l.extends_refl with types := List.prefix_append _ _ }
  | node name n => exact { l.extends_refl with nodes := List.prefix_append _ _ }
  | connection name c => exact { l.extends_refl with connections := List.prefix_append _ _ }
  | constraint name c => exact { l.extends_refl with constraints := List.prefix_append _ _ }

theorem extends_foldl (l : Ledger) (items : List Item) : l.Extends (items.foldl record l) := by
  induction items generalizing l with
  | nil => exact l.extends_refl
  | cons i rest ih => exact (l.extends_record i).trans (ih (l.record i))

section

variable {rows rows' : List (String × α)}

theorem row?_mono (h : rows <+: rows') {id : Handle κ} {e : String × α}
    (he : row? rows id = some e) : row? rows' id = some e := by
  obtain ⟨added, rfl⟩ := h
  obtain ⟨i, rfl, hi⟩ := row?_eq_some_iff.1 he
  have hlt := (List.getElem?_eq_some_iff.1 hi).1
  rw [row?_ofSlot, List.getElem?_append_left hlt, hi]

theorem handle?_mono (h : rows <+: rows') {name : String} {id : Handle κ}
    (hid : handle? rows name = some id) : handle? rows' name = some id := by
  obtain ⟨added, rfl⟩ := h
  obtain ⟨i, hi, rfl⟩ := Option.map_eq_some_iff.1 hid
  simp [handle?, List.findIdx?_append, hi]

variable {space : Namespace} {text : String}

theorem found_mono {o o' : Option α} (h : ∀ a, o = some a → o' = some a) {a : α}
    (ha : found space text o = .ok a) : found space text o' = .ok a :=
  found_eq_ok_iff.2 (h a (found_eq_ok_iff.1 ha))

theorem found_row (h : rows <+: rows') {id : Handle κ} {f : String × α → β} {b : β}
    (hb : found space text ((row? rows id).map f) = .ok b) :
    found space text ((row? rows' id).map f) = .ok b := by
  apply found_mono _ hb
  intro b hb
  obtain ⟨e, he, rfl⟩ := Option.map_eq_some_iff.1 hb
  rw [row?_mono h he, Option.map_some]

theorem found_handle (h : rows <+: rows') {name : String} {id : Handle κ}
    (hid : found space text (handle? rows name) = .ok id) :
    found space text (handle? rows' name) = .ok id :=
  found_mono (fun _ => handle?_mono h) hid

theorem found_lookup (h : rows <+: rows') {name : String} {a : α}
    (ha : found space text (rows.lookup name) = .ok a) :
    found space text (rows'.lookup name) = .ok a := by
  obtain ⟨added, rfl⟩ := h
  apply found_mono _ ha
  intro a ha
  rw [List.lookup_append, ha, Option.some_or]

end

namespace Extends

theorem typeIn? (h : l.Extends l') {c : Category} {name : String} {t : TypeId × TypeDef}
    (ht : l.typeIn? c name = some t) : l'.typeIn? c name = some t := by
  obtain ⟨id, hid, ht⟩ := Option.bind_eq_some_iff.1 ht
  obtain ⟨e, he, rfl⟩ := Option.map_eq_some_iff.1 ht
  have hrow := row?_mono h.types (Option.filter_eq_some_iff.1 he).1
  have hcategory := (Option.filter_eq_some_iff.1 he).2
  rw [Ledger.typeIn?, handle?_mono h.types hid, Option.bind_some, hrow, Option.filter_some,
    if_pos hcategory, Option.map_some]

theorem typeList (h : l.Extends l') : l.typeList <+: l'.typeList := by
  obtain ⟨added, hadded⟩ := h.types
  rw [Ledger.typeList, Ledger.typeList, ← hadded, List.zipIdx_append, List.map_append]
  exact List.prefix_append _ _

theorem ask {α : Type} (h : l.Extends l') {q : Query α} (hq : q.Lasting) {a : α}
    (ha : l.ask q = .ok a) : l'.ask q = .ok a := by
  cases q with
  | typeId name => exact found_handle h.types ha
  | typeName id | typeDefinition id => exact found_row h.types ha
  | typeIn c name => exact found_mono (fun _ => h.typeIn?) ha
  | node name => exact found_lookup h.nodes ha
  | nodeId name => exact found_handle h.nodes ha
  | nodeById id | nodeName id => exact found_row h.nodes ha
  | connection name => exact found_lookup h.connections ha
  | connectionId name => exact found_handle h.connections ha
  | connectionById id | connectionName id => exact found_row h.connections ha
  | constraint name => exact found_lookup h.constraints ha
  | constraintId name => exact found_handle h.constraints ha
  | constraintById id | constraintName id => exact found_row h.constraints ha
  | _ => exact hq.elim

end Extends

end Ledger

namespace AttributeValue

variable {s s' : Schematic}

mutual

theorem read_of_keepsTypes (h : s.KeepsTypes s') (raw : Json) {expected : TypeId} {name : String}
    {v : Value} (hv : read s expected name raw = .ok v) : read s' expected name raw = .ok v := by
  rw [read] at hv ⊢
  obtain ⟨d, hd, hv⟩ := bind_eq_ok_iff.1 hv
  rw [Schematic.typeDefinition_of_type? (h.types _ d (Schematic.typeDefinition_eq_ok_iff.1 hd)),
    ok_bind]
  cases raw with
  | null | object fields => exact nomatch hv
  | array items =>
    cases he : d.shape.element? with
    | none =>
      simp only [he] at hv
      exact nomatch hv
    | some element =>
      simp only [he] at hv ⊢
      obtain ⟨values, hvalues, rfl⟩ := map_eq_ok_iff.1 hv
      exact map_eq_ok_iff.2 ⟨values, readItems_of_keepsTypes h items hvalues, rfl⟩
  | string _ | int _ | real _ | bool _ => exact hv

theorem readItems_of_keepsTypes (h : s.KeepsTypes s') (items : List Json) {element : TypeId}
    {name : String} {index : Nat} {values : List Value}
    (hv : readItems s element name index items = .ok values) :
    readItems s' element name index items = .ok values := by
  cases items with
  | nil => exact hv
  | cons raw rest =>
    rw [readItems] at hv ⊢
    obtain ⟨v, hfirst, hv⟩ := bind_eq_ok_iff.1 hv
    obtain ⟨others, hrest, hv⟩ := bind_eq_ok_iff.1 hv
    rw [read_of_keepsTypes h raw hfirst, ok_bind, readItems_of_keepsTypes h rest hrest, ok_bind]
    exact hv

end

end AttributeValue

namespace Schematic

variable {s : Schematic}

def count (s : Schematic) : Kind → Nat
  | .type => s.typeCount
  | .node => s.nodeCount
  | .connection => s.connectionCount
  | .constraint => s.constraintCount

def Holds (s : Schematic) : Issued → Prop
  | ⟨.type, id⟩ => ∃ d, s.typeDefinition id = .ok d
  | ⟨.node, id⟩ => ∃ n, s.nodeById id = .ok n
  | ⟨.connection, id⟩ => ∃ c, s.connectionById id = .ok c
  | ⟨.constraint, id⟩ => ∃ c, s.constraintById id = .ok c

def handsOut (s : Schematic) : List Registration → List Issued
  | [] => []
  | r :: rest =>
    match s.register r with
    | .ok (i, s') => i :: s'.handsOut rest
    | .error _ => s.handsOut rest

theorem exists_value_iff {α : Type} {t : InstanceTable κ α} {space : Namespace} {id : Handle κ} :
    (∃ a, Named.value <$> instanceEntry t space id = .ok a) ↔
      ∃ slot < t.size, id = .ofSlot slot := by
  simp only [value_eq_ok_iff, Arena.get?_eq_some_iff, Array.getElem?_eq_some_iff]
  constructor
  · rintro ⟨a, symbol, slot, rfl, hslot, -⟩
    exact ⟨slot, hslot, rfl⟩
  · rintro ⟨slot, hslot, rfl⟩
    exact ⟨_, _, slot, rfl, hslot, rfl⟩

theorem holds_iff {i : Issued} : s.Holds i ↔ ∃ slot < s.count i.1, i.2 = .ofSlot slot := by
  obtain ⟨κ, id⟩ := i
  cases κ with
  | type =>
    simp only [Holds, typeDefinition, typeEntry_eq]
    exact exists_value_iff
  | node | connection | constraint => exact exists_value_iff

theorem nextFor_eq (s : Schematic) (i : Item) :
    s.nextFor i = ⟨i.kind, .ofSlot (s.count i.kind)⟩ := by
  cases i <;> rfl

theorem count_record (s : Schematic) (i : Item) :
    (s.record i).count i.kind = s.count i.kind + 1 := by
  cases i <;> exact Array.size_push _

theorem holds_nextFor (s : Schematic) (i : Item) : (s.record i).Holds (s.nextFor i) := by
  rw [holds_iff, nextFor_eq]
  refine ⟨s.count i.kind, ?_, rfl⟩
  rw [count_record]
  omega

theorem Holds.precedes_nextFor {i : Issued} (h : s.Holds i) (item : Item) :
    i.Precedes (s.nextFor item) := by
  obtain ⟨κ, id⟩ := i
  obtain ⟨slot, hslot, hid⟩ := holds_iff.1 h
  rw [nextFor_eq]
  rintro rfl
  obtain rfl : id = .ofSlot slot := hid
  exact Nat.add_lt_add_right hslot _

theorem Built.ledger_extends (h : s.Built) (rs : List Registration) :
    s.ledger.Extends (s.run rs).ledger := by
  rw [h.ledger_run rs]
  exact s.ledger.extends_foldl _

theorem Built.ask_run {α : Type} (h : s.Built) (rs : List Registration) {q : Query α}
    (hq : q.Lasting) {a : α} (ha : s.ask q = .ok a) : (s.run rs).ask q = .ok a := by
  rw [h.consistent.ask_eq] at ha
  rw [(h.run rs).consistent.ask_eq]
  exact (h.ledger_extends rs).ask hq ha

theorem Built.perform_run {α : Type} (h : s.Built) (rs : List Registration) {o : Operation α}
    (ho : o.Lasting s) {a : α} (ha : s.perform o = .ok a) : (s.run rs).perform o = .ok a := by
  have hgrows := s.grows_run rs
  have hg := h.grounded
  have hg' := (h.run rs).grounded
  cases o with
  | query q => exact h.ask_run rs ho ha
  | supertypeChain id =>
    obtain ⟨line, hline, rfl⟩ := map_eq_ok_iff.1 ha
    exact map_eq_ok_iff.2 ⟨line, hgrows.lineage hg hg' hline, rfl⟩
  | effectiveAttributes id => exact hgrows.effectiveAttributes hg hg' ha
  | effectivePorts id => exact hgrows.effectivePorts hg hg' ha
  | describe id =>
    obtain ⟨d, hd⟩ := ho
    obtain ⟨name, hname⟩ := h.consistent.exists_typeName ⟨d, hd, rfl⟩
    have hname' : (s.run rs).typeName id = .ok name :=
      h.ask_run rs (q := .typeName id) trivial hname
    -- Describing never fails, so that the answer before is the name as well.
    rw [← ha]
    simp only [perform, Schematic.describe, hname, hname']
  | resolvePort r => exact hgrows.resolvePort ha
  | resolveEndpoint text delimiter =>
    obtain ⟨e, he, ha⟩ := bind_eq_ok_iff.1 ha
    obtain ⟨id, hid, ha⟩ := bind_eq_ok_iff.1 ha
    obtain ⟨n, hn, ha⟩ := bind_eq_ok_iff.1 ha
    have hid' := h.ask_run rs (q := .nodeId e.node) trivial hid
    have hn' := hgrows.nodes id n hn
    exact bind_eq_ok_iff.2 ⟨e, he, bind_eq_ok_iff.2 ⟨id, hid', bind_eq_ok_iff.2 ⟨n, hn', ha⟩⟩⟩
  | readValue expected name raw =>
    cases expected with
    | none => exact nomatch ha
    | some t => exact AttributeValue.read_of_keepsTypes hgrows.toKeepsTypes raw ha
  | register r | verify => exact ho.elim

theorem Built.holds_run (h : s.Built) (rs : List Registration) {i : Issued} (hi : s.Holds i) :
    (s.run rs).Holds i := by
  obtain ⟨κ, id⟩ := i
  cases κ with
  | type => exact hi.imp fun d hd => h.ask_run rs (q := .typeDefinition id) trivial hd
  | node => exact hi.imp fun n hn => h.ask_run rs (q := .nodeById id) trivial hn
  | connection => exact hi.imp fun c hc => h.ask_run rs (q := .connectionById id) trivial hc
  | constraint => exact hi.imp fun c hc => h.ask_run rs (q := .constraintById id) trivial hc

theorem handsOut_cons (s : Schematic) (r : Registration) (rest : List Registration) :
    (s.attempt r = s ∧ s.handsOut (r :: rest) = s.handsOut rest) ∨
      (s.check r.item = .ok () ∧ s.attempt r = s.record r.item ∧
        s.handsOut (r :: rest) = s.nextFor r.item :: (s.record r.item).handsOut rest) := by
  cases hr : s.register r with
  | error f =>
    left
    simp only [attempt, handsOut, hr, and_self]
  | ok done =>
    obtain ⟨i, s'⟩ := done
    obtain ⟨-, hcheck, rfl, rfl⟩ := register_eq_ok_iff.1 hr
    right
    simp only [attempt, handsOut, hr, hcheck, and_self]

theorem Built.handsOut_spec (h : s.Built) (rs : List Registration) :
    (∀ i ∈ s.handsOut rs, (s.run rs).Holds i ∧ ∀ j, s.Holds j → j.Precedes i) ∧
      (s.handsOut rs).Pairwise Issued.Precedes := by
  -- The handle that a step gives out is held after it, so that it precedes all later ones.
  induction rs generalizing s with
  | nil => exact ⟨fun i hi => absurd hi List.not_mem_nil, .nil⟩
  | cons r rest ih =>
    have hrun : s.run (r :: rest) = (s.attempt r).run rest := rfl
    obtain ⟨hsame, hnone⟩ | ⟨hcheck, hrecord, hsome⟩ := s.handsOut_cons r rest
    · rw [hrun, hsame, hnone]
      exact ih h
    · have hb := h.record hcheck
      obtain ⟨hlater, hpairwise⟩ := ih hb
      have hkept {j : Issued} (hj : s.Holds j) : (s.record r.item).Holds j := by
        have hone := h.holds_run [r] hj
        rwa [Schematic.run, List.foldl_cons, hrecord] at hone
      rw [hrun, hrecord, hsome]
      refine ⟨fun i hi => ?_, List.pairwise_cons.2 ⟨fun i hi => ?_, hpairwise⟩⟩
      · obtain rfl | hi := List.mem_cons.1 hi
        · exact ⟨hb.holds_run rest (s.holds_nextFor _), fun j hj => hj.precedes_nextFor _⟩
        · exact ⟨(hlater i hi).1, fun j hj => (hlater i hi).2 j (hkept hj)⟩
      · exact (hlater i hi).2 _ (s.holds_nextFor _)

structure Gains (s s' : Schematic) : Prop where
  types : s.typeList <+: s'.typeList
  typesIn : ∀ c, (s.typesIn c).entries ⊆ (s'.typesIn c).entries
  nodes : s.nodesByName.entries ⊆ s'.nodesByName.entries
  connections : s.connectionsByName.entries ⊆ s'.connectionsByName.entries
  constraints : s.constraintsByName.entries ⊆ s'.constraintsByName.entries

theorem Built.gains_run (h : s.Built) (rs : List Registration) : s.Gains (s.run rs) := by
  have he := h.ledger_extends rs
  have hc := h.consistent
  have hc' := (h.run rs).consistent
  refine ⟨?_, fun c => ?_, ?_, ?_, ?_⟩
  · rw [hc.typeList_eq, hc'.typeList_eq]
    exact he.typeList
  · rw [hc.typesIn_eq, hc'.typesIn_eq]
    apply NameMap.ofList_subset (hc'.nodup_typesIn c)
    exact ((he.typeList.filter _).map _).subset
  · exact NameMap.ofList_subset (hc'.nodes.nodup hc'.names) he.nodes.subset
  · exact NameMap.ofList_subset (hc'.connections.nodup hc'.names) he.connections.subset
  · exact NameMap.ofList_subset (hc'.constraints.nodup hc'.names) he.constraints.subset

/--
Whatever is registered later, each answer that was got about one thing is got again, and snapshots
only gain entries. A handle that is given out is held from then on, and is greater than all handles
of its kind that were held or given out before.
-/
theorem Reachable.answers_stay (h : s.Reachable) (rs : List Registration) :
    let s' := s.run rs
    (∀ {α : Type} (o : Operation α) (a : α), o.Lasting s → s.perform o = .ok a →
      s'.perform o = .ok a) ∧
    s.Gains s' ∧
    (∀ i ∈ s.handsOut rs, s'.Holds i ∧ ∀ j, s.Holds j → j.Precedes i) ∧
    (s.handsOut rs).Pairwise Issued.Precedes :=
  ⟨fun _ _ ho ha => h.built.perform_run rs ho ha, h.built.gains_run rs, h.built.handsOut_spec rs⟩

theorem answers_stay_plant :
    let rs : List Registration :=
      [.portType "Boiler" {}, .node "w" ⟨⟨10⟩, ∅, ∅⟩, .nodeType "Tank" { supertype := some ⟨10⟩ }]
    let s' := plant.run rs
    plant.Reachable ∧ plant.handsOut rs = [⟨.node, ⟨1⟩⟩, ⟨.type, ⟨11⟩⟩] ∧
      s'.describe ⟨10⟩ = "Boiler" ∧ s'.supertypeChain ⟨10⟩ = .ok [⟨10⟩, ⟨7⟩] ∧
      s'.resolveEndpoint "v.out" '.' = .ok ⟨⟨0⟩, "out"⟩ ∧ s'.Holds ⟨.type, ⟨11⟩⟩ ∧
        plant.Gains s' := by
  intro rs s'
  have h : plant.Reachable := ⟨_, _, rfl⟩
  have hgiven : plant.handsOut rs = [⟨.node, ⟨1⟩⟩, ⟨.type, ⟨11⟩⟩] := by decide +kernel
  have hboiler :
      plant.typeDefinition ⟨10⟩ = .ok ⟨some ⟨10⟩, .node { supertype := some ⟨7⟩ }⟩ := by
    decide +kernel
  obtain ⟨hlast, hgains, hheld, -⟩ := Reachable.answers_stay h rs
  have hdescribe := hlast (.describe ⟨10⟩) "Boiler" ⟨_, hboiler⟩ (by decide +kernel)
  have hchain := hlast (.supertypeChain ⟨10⟩) [⟨10⟩, ⟨7⟩] trivial (by decide +kernel)
  have hend := hlast (.resolveEndpoint "v.out" '.') ⟨⟨0⟩, "out"⟩ trivial (by decide +kernel)
  refine ⟨h, hgiven, Except.ok.inj hdescribe, hchain, hend, ?_, hgains⟩
  exact (hheld _ (hgiven ▸ List.mem_cons_of_mem _ List.mem_cons_self)).1

end Schematic

end Schematics

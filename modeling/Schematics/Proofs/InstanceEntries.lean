import Schematics.Proofs.InstanceChecks
import Schematics.Proofs.TypeEntries
import Schematics.Proofs.ValueReading

/-!
Entries of the sections of instances: when the body of one is read and the instance that it spells
registered, said of the document alone. The second look at what was read, before it is registered,
rejects nothing but a name that is taken and a connection from a port to itself.
-/

namespace Schematics

variable {doc : Sections} {delimiter : Char} {done : List Entry} {s : Schematic} {c : Category}
  {body : Fields}

structure Settled (doc : Sections) (done : List Entry) (c : Category) : Prop where
  extensible : c ≠ .userDefined
  userDefined : sectionsOf done .userDefinedTypes = doc .userDefinedTypes
  types : sectionsOf done c.stage = doc c.stage

namespace Mirrors

open Document

theorem mem_typeNames_of_element (h : Mirrors doc delimiter done s)
    (hu : sectionsOf done .userDefinedTypes = doc .userDefinedTypes) :
    ∀ e ∈ doc .userDefinedTypes, ∀ element,
      e.2.lookup "elementType" = some (.string element) → element ∈ doc.typeNames := by
  rintro ⟨name, body⟩ he element hlookup
  rw [← hu] at he
  obtain ⟨shape, -, hshape⟩ := h.exists_mem_of_entry (c := .userDefined) he
  obtain ⟨_, id, hj, ⟨t, rfl, hname, -⟩, -⟩ := hshape
  rw [hlookup] at hj
  obtain rfl := Json.string.inj (Option.some.inj hj)
  exact hname.mem

theorem readsValue_iff (h : Mirrors doc delimiter done s)
    (hu : sectionsOf done .userDefinedTypes = doc .userDefinedTypes)
    {offers : String → String → Prop} {declared : NameMap TypeId}
    (hdeclared : Carries doc .userDefined offers declared) {member : String} {raw : Json}
    {v : Value} : ReadsValue s declared member raw v ↔ ∃ t, offers member t ∧ Denotes doc t raw v := by
  have hlookup {t : String} {id : TypeId} (hid : doc.Numbers .userDefined t id) :=
    (h.lookupId_of_numbers (c := .userDefined) hu).2 hid
  constructor
  · rintro ⟨id, hid, hread⟩
    obtain ⟨t, ht, hnumbers⟩ := hdeclared.offered member id hid
    exact ⟨t, ht, (h.read_eq_ok_iff hu raw (hlookup hnumbers)).1 hread⟩
  · rintro ⟨t, ht, hd⟩
    obtain ⟨id, hid, hnumbers⟩ := hdeclared.complete member t ht
    exact ⟨id, hid, (h.read_eq_ok_iff hu raw (hlookup hnumbers)).2 hd⟩

theorem readsValues_iff (h : Mirrors doc delimiter done s) (hc : Settled doc done c)
    {name : String} {id : TypeId} (hid : doc.Numbers c name id) {declared : NameMap TypeId}
    (ha : s.effectiveAttributes id = .ok declared) {fields : Fields} {m : Attributes} :
    Spells (ReadsValue s declared) fields m ↔ doc.SpellsValues c name fields m := by
  have hcarries := h.attributes_carry hc.extensible ((h.lookupId_of_numbers hc.types).2 hid) ha
  rw [hc.types] at hcarries
  exact Spells.congr fun member raw v => h.readsValue_iff hc.userDefined hcarries

theorem exists_spellsValues_iff (h : Mirrors doc delimiter done s)
    (hu : sectionsOf done .userDefinedTypes = doc .userDefinedTypes) (c : Category) (name : String)
    {fields : Fields} (hfields : (fields.map Prod.fst).Nodup) :
    (∃ m, doc.SpellsValues c name fields m) ↔ doc.ProperValues c name fields := by
  rw [Sections.SpellsValues, Spells.exists_iff hfields, Sections.ProperValues]
  apply forall₃_congr
  intro member raw _
  constructor
  · rintro ⟨v, t, ht, hd⟩
    exact ⟨t, ht, hd.conforms⟩
  · rintro ⟨t, ht, hraw⟩
    obtain ⟨v, hv⟩ := hraw.exists_denotes (h.mem_typeNames_of_element hu)
    exact ⟨v, t, ht, hv⟩

theorem readsInstance_iff (h : Mirrors doc delimiter done s) (hc : Settled doc done c)
    {name : String} {id : TypeId} {values : Attributes} :
    ReadsInstance s c name body id values ↔
      ObjectOrAbsent "attributes" body ∧ doc.SpellsInstance c name body id values := by
  constructor
  · rintro ⟨htype, hid, ho, declared, ha, hvalues⟩
    have hnumbers := (h.lookupId_of_numbers hc.types).1 hid
    exact ⟨ho, htype, hnumbers, (h.readsValues_iff hc hnumbers ha).1 hvalues⟩
  · rintro ⟨ho, htype, hnumbers, hvalues⟩
    have hid := (h.lookupId_of_numbers hc.types).2 hnumbers
    obtain ⟨declared, ha⟩ := h.built.grounded.effectiveAttributes_of_lookup hid
    exact ⟨htype, hid, ho, declared, ha, (h.readsValues_iff hc hnumbers ha).2 hvalues⟩

theorem exists_readsInstance_iff (h : Mirrors doc delimiter done s) (hc : Settled doc done c)
    (hb : (Json.object body).Distinct) {name : String} :
    (∃ id values, ReadsInstance s c name body id values) ↔ doc.ProperInstance c name body := by
  simp only [h.readsInstance_iff hc]
  have hvalues := h.exists_spellsValues_iff hc.userDefined c name (hb.given "attributes").names
  constructor
  · rintro ⟨id, values, ho, htype, ⟨hname, -⟩, hspells⟩
    exact ⟨htype, hname.resolve_left fun hbase => hc.extensible hbase.1, ho, hvalues.1 ⟨_, hspells⟩⟩
  · rintro ⟨htype, hname, ho, hproper⟩
    obtain ⟨id, hid⟩ := Sections.Names.exists_id (c := c) (.inr hname)
    obtain ⟨values, hspells⟩ := hvalues.2 hproper
    exact ⟨id, values, ho, htype, hid, hspells⟩

theorem checkAttributes_of_spells (h : Mirrors doc delimiter done s) (hc : Settled doc done c)
    {name : String} {id : TypeId} (hid : doc.Numbers c name id) {fields : Fields}
    {values : Attributes} (hvalues : doc.SpellsValues c name fields values) :
    s.checkAttributes id values = .ok () := by
  have hlookup := (h.lookupId_of_numbers hc.types).2 hid
  obtain ⟨declared, ha⟩ := h.built.grounded.effectiveAttributes_of_lookup hlookup
  have hcarries := h.attributes_carry hc.extensible hlookup ha
  rw [hc.types] at hcarries
  refine Schematic.checkAttributes_eq_ok_iff.2 ⟨declared, ha, fun ⟨member, v⟩ he => ?_⟩
  obtain ⟨raw, -, t, ht, hd⟩ := hvalues.of_entry he
  obtain ⟨tid, htid, -, hnumber⟩ := hcarries.complete member t ht
  exact ⟨tid, htid, hd.type?_eq.trans hnumber⟩

theorem checkInstance (h : Mirrors doc delimiter done s) (hc : Settled doc done c) {name : String}
    {id : TypeId} {values : Attributes} (hi : ReadsInstance s c name body id values) :
    s.requireCategory c id = .ok () ∧ s.checkAttributes id values = .ok () := by
  obtain ⟨-, hspells⟩ := (h.readsInstance_iff hc).1 hi
  exact ⟨h.requireCategory_of_lookupId hi.found,
    h.checkAttributes_of_spells hc hspells.id hspells.attributes⟩

theorem find?_eq_none_iff (h : Mirrors doc delimiter done s) {κ : Kind} {α : Type}
    {t : InstanceTable κ α} (ht : t.Consistent s.names) {entries : Entries}
    {R : String × Fields → String × α → Prop}
    (hlisted : List.Forall₂ (fun e r => r.1 = e.1 ∧ R e r) entries (t.listed s.names))
    {name : String} : s.find? t.byName name = none ↔ name ∉ entries.map Prod.fst := by
  have hfind : s.find? t.byName name = Ledger.handle? (t.listed s.names) name :=
    ht.find?_eq h.built.consistent.names name
  have hnames : (t.listed s.names).map Prod.fst = entries.map Prod.fst :=
    map_eq_of_forall₂ (fun _ _ hr => hr.1) hlisted
  rw [hfind, Ledger.handle?_eq_none_iff, hnames]

theorem accepts_constraint_iff (h : Mirrors doc delimiter done s)
    (hc : Settled doc done .constraint) (hb : (Json.object body).Distinct) {name : String} :
    (∃ i, readItem delimiter s .constraints name body = .ok i ∧ s.check i = .ok ()) ↔
      Fresh done (.constraints, name, body) ∧ ∃ t, doc.ProperInstance .constraint t body := by
  have hfresh : s.find? s.constraints.byName name = none ↔ Fresh done (.constraints, name, body) :=
    h.find?_eq_none_iff h.built.consistent.constraints h.constraints
  simp only [readItem, map_eq_ok_iff, readConstraint_eq_ok_iff h.built.grounded hb,
    ← h.exists_readsInstance_iff hc hb, ← hfresh]
  constructor
  · rintro ⟨_, ⟨k, ⟨t, hi⟩, rfl⟩, hcheck⟩
    exact ⟨(Schematic.checkConstraint_eq_ok_iff.1 hcheck).1, t, _, _, hi⟩
  · rintro ⟨hnew, t, id, values, hi⟩
    obtain ⟨hcategory, ha⟩ := h.checkInstance hc hi
    exact ⟨_, ⟨⟨id, values⟩, ⟨t, hi⟩, rfl⟩,
      Schematic.checkConstraint_eq_ok_iff.2 ⟨hnew, hcategory, ha⟩⟩

theorem spellsItem_of_constraint (h : Mirrors doc delimiter done s)
    (hc : Settled doc done .constraint) (hb : (Json.object body).Distinct) {name : String} {i : Item}
    (hi : readItem delimiter s .constraints name body = .ok i) :
    doc.SpellsItem delimiter .constraints name body i := by
  obtain ⟨k, hk, rfl⟩ := map_eq_ok_iff.1 hi
  obtain ⟨t, hread⟩ := (readConstraint_eq_ok_iff h.built.grounded hb).1 hk
  obtain ⟨-, hspells⟩ := (h.readsInstance_iff hc).1 hread
  exact .constraint rfl hspells

end Mirrors

end Schematics

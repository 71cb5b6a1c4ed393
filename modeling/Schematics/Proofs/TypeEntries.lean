import Schematics.Proofs.Inheritance

namespace Schematics

variable {doc : Sections} {delimiter : Char} {done : List Entry} {s : Schematic} {c : Category}
  {body : Fields}

def Fresh (done : List Entry) (e : Entry) : Prop :=
  match e.1.category? with
  | some _ => e.2.1 ∉ BaseType.names ++ (typesOf done).map fun t => t.2.1
  | none => e.2.1 ∉ (sectionsOf done e.1).map Prod.fst

structure ByCategory (c : Category) (p q : Prop) : Prop where
  attributes : c ≠ .userDefined → p
  ports : c = .node → q

namespace ByCategory

variable {p q : Prop}

theorem userDefined : ByCategory .userDefined p q where
  attributes hc := absurd rfl hc
  ports hc := absurd hc (by decide)

theorem node_iff : ByCategory .node p q ↔ p ∧ q := by
  constructor
  · intro h
    exact ⟨h.attributes (by decide), h.ports rfl⟩
  · rintro ⟨hp, hq⟩
    exact ⟨fun _ => hp, fun _ => hq⟩

theorem of_ne_iff (hc : c ≠ .userDefined) (hn : c ≠ .node) : ByCategory c p q ↔ p := by
  constructor
  · intro h
    exact h.attributes hc
  · intro hp
    exact ⟨fun _ => hp, fun heq => absurd heq hn⟩

theorem port_iff : ByCategory .port p q ↔ p := of_ne_iff (by decide) (by decide)

theorem connection_iff : ByCategory .connection p q ↔ p := of_ne_iff (by decide) (by decide)

theorem constraint_iff : ByCategory .constraint p q ↔ p := of_ne_iff (by decide) (by decide)

end ByCategory

abbrev Complete (c : Category) (body : Fields) : Prop :=
  ByCategory c (ObjectOrAbsent "attributes" body)
    (∃ fields, body.lookup "portTypes" = some (.object fields))

abbrev KeepsAll (c : Category) (earlier : Entries) (body : Fields) : Prop :=
  ByCategory c (Keeps "attributes" earlier body) (Keeps "portTypes" earlier body)

theorem exists_rel_iff {α β : Type} {R : α → β → Prop} {x : Option α} :
    (∃ y, Option.Rel R x y) ↔ ∀ a, x = some a → ∃ b, R a b := by
  cases x with
  | none => exact ⟨fun _ _ ha => (nomatch ha), fun _ => ⟨none, .none⟩⟩
  | some a =>
    constructor
    · rintro ⟨_, h⟩ _ ⟨rfl⟩
      obtain ⟨b, -, hb⟩ := rel_some_left.1 h
      exact ⟨b, hb⟩
    · intro h
      obtain ⟨b, hb⟩ := h a rfl
      exact ⟨some b, .some hb⟩

theorem Ledger.handle?_eq_none_iff {κ : Kind} {α : Type} {l : List (String × α)} {name : String} :
    (Ledger.handle? l name : Option (Handle κ)) = none ↔ name ∉ l.map Prod.fst := by
  rw [Ledger.handle?_eq_findIdx?, Option.map_eq_none_iff, List.findIdx?_eq_none_iff]
  simp only [decide_eq_false_iff_not]
  exact ⟨fun h hm => h name hm rfl, fun h other ho heq => h (heq ▸ ho)⟩

namespace Document

open Schematic

theorem readShape_eq_ok_iff (hb : (Json.object body).Distinct) {shape : Shape} :
    readShape s c body = .ok shape ↔ Complete c body ∧ SpellsShape (ReadsType s) body c shape := by
  cases c with
  | userDefined =>
    simp only [readShape, map_eq_ok_iff, readElementType_eq_ok_iff]
    constructor
    · rintro ⟨id, ⟨t, ht, hid⟩, rfl⟩
      exact ⟨.userDefined, _, id, ht, ⟨t, rfl, hid⟩, rfl⟩
    · rintro ⟨-, _, id, ht, ⟨t, rfl, hid⟩, rfl⟩
      exact ⟨id, ⟨t, ht, hid⟩, rfl⟩
  | node =>
    simp only [readShape, map_eq_ok_iff, readNodeSignature_eq_ok_iff hb,
      readSignature_eq_ok_iff hb, readDeclaredPorts_eq_ok_iff hb, ByCategory.node_iff]
    constructor
    · rintro ⟨g, ⟨⟨ho, ha, hs⟩, hports, hp⟩, rfl⟩
      exact ⟨⟨ho, hports⟩, g, ⟨⟨ha, hs⟩, hp⟩, rfl⟩
    · rintro ⟨⟨ho, hports⟩, g, ⟨⟨ha, hs⟩, hp⟩, rfl⟩
      exact ⟨g, ⟨⟨ho, ha, hs⟩, hports, hp⟩, rfl⟩
  | port | connection | constraint =>
    simp only [readShape, map_eq_ok_iff, readSignature_eq_ok_iff hb, ByCategory.port_iff,
      ByCategory.connection_iff, ByCategory.constraint_iff]
    constructor
    · rintro ⟨g, ⟨ho, ha, hs⟩, rfl⟩
      exact ⟨ho, g, ⟨ha, hs⟩, rfl⟩
    · rintro ⟨ho, g, ⟨ha, hs⟩, rfl⟩
      exact ⟨g, ⟨ho, ha, hs⟩, rfl⟩

theorem readItem_type_eq_ok_iff (hb : (Json.object body).Distinct) {name : String} {i : Item} :
    readItem delimiter s c.stage name body = .ok i ↔
      Complete c body ∧ ∃ shape, SpellsShape (ReadsType s) body c shape ∧ i = .type name shape := by
  simp only [readItem_type, map_eq_ok_iff, readShape_eq_ok_iff hb, and_assoc, exists_and_left,
    eq_comm (a := i)]

end Document

namespace Mirrors

open Document

theorem subset (h : Mirrors doc delimiter done s) {stage : Stage} {e : String × Fields}
    (he : e ∈ sectionsOf done stage) : e ∈ doc stage :=
  Sections.mem_inOrder.1 (h.part.subset (mem_sectionsOf.1 he))

theorem names_of_done (h : Mirrors doc delimiter done s) {name : String}
    (hname : (sectionsOf done).Names c name) : doc.Names c name := by
  apply hname.imp id
  intro hentry
  obtain ⟨e, he, rfl⟩ := List.mem_map.1 hentry
  exact List.mem_map.2 ⟨e, h.subset he, rfl⟩

theorem readsType_iff (h : Mirrors doc delimiter done s) {j : Json} {id : TypeId} :
    ReadsType s c j id ↔
      ∃ t, j = .string t ∧ (sectionsOf done).Names c t ∧ doc.typeId? t = some id := by
  simp only [ReadsType, h.lookupId_eq_ok_iff]

theorem spellsType_of_reads (h : Mirrors doc delimiter done s) {j : Json} {id : TypeId}
    (hj : ReadsType s c j id) : doc.SpellsType c j id := by
  obtain ⟨t, rfl, hname, hid⟩ := h.readsType_iff.1 hj
  exact ⟨t, rfl, h.names_of_done hname, hid⟩

theorem exists_readsType_iff (h : Mirrors doc delimiter done s) {j : Json} :
    (∃ id, ReadsType s c j id) ↔ ∃ t, j = .string t ∧ (sectionsOf done).Names c t := by
  simp only [h.readsType_iff]
  constructor
  · rintro ⟨id, t, rfl, hname, -⟩
    exact ⟨t, rfl, hname⟩
  · rintro ⟨t, rfl, hname⟩
    obtain ⟨id, -, hid⟩ := (h.names_of_done hname).exists_id
    exact ⟨id, t, rfl, hname, hid⟩

theorem requireCategory_of_lookupId (h : Mirrors doc delimiter done s) {name : String} {id : TypeId}
    (hid : lookupId s c name = .ok id) : s.requireCategory c id = .ok () := by
  obtain ⟨d, hd⟩ := Document.lookupId_eq_ok_iff.1 hid
  exact Schematic.requireCategory_eq_ok_iff.2 ⟨d, Schematic.type?_of_lookup hd, (h.lookup_spec hd).2.1⟩

theorem requireCategory_of_reads (h : Mirrors doc delimiter done s) {j : Json} {id : TypeId}
    (hj : ReadsType s c j id) : s.requireCategory c id = .ok () := by
  obtain ⟨t, -, hid⟩ := hj
  exact h.requireCategory_of_lookupId hid

theorem requireCategory_of_mentions (h : Mirrors doc delimiter done s) {shape : Shape}
    (hs : SpellsShape (ReadsType s) body c shape) {t : TypeId} {c' : Category}
    (hm : shape.Mentions t c') : s.requireCategory c' t = .ok () := by
  have hcategory := hs.category
  by_cases hc : c = .userDefined
  · subst hc
    obtain ⟨j, id, -, hj, rfl⟩ := hs
    cases hm with
    | element he =>
      obtain rfl := Option.some.inj he
      exact h.requireCategory_of_reads hj
    | declared he => exact absurd he List.not_mem_nil
    | port hp => exact nomatch hp
    | supertype hp =>
      simp [Shape.supertype, Shape.signature?] at hp
  · cases hm with
    | element he =>
      obtain ⟨g, hg, -⟩ := hs.signature hc
      cases shape <;> simp [Shape.element?, Shape.signature?] at he hg
    | declared he =>
      obtain ⟨j, -, hj⟩ := (hs.attributes hc).of_entry he
      exact h.requireCategory_of_reads hj
    | @port ports name _ hp he =>
      obtain rfl : c = .node := hcategory ▸ Schematic.exists_ports_iff.1 ⟨ports, hp⟩
      have hports := hs.ports
      rw [hp, Option.getD_some] at hports
      obtain ⟨j, -, hj⟩ := hports.of_entry he
      exact h.requireCategory_of_reads hj
    | supertype hp =>
      obtain ⟨j, -, hj⟩ := rel_some_right.1 (hp ▸ hs.supertype hc)
      rw [hcategory]
      exact h.requireCategory_of_reads hj

theorem compatible_iff (h : Mirrors doc delimiter done s) {key parent : String} {earlier : Entries}
    {own inherited : NameMap TypeId} (hown : Spells (fun _ => ReadsType s c) (given key body) own)
    (hinherited : Carries doc c (Offers key earlier parent) inherited) :
    Compatible own inherited ↔ ∀ member t t', Offers key earlier parent member t →
      (given key body).lookup member = some (.string t') → t' = t := by
  constructor
  · intro hcompatible member t t' ht ht'
    obtain ⟨id, hid, -, hnumber⟩ := hinherited.complete member t ht
    obtain ⟨id', hid', hj⟩ := hown.of_lookup ht'
    obtain ⟨u, hu, -, hnumber'⟩ := h.readsType_iff.1 hj
    obtain rfl := Json.string.inj hu
    obtain rfl := hcompatible (member, id') (hown.1.get?_eq_some_iff.1 hid') id hid
    exact Sections.typeId?_injective hnumber' hnumber
  · rintro hkeeps ⟨member, id'⟩ he id hid
    obtain ⟨j, hlookup, hj⟩ := hown.of_entry he
    obtain ⟨t', rfl, -, hnumber'⟩ := h.readsType_iff.1 hj
    obtain ⟨t, ht, -, hnumber⟩ := hinherited.offered member id hid
    obtain rfl := hkeeps member t t' ht hlookup
    rw [hnumber', Option.some.injEq] at hnumber
    exact hnumber.symm

theorem extends_iff (h : Mirrors doc delimiter done s) {shape : Shape}
    (hs : SpellsShape (ReadsType s) body c shape) (hc : c ≠ .userDefined) {parent : TypeId}
    (hp : shape.supertype = some parent) :
    s.Extends shape parent ↔ KeepsAll c (sectionsOf done c.stage) body := by
  have hcategory := hs.category
  obtain ⟨_, hlookup, t, rfl, hid⟩ := rel_some_right.1 (hp ▸ hs.supertype hc)
  have hsame {t' : String} (ht' : body.lookup "supertype" = some (.string t')) : t' = t := by
    rw [hlookup] at ht'
    exact (Json.string.inj (Option.some.inj ht')).symm
  obtain ⟨attributes, ha⟩ := h.built.grounded.effectiveAttributes_of_lookup hid
  have hattributes := h.compatible_iff (hs.attributes hc) (h.attributes_carry hc hid ha)
  constructor
  · rintro ⟨-, ⟨inherited, hin, hcompatible⟩, hports⟩
    rw [ha, Except.ok.injEq] at hin
    subst hin
    refine ⟨fun _ t' member u u' ht' hu hu' => ?_, ?_⟩
    · obtain rfl := hsame ht'
      exact hattributes.1 hcompatible member u u' hu hu'
    · rintro rfl t' member u u' ht' hu hu'
      obtain rfl := hsame ht'
      obtain ⟨ports, hshape⟩ := Schematic.exists_ports_iff.2 hcategory
      obtain ⟨inherited, hin, hcompatible⟩ := hports ports hshape
      have hown := hs.ports
      rw [hshape, Option.getD_some] at hown
      exact (h.compatible_iff hown (h.ports_carry hid hin)).1 hcompatible member u u' hu hu'
  · intro hkeeps
    refine ⟨hcategory ▸ h.requireCategory_of_lookupId hid, ⟨attributes, ha, ?_⟩, ?_⟩
    · exact hattributes.2 fun member u u' hu hu' => hkeeps.attributes hc t member u u' hlookup hu hu'
    · intro ports hshape
      obtain rfl : c = .node := hcategory ▸ Schematic.exists_ports_iff.1 ⟨ports, hshape⟩
      obtain ⟨d, hd⟩ := Document.lookupId_eq_ok_iff.1 hid
      obtain ⟨inherited, hin⟩ := h.built.grounded.exists_effectivePorts
        (Schematic.type?_of_lookup hd) (h.lookup_spec hd).2.1
      have hown := hs.ports
      rw [hshape, Option.getD_some] at hown
      refine ⟨inherited, hin, (h.compatible_iff hown (h.ports_carry hid hin)).2 ?_⟩
      exact fun member u u' hu hu' => hkeeps.ports rfl t member u u' hlookup hu hu'

theorem find?_typeNames_eq_none_iff (h : Mirrors doc delimiter done s) {name : String} :
    s.find? s.typeNames name = none ↔
      name ∉ BaseType.names ++ (typesOf done).map fun t => t.2.1 := by
  have hfind : s.find? s.typeNames name = Ledger.handle? s.ledger.types name := by
    rw [Schematic.ledger, Ledger.handle?_map]
    exact h.built.consistent.types.find?_eq h.built.consistent.names name
  rw [hfind, Ledger.handle?_eq_none_iff, h.names_types]

theorem checkType_eq_ok_iff (h : Mirrors doc delimiter done s) {shape : Shape}
    (hs : SpellsShape (ReadsType s) body c shape) {name : String} :
    s.checkType name shape = .ok () ↔ Fresh done (c.stage, name, body) ∧
      KeepsAll c (sectionsOf done c.stage) body := by
  have hfresh : Fresh done (c.stage, name, body) ↔ s.find? s.typeNames name = none := by
    rw [h.find?_typeNames_eq_none_iff]
    cases c <;> rfl
  rw [Schematic.checkType_eq_ok_iff, hfresh]
  apply and_congr_right
  intro _
  rw [and_iff_right fun t c' hm => h.requireCategory_of_mentions hs hm]
  by_cases hc : c = .userDefined
  · subst hc
    obtain ⟨j, id, -, -, rfl⟩ := hs
    exact ⟨fun _ => .userDefined, fun _ parent hp => nomatch hp⟩
  · cases hp : shape.supertype with
    | none =>
      have hnone := rel_none_right.1 (hp ▸ hs.supertype hc)
      refine ⟨fun _ => ⟨fun _ t member u u' ht => ?_, fun _ t member u u' ht => ?_⟩, nofun⟩ <;>
        exact nomatch hnone.symm.trans ht
    | some parent =>
      simp only [Option.some.injEq, forall_eq']
      exact h.extends_iff hs hc hp

theorem exists_spellsSignature_iff (h : Mirrors doc delimiter done s) (hb : (Json.object body).Distinct)
    (hc : c ≠ .userDefined) (hu : sectionsOf done .userDefinedTypes = doc .userDefinedTypes) :
    (∃ g, SpellsSignature (ReadsType s) c body g) ↔ GivesTypes doc .userDefined "attributes" body ∧
      ∀ j, body.lookup "supertype" = some j →
        ∃ parent, j = .string parent ∧ parent ∈ (sectionsOf done c.stage).map Prod.fst := by
  have hattributes := Spells.exists_iff (R := fun _ => ReadsType s .userDefined)
    (hb.given "attributes").names
  have hsupertype := exists_rel_iff (R := ReadsType s c) (x := body.lookup "supertype")
  have hnames (t : String) : (sectionsOf done).Names .userDefined t ↔ doc.Names .userDefined t := by
    simp only [Sections.Names, Category.stage, hu]
  simp only [h.exists_readsType_iff, hnames] at hattributes
  simp only [h.exists_readsType_iff, Sections.Names, hc, false_and, false_or] at hsupertype
  rw [GivesTypes, ← hattributes, ← hsupertype]
  constructor
  · rintro ⟨g, ha, hs⟩
    exact ⟨⟨_, ha⟩, _, hs⟩
  · rintro ⟨⟨attributes, ha⟩, supertype, hs⟩
    exact ⟨⟨attributes, supertype⟩, ha, hs⟩

theorem properSignature_iff (h : Mirrors doc delimiter done s) (hb : (Json.object body).Distinct)
    (hc : c ≠ .userDefined) (hu : sectionsOf done .userDefinedTypes = doc .userDefinedTypes) :
    doc.ProperSignature (sectionsOf done c.stage) body ↔ ObjectOrAbsent "attributes" body ∧
      (∃ g, SpellsSignature (ReadsType s) c body g) ∧
        Keeps "attributes" (sectionsOf done c.stage) body := by
  rw [h.exists_spellsSignature_iff hb hc hu]
  exact ⟨fun ⟨ho, ht, hs, hk⟩ => ⟨ho, ⟨ht, hs⟩, hk⟩, fun ⟨ho, ⟨ht, hs⟩, hk⟩ => ⟨ho, ht, hs, hk⟩⟩

theorem properNodeSignature_iff (h : Mirrors doc delimiter done s)
    (hb : (Json.object body).Distinct)
    (hu : sectionsOf done .userDefinedTypes = doc .userDefinedTypes)
    (hp : sectionsOf done .portTypes = doc .portTypes) :
    doc.ProperNodeSignature (sectionsOf done .nodeTypes) body ↔ ObjectOrAbsent "attributes" body ∧
      (∃ fields, body.lookup "portTypes" = some (.object fields)) ∧
        (∃ g, SpellsNodeSignature (ReadsType s) body g) ∧
          Keeps "attributes" (sectionsOf done .nodeTypes) body ∧
            Keeps "portTypes" (sectionsOf done .nodeTypes) body := by
  have hsignature := h.properSignature_iff (c := .node) hb nofun hu
  have hports := Spells.exists_iff (R := fun _ => ReadsType s .port) (hb.given "portTypes").names
  have hnames (t : String) : (sectionsOf done).Names .port t ↔ doc.Names .port t := by
    simp only [Sections.Names, Category.stage, hp]
  simp only [h.exists_readsType_iff, hnames] at hports
  constructor
  · rintro ⟨hproper, hfields, htypes, hkept⟩
    obtain ⟨ho, ⟨g, hg⟩, hk⟩ := hsignature.1 hproper
    obtain ⟨ports, hports⟩ := hports.2 htypes
    exact ⟨ho, hfields, ⟨⟨g, ports⟩, hg, hports⟩, hk, hkept⟩
  · rintro ⟨ho, hfields, ⟨g, hg, hspells⟩, hk, hkept⟩
    exact ⟨hsignature.2 ⟨ho, ⟨_, hg⟩, hk⟩, hfields, hports.1 ⟨_, hspells⟩, hkept⟩

theorem proper_type_iff (h : Mirrors doc delimiter done s) (hb : (Json.object body).Distinct)
    (hu : c ≠ .userDefined → sectionsOf done .userDefinedTypes = doc .userDefinedTypes)
    (hp : c = .node → sectionsOf done .portTypes = doc .portTypes) :
    doc.Proper delimiter (sectionsOf done c.stage) body c.stage ↔ Complete c body ∧
      (∃ shape, SpellsShape (ReadsType s) body c shape) ∧
        KeepsAll c (sectionsOf done c.stage) body := by
  have hsignature (hc : c ≠ .userDefined) := h.properSignature_iff hb hc (hu hc)
  cases c with
  | userDefined =>
    have hexists {j : Json} := h.exists_readsType_iff (c := .userDefined) (j := j)
    simp only [Sections.Names, true_and] at hexists
    constructor
    · rintro ⟨element, hlookup, hname⟩
      obtain ⟨id, hid⟩ := hexists.2 ⟨element, rfl, hname⟩
      exact ⟨.userDefined, ⟨_, _, id, hlookup, hid, rfl⟩, .userDefined⟩
    · rintro ⟨-, ⟨_, j, id, hlookup, hid, rfl⟩, -⟩
      obtain ⟨element, rfl, hname⟩ := hexists.1 ⟨id, hid⟩
      exact ⟨element, hlookup, hname⟩
  | node =>
    simp only [ByCategory.node_iff]
    refine (h.properNodeSignature_iff hb (hu (by decide)) (hp rfl)).trans ?_
    constructor
    · rintro ⟨ho, hports, ⟨g, hg⟩, hkept⟩
      exact ⟨⟨ho, hports⟩, ⟨_, g, hg, rfl⟩, hkept⟩
    · rintro ⟨⟨ho, hports⟩, ⟨_, g, hg, rfl⟩, hkept⟩
      exact ⟨ho, hports, ⟨g, hg⟩, hkept⟩
  | port | connection | constraint =>
    simp only [ByCategory.port_iff, ByCategory.connection_iff, ByCategory.constraint_iff]
    refine (hsignature (by decide)).trans ?_
    constructor
    · rintro ⟨ho, ⟨g, hg⟩, hk⟩
      exact ⟨ho, ⟨_, g, hg, rfl⟩, hk⟩
    · rintro ⟨ho, ⟨_, g, hg, rfl⟩, hk⟩
      exact ⟨ho, ⟨g, hg⟩, hk⟩

theorem accepts_type_iff (h : Mirrors doc delimiter done s) (hb : (Json.object body).Distinct)
    (hu : c ≠ .userDefined → sectionsOf done .userDefinedTypes = doc .userDefinedTypes)
    (hp : c = .node → sectionsOf done .portTypes = doc .portTypes) {name : String} :
    (∃ i, readItem delimiter s c.stage name body = .ok i ∧ s.check i = .ok ()) ↔
      Fresh done (c.stage, name, body) ∧
        doc.Proper delimiter (sectionsOf done c.stage) body c.stage := by
  simp only [readItem_type_eq_ok_iff hb, h.proper_type_iff hb hu hp]
  constructor
  · rintro ⟨_, ⟨hcomplete, shape, hs, rfl⟩, hcheck⟩
    obtain ⟨hfresh, hkeeps⟩ := (h.checkType_eq_ok_iff hs).1 hcheck
    exact ⟨hfresh, hcomplete, ⟨shape, hs⟩, hkeeps⟩
  · rintro ⟨hfresh, hcomplete, ⟨shape, hs⟩, hkeeps⟩
    exact ⟨_, ⟨hcomplete, shape, hs, rfl⟩, (h.checkType_eq_ok_iff hs).2 ⟨hfresh, hkeeps⟩⟩

theorem spellsItem_of_type (h : Mirrors doc delimiter done s) (hb : (Json.object body).Distinct)
    {name : String} {i : Item} (hi : readItem delimiter s c.stage name body = .ok i) :
    doc.SpellsItem delimiter c.stage name body i := by
  obtain ⟨-, shape, hs, rfl⟩ := (readItem_type_eq_ok_iff hb).1 hi
  exact .type (Stage.category?_eq_some_iff.2 rfl) (hs.mono fun _ _ _ => h.spellsType_of_reads)

end Mirrors

end Schematics

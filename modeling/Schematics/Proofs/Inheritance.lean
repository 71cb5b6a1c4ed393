import Schematics.Proofs.Mirroring

namespace Schematics

structure Carries (doc : Sections) (c : Category) (offers : String → String → Prop)
    (m : NameMap TypeId) : Prop where
  complete : ∀ member t, offers member t → ∃ id, m.get? member = some id ∧ doc.Numbers c t id
  offered : ∀ member id, m.get? member = some id → ∃ t, offers member t ∧ doc.Numbers c t id

variable {doc : Sections} {delimiter : Char} {done : List Entry} {s : Schematic}

theorem Carries.override {key : String} {c : Category} {name : String} {body : Fields}
    {types : Entries} {inherited own : NameMap TypeId} (he : (name, body) ∈ types)
    (hunique : ∀ body', (name, body') ∈ types → body' = body)
    (hown : Spells (fun _ => doc.SpellsType c) (given key body) own)
    (hinherited : Carries doc c (fun member t => ∃ parent,
      body.lookup "supertype" = some (.string parent) ∧ Offers key types parent member t) inherited) :
    Carries doc c (Offers key types name) (inherited.override own) where
  complete member t ht := by
    rw [hown.1.get?_override]
    cases ht with
    | own hn ht =>
      obtain rfl := hunique _ hn
      obtain ⟨id, hid, t', heq, hnumbers⟩ := hown.of_lookup ht
      obtain rfl := Json.string.inj heq
      exact ⟨id, by rw [hid]; rfl, hnumbers⟩
    | inherited hn hp hm ht =>
      obtain rfl := hunique _ hn
      have hnone : own.get? member = none := rel_none_left.1 (hm ▸ hown.2 member)
      obtain ⟨id, hid, hnumbers⟩ := hinherited.complete member t ⟨_, hp, ht⟩
      exact ⟨id, by rw [hnone, Option.none_or, hid], hnumbers⟩
  offered member id hid := by
    rw [hown.1.get?_override, Option.or_eq_some_iff] at hid
    obtain hid | ⟨hnone, hid⟩ := hid
    · obtain ⟨j, hj, t, rfl, hnumbers⟩ := rel_some_right.1 (hid ▸ hown.2 member)
      exact ⟨t, .own he hj, hnumbers⟩
    · have hm : (given key body).lookup member = none := rel_none_right.1 (hnone ▸ hown.2 member)
      obtain ⟨t, ⟨parent, hp, ht⟩, hnumbers⟩ := hinherited.offered member id hid
      exact ⟨t, .inherited he hp hm ht, hnumbers⟩

namespace Mirrors

theorem carries (h : Mirrors doc delimiter done s) {key : String} {c c' : Category}
    (hc : c ≠ .userDefined) {own : Shape → NameMap TypeId}
    {effective : TypeId → Except Fault (NameMap TypeId)}
    (hown : ∀ body shape, SpellsShape doc.SpellsType body c shape →
      Spells (fun _ => doc.SpellsType c') (given key body) (own shape))
    (heffective : ∀ id d, s.type? id = some d → d.category = c → effective id =
      (·.override (own d.shape)) <$> d.shape.supertype.elim (.ok ∅) effective)
    {name : String} {id : TypeId} {d : TypeDef} (hd : s.lookup c name = .ok (id, d))
    {m : NameMap TypeId} (hm : effective id = .ok m) :
    Carries doc c' (Offers key (sectionsOf done c.stage) name) m := by
  -- the induction is on the supertypes, each found again under its own name
  refine h.built.grounded.supertype_induction (p := fun id d => ∀ name m,
    s.lookup c name = .ok (id, d) → effective id = .ok m →
      Carries doc c' (Offers key (sectionsOf done c.stage) name) m) ?_
    (Schematic.type?_of_lookup hd) name m hd hm
  intro id d htype ih name m hd hm
  obtain ⟨-, hcategory, -⟩ := h.lookup_spec hd
  obtain ⟨body, he, hshape⟩ := h.lookup_entry hc hd
  have hsuper := hshape.supertype hc
  rw [heffective id d htype hcategory, map_eq_ok_iff] at hm
  obtain ⟨inherited, hin, rfl⟩ := hm
  refine .override he (fun body' he' => h.body_unique he' he) (hown body d.shape hshape) ?_
  cases hp : d.shape.supertype with
  | none =>
    rw [hp] at hin hsuper
    obtain rfl := Except.ok.inj hin
    have hnone := rel_none_right.1 hsuper
    refine ⟨fun member t ⟨parent, hparent, _⟩ => ?_, fun member id hid => nomatch hid⟩
    rw [hnone] at hparent
    exact nomatch hparent
  | some parent =>
    rw [hp] at hin hsuper
    obtain ⟨d', hd', hcategory', hcarries⟩ := ih parent hp
    obtain ⟨other, hother⟩ := h.built.consistent.exists_lookup hd'
    rw [hcategory', hcategory] at hother
    obtain ⟨j, hj, t, rfl, -, hnumber⟩ := rel_some_right.1 hsuper
    obtain rfl := Sections.typeId?_injective hnumber (h.lookup_spec hother).1
    have hparent := hcarries t inherited hother hin
    refine ⟨fun member u ⟨name', hname', hu⟩ => ?_, fun member id hid => ?_⟩
    · rw [hj] at hname'
      obtain rfl := Json.string.inj (Option.some.inj hname')
      exact hparent.complete member u hu
    · obtain ⟨u, hu, hnumbers⟩ := hparent.offered member id hid
      exact ⟨u, ⟨t, hj, hu⟩, hnumbers⟩

theorem attributes_carry (h : Mirrors doc delimiter done s) {c : Category} (hc : c ≠ .userDefined)
    {name : String} {id : TypeId} (hid : Document.lookupId s c name = .ok id) {m : NameMap TypeId}
    (hm : s.effectiveAttributes id = .ok m) :
    Carries doc .userDefined (Offers "attributes" (sectionsOf done c.stage) name) m := by
  obtain ⟨d, hd⟩ := Document.lookupId_eq_ok_iff.1 hid
  refine h.carries hc (fun body shape hshape => hshape.attributes hc) (fun id d htype _ => ?_) hd hm
  exact h.built.grounded.effectiveAttributes_eq htype

theorem ports_carry (h : Mirrors doc delimiter done s) {name : String} {id : TypeId}
    (hid : Document.lookupId s .node name = .ok id) {m : NameMap TypeId}
    (hm : s.effectivePorts id = .ok m) :
    Carries doc .port (Offers "portTypes" (sectionsOf done .nodeTypes) name) m := by
  obtain ⟨d, hd⟩ := Document.lookupId_eq_ok_iff.1 hid
  refine h.carries (c := .node) nofun (fun body shape hshape => hshape.ports)
    (fun id d htype hcategory => ?_) hd hm
  obtain ⟨own, hown⟩ := Schematic.exists_ports_iff.2 hcategory
  rw [hown, Option.getD_some]
  exact h.built.grounded.effectivePorts_eq htype hown

end Mirrors

end Schematics

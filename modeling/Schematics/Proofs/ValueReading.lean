import Schematics.Proofs.Inheritance

namespace Schematics

variable {doc : Sections} {delimiter : Char} {done : List Entry} {s : Schematic}

theorem denotes_scalar_iff {name : String} (attr : String) {raw : Json} (h : raw.isScalar = true)
    {v : Value} :
    Denotes doc name raw v ↔ ∃ shape, BaseType.Called name shape ∧
      AttributeValue.readScalar shape attr raw.scalarText = .ok v := by
  constructor
  · intro hd
    cases hd with
    | scalar hn hraw h => exact ⟨_, hn, AttributeValue.readScalar_eq_ok_iff.2 (hraw.eq ▸ h)⟩
    | array => exact nomatch h
  · rintro ⟨shape, hn, hread⟩
    exact .scalar hn (Json.hasText_scalarText h) (AttributeValue.readScalar_eq_ok_iff.1 hread)

theorem Denotes.not_scalar_of_entry {name : String} {raw : Json} {v : Value}
    (h : Denotes doc name raw v) (hraw : raw.isScalar = true) : name ∈ BaseType.names := by
  obtain ⟨shape, hmem, -⟩ := (denotes_scalar_iff "" hraw).1 h
  exact List.mem_map.2 ⟨_, BaseType.called_iff.1 hmem, rfl⟩

namespace Mirrors

theorem lookup_userDefined (h : Mirrors doc delimiter done s) {name : String} {id : TypeId}
    {d : TypeDef} (hd : s.lookup .userDefined name = .ok (id, d)) : (name, d.shape) ∈ BaseType.all ∨
      ∃ body element elementId, (name, body) ∈ sectionsOf done .userDefinedTypes ∧
        body.lookup "elementType" = some (.string element) ∧
        doc.Numbers .userDefined element elementId ∧ d.shape = .array elementId := by
  obtain ⟨-, hc, hmem⟩ := h.lookup_spec hd
  have hcategory : d.shape.category = .userDefined := hc
  obtain hbase | ⟨body, he, hshape⟩ := h.spelled_of_mem hmem
  · exact .inl hbase
  · rw [hcategory] at he hshape
    obtain ⟨_, elementId, hlookup, ⟨element, rfl, hnumbers⟩, harray⟩ := hshape
    exact .inr ⟨body, element, elementId, he, hlookup, hnumbers, harray⟩

theorem lookupId_of_numbers (h : Mirrors doc delimiter done s) {c : Category}
    (hc : sectionsOf done c.stage = doc c.stage) {name : String} {id : TypeId} :
    Document.lookupId s c name = .ok id ↔ doc.Numbers c name id := by
  rw [h.lookupId_eq_ok_iff, Sections.Numbers, Sections.Names, Sections.Names, hc]

theorem readScalar_eq_ok_iff (h : Mirrors doc delimiter done s) {name attr : String} {id : TypeId}
    {d : TypeDef} (hd : s.lookup .userDefined name = .ok (id, d)) {raw : Json}
    (hraw : raw.isScalar = true) {v : Value} :
    AttributeValue.readScalar d.shape attr raw.scalarText = .ok v ↔ Denotes doc name raw v := by
  obtain hbase | ⟨body, element, elementId, he, -, -, harray⟩ := h.lookup_userDefined hd
  · rw [denotes_scalar_iff attr hraw]
    constructor
    · intro hread
      exact ⟨d.shape, BaseType.called_iff.2 hbase, hread⟩
    · rintro ⟨shape, hn, hread⟩
      exact hn.unique (BaseType.called_iff.2 hbase) ▸ hread
  · rw [harray]
    constructor
    · exact nofun
    · intro hdenotes
      exact absurd (hdenotes.not_scalar_of_entry hraw)
        (h.not_base_of_entry (c := .userDefined) he)

mutual

theorem read_eq_ok_iff (h : Mirrors doc delimiter done s)
    (hu : sectionsOf done .userDefinedTypes = doc .userDefinedTypes) (raw : Json)
    {name attr : String} {id : TypeId} (hid : Document.lookupId s .userDefined name = .ok id) {v : Value} :
    AttributeValue.read s id attr raw = .ok v ↔ Denotes doc name raw v := by
  obtain ⟨d, hd⟩ := Document.lookupId_eq_ok_iff.1 hid
  have hdefinition := Schematic.typeDefinition_of_type? (Schematic.type?_of_lookup hd)
  have hnumber := (h.lookup_spec hd).1
  rw [AttributeValue.read.eq_def, hdefinition, bind_eq_ok_iff]
  simp only [Except.ok.injEq, exists_eq_left']
  cases raw with
  | null | object _ =>
    refine ⟨nofun, fun hdenotes => ?_⟩
    cases hdenotes with
    | scalar _ hraw => exact nomatch hraw.isScalar
  | bool _ | int _ | real _ | string _ => exact h.readScalar_eq_ok_iff hd rfl
  | array items =>
    rw [Denotes.array_iff]
    obtain hbase | ⟨body, element, elementId, he, hlookup, hnumbers, harray⟩ :=
      h.lookup_userDefined hd
    · have helement : d.shape.element? = none := by
        simp only [BaseType.all, List.mem_cons, Prod.mk.injEq, List.not_mem_nil, or_false] at hbase
        obtain ⟨-, hshape⟩ | ⟨-, hshape⟩ | ⟨-, hshape⟩ | ⟨-, hshape⟩ := hbase <;> rw [hshape] <;> rfl
      simp only [helement, throw_eq_error, reduceCtorEq, false_iff]
      rintro ⟨body, _, _, _, _, he, -⟩
      exact h.not_base_of_entry (c := .userDefined) (hu ▸ he) (List.mem_map.2 ⟨_, hbase, rfl⟩)
    · have helement : Document.lookupId s .userDefined element = .ok elementId :=
        (h.lookupId_of_numbers (c := .userDefined) hu).2 hnumbers
      simp only [harray, Shape.element?, map_eq_ok_iff, readItems_eq_ok_iff h hu items helement]
      constructor
      · rintro ⟨values, hvalues, rfl⟩
        exact ⟨body, element, id, elementId, values, hu ▸ he, hlookup, hnumber, hnumbers.2, hvalues,
          rfl⟩
      · rintro ⟨body', element', id', elementId', values, he', hlookup', hid', helement', hvalues, rfl⟩
        obtain rfl := h.body_unique (c := .userDefined) he (hu ▸ he')
        rw [hlookup] at hlookup'
        obtain rfl := Json.string.inj (Option.some.inj hlookup')
        rw [hnumber, Option.some.injEq] at hid'
        rw [hnumbers.2, Option.some.injEq] at helement'
        exact ⟨values, hvalues, by rw [hid', helement']⟩

theorem readItems_eq_ok_iff (h : Mirrors doc delimiter done s)
    (hu : sectionsOf done .userDefinedTypes = doc .userDefinedTypes) (items : List Json)
    {element attr : String} {id : TypeId} (hid : Document.lookupId s .userDefined element = .ok id)
    {index : Nat} {values : List Value} :
    AttributeValue.readItems s id attr index items = .ok values ↔
      List.Forall₂ (Denotes doc element) items values := by
  cases items with
  | nil =>
    rw [AttributeValue.readItems, List.forall₂_nil_left_iff]
    exact ⟨fun hvalues => (Except.ok.inj hvalues).symm, fun hvalues => congrArg Except.ok hvalues.symm⟩
  | cons raw rest =>
    simp only [AttributeValue.readItems, bind_eq_ok_iff, pure_eq_ok, Except.ok.injEq,
      List.forall₂_cons_left_iff]
    constructor
    · rintro ⟨v, hv, vs, hvs, rfl⟩
      exact ⟨v, vs, (read_eq_ok_iff h hu raw hid).1 hv, (readItems_eq_ok_iff h hu rest hid).1 hvs, rfl⟩
    · rintro ⟨v, vs, hv, hvs, rfl⟩
      exact ⟨v, (read_eq_ok_iff h hu raw hid).2 hv, vs, (readItems_eq_ok_iff h hu rest hid).2 hvs, rfl⟩

end

end Mirrors

end Schematics

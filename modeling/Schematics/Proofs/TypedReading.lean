import Schematics.Proofs.Denotation

namespace Schematics

variable {s : Schematic} {t : TypeId} {shape : Shape} {name text : String} {v : Value}

namespace Schematic

inductive Takes (s : Schematic) : TypeId → Json → Prop
  | scalar {t : TypeId} {d : TypeDef} {raw : Json} {text : String} (hd : s.typeDefinition t = .ok d)
    (hraw : raw.HasText text) (h : d.shape.Takes text) : Takes s t raw
  | array {t element : TypeId} {d : TypeDef} {items : List Json} (hd : s.typeDefinition t = .ok d)
    (hshape : d.shape = .array element) (h : ∀ raw ∈ items, Takes s element raw) :
    Takes s t (.array items)

inductive Writes (s : Schematic) : TypeId → Json → Value → Prop
  | scalar {t : TypeId} {d : TypeDef} {raw : Json} {text : String} {v : Value}
    (hd : s.typeDefinition t = .ok d) (hraw : raw.HasText text) (h : d.shape.Writes text v) :
    Writes s t raw v
  | array {t element : TypeId} {d : TypeDef} {items : List Json} {values : List Value}
    (hd : s.typeDefinition t = .ok d) (hshape : d.shape = .array element)
    (hl : items.length = values.length)
    (h : ∀ raw v, (raw, v) ∈ items.zip values → Writes s element raw v) :
    Writes s t (.array items) (.array t element values)

end Schematic

variable {raw : Json} {items : List Json} {d : TypeDef} {values : List Value}

namespace AttributeValue

theorem read_scalar_eq_ok_iff (hraw : raw.isScalar = true) : read s t name raw = .ok v ↔
    ∃ d, s.typeDefinition t = .ok d ∧ readScalar d.shape name raw.scalarText = .ok v := by
  rw [read.eq_def, bind_eq_ok_iff]
  cases raw with
  | bool _ | int _ | real _ | string _ => rfl
  | null | array _ | object _ => exact absurd hraw Bool.false_ne_true

theorem read_array_eq_ok_iff : read s t name (.array items) = .ok v ↔
    ∃ d, s.typeDefinition t = .ok d ∧ ∃ element, d.shape = .array element ∧
      ∃ values, readItems s element name 0 items = .ok values ∧ .array t element values = v := by
  rw [read.eq_def, bind_eq_ok_iff]
  refine exists_congr fun d => and_congr_right fun _ => ?_
  cases hshape : d.shape with
  | array element => simp only [Shape.element?, map_eq_ok_iff, Shape.array.injEq, exists_eq_left']
  | bool | int | string | real | port _ | node _ | connection _ | constraint _ =>
    simp [Shape.element?]

theorem readItems_cons_eq_ok_iff {element : TypeId} {index : Nat} :
    readItems s element name index (raw :: items) = .ok values ↔
      ∃ v, read s element s!"{name}[{index}]" raw = .ok v ∧
        ∃ rest, readItems s element name (index + 1) items = .ok rest ∧ v :: rest = values := by
  simp only [readItems, bind_eq_ok_iff, pure_eq_ok, Except.ok.injEq]

theorem read_null_ne_ok : read s t name .null ≠ .ok v := by
  rw [read.eq_def, ne_eq, bind_eq_ok_iff]
  rintro ⟨d, -, h⟩
  cases h

theorem read_object_ne_ok {fields : List (String × Json)} : read s t name (.object fields) ≠ .ok v := by
  rw [read.eq_def, ne_eq, bind_eq_ok_iff]
  rintro ⟨d, -, h⟩
  cases h

end AttributeValue

namespace Schematic

theorem takes_scalar_iff (hraw : raw.isScalar = true) :
    s.Takes t raw ↔ ∃ d, s.typeDefinition t = .ok d ∧ d.shape.Takes raw.scalarText := by
  constructor
  · intro h
    cases h with
    | scalar hd htext h => exact ⟨_, hd, htext.eq ▸ h⟩
    | array => exact nomatch hraw
  · rintro ⟨d, hd, h⟩
    exact .scalar hd (Json.hasText_scalarText hraw) h

theorem takes_array_iff : s.Takes t (.array items) ↔
    ∃ d, s.typeDefinition t = .ok d ∧ ∃ element, d.shape = .array element ∧
      ∀ raw ∈ items, s.Takes element raw := by
  constructor
  · intro h
    cases h with
    | scalar _ hraw => exact nomatch hraw.isScalar
    | array hd hshape h => exact ⟨_, hd, _, hshape, h⟩
  · rintro ⟨d, hd, element, hshape, h⟩
    exact .array hd hshape h

theorem writes_scalar_iff (hraw : raw.isScalar = true) :
    s.Writes t raw v ↔ ∃ d, s.typeDefinition t = .ok d ∧ d.shape.Writes raw.scalarText v := by
  constructor
  · intro h
    cases h with
    | scalar hd htext h => exact ⟨_, hd, htext.eq ▸ h⟩
    | array => exact nomatch hraw
  · rintro ⟨d, hd, h⟩
    exact .scalar hd (Json.hasText_scalarText hraw) h

theorem writes_array_iff : s.Writes t (.array items) v ↔
    ∃ d, s.typeDefinition t = .ok d ∧ ∃ element, d.shape = .array element ∧
      ∃ values, List.Forall₂ (s.Writes element) items values ∧ .array t element values = v := by
  constructor
  · intro h
    cases h with
    | scalar _ hraw => exact nomatch hraw.isScalar
    | array hd hshape hl h =>
      exact ⟨_, hd, _, hshape, _, List.forall₂_iff_zip.2 ⟨hl, fun hmem => h _ _ hmem⟩, rfl⟩
  · rintro ⟨d, hd, element, hshape, values, hvalues, rfl⟩
    obtain ⟨hl, h⟩ := List.forall₂_iff_zip.1 hvalues
    exact .array hd hshape hl fun _ _ hmem => h hmem

theorem not_writes_null : ¬s.Writes t .null v := by
  rintro (⟨_, hraw⟩ | _)
  exact nomatch hraw

theorem not_writes_object {fields : List (String × Json)} : ¬s.Writes t (.object fields) v := by
  rintro (⟨_, hraw⟩ | _)
  exact nomatch hraw

theorem not_takes_null : ¬s.Takes t .null := by
  rintro (⟨_, hraw⟩ | _)
  exact nomatch hraw

theorem not_takes_object {fields : List (String × Json)} : ¬s.Takes t (.object fields) := by
  rintro (⟨_, hraw⟩ | _)
  exact nomatch hraw

theorem Takes.category (h : s.Takes t raw) (hd : s.typeDefinition t = .ok d) :
    d.category = .userDefined := by
  have hcategory {shape : Shape} {text : String} (h : shape.Takes text) :
      shape.category = .userDefined := by
    cases shape with
    | port _ | node _ | connection _ | constraint _ => exact h.elim
    | bool | int | string | real | array _ => rfl
  cases h with
  | scalar hd' _ h =>
    obtain rfl := Except.ok.inj (hd.symm.trans hd')
    exact hcategory h
  | array hd' hshape _ =>
    obtain rfl := Except.ok.inj (hd.symm.trans hd')
    rw [TypeDef.category, hshape]
    rfl

end Schematic

namespace AttributeValue

theorem exists_read_scalar_iff (hraw : raw.isScalar = true) :
    (∃ v, read s t name raw = .ok v) ↔ s.Takes t raw := by
  rw [Schematic.takes_scalar_iff hraw]
  simp only [read_scalar_eq_ok_iff hraw, ← @exists_readScalar_iff _ name]
  rw [exists_comm]
  simp only [exists_and_left]

mutual

theorem exists_read_iff (s : Schematic) (t : TypeId) (name : String) (raw : Json) :
    (∃ v, read s t name raw = .ok v) ↔ s.Takes t raw := by
  cases raw with
  | null => exact iff_of_false (fun ⟨_, h⟩ => read_null_ne_ok h) Schematic.not_takes_null
  | object _ => exact iff_of_false (fun ⟨_, h⟩ => read_object_ne_ok h) Schematic.not_takes_object
  | bool _ | int _ | real _ | string _ =>
    exact exists_read_scalar_iff rfl
  | array items =>
    rw [Schematic.takes_array_iff]
    simp only [read_array_eq_ok_iff, ← exists_readItems_iff s _ name 0 items]
    constructor
    · rintro ⟨v, d, hd, element, hshape, values, hvalues, -⟩
      exact ⟨d, hd, element, hshape, values, hvalues⟩
    · rintro ⟨d, hd, element, hshape, values, hvalues⟩
      exact ⟨_, d, hd, element, hshape, values, hvalues, rfl⟩

theorem exists_readItems_iff (s : Schematic) (element : TypeId) (name : String) (index : Nat)
    (items : List Json) :
    (∃ values, readItems s element name index items = .ok values) ↔
      ∀ raw ∈ items, s.Takes element raw := by
  cases items with
  | nil => exact iff_of_true ⟨_, rfl⟩ nofun
  | cons raw rest =>
    rw [List.forall_mem_cons, ← exists_read_iff s element s!"{name}[{index}]" raw,
      ← exists_readItems_iff s element name (index + 1) rest]
    simp only [readItems_cons_eq_ok_iff]
    constructor
    · rintro ⟨values, v, hv, vs, hvs, -⟩
      exact ⟨⟨v, hv⟩, vs, hvs⟩
    · rintro ⟨⟨v, hv⟩, vs, hvs⟩
      exact ⟨_, v, hv, vs, hvs, rfl⟩

end

mutual

theorem read_eq_ok_iff (s : Schematic) (t : TypeId) (name : String) (raw : Json) {v : Value} :
    read s t name raw = .ok v ↔ s.Writes t raw v := by
  cases raw with
  | null => exact iff_of_false read_null_ne_ok Schematic.not_writes_null
  | object _ => exact iff_of_false read_object_ne_ok Schematic.not_writes_object
  | bool _ | int _ | real _ | string _ =>
    rw [read_scalar_eq_ok_iff rfl, Schematic.writes_scalar_iff rfl]
    simp only [readScalar_eq_ok_iff]
  | array items =>
    rw [read_array_eq_ok_iff, Schematic.writes_array_iff]
    simp only [readItems_eq_ok_iff s _ name 0 items]

theorem readItems_eq_ok_iff (s : Schematic) (element : TypeId) (name : String) (index : Nat)
    (items : List Json) {values : List Value} : readItems s element name index items = .ok values ↔
      List.Forall₂ (s.Writes element) items values := by
  cases items with
  | nil => rw [readItems, pure_eq_ok, Except.ok.injEq, List.forall₂_nil_left_iff, eq_comm]
  | cons raw rest =>
    rw [readItems_cons_eq_ok_iff, List.forall₂_cons_left_iff]
    simp only [read_eq_ok_iff s element s!"{name}[{index}]" raw,
      readItems_eq_ok_iff s element name (index + 1) rest]
    constructor
    · rintro ⟨v, hv, vs, hvs, rfl⟩
      exact ⟨v, vs, hv, hvs, rfl⟩
    · rintro ⟨v, vs, hv, hvs, rfl⟩
      exact ⟨v, hv, vs, hvs, rfl⟩

end

theorem readDeclared_exactly (s : Schematic) (t : TypeId) (name : String) (raw : Json) :
    ((∃ v, readDeclared s (some t) name raw = .ok v) ↔ s.Takes t raw) ∧
      (∀ v, readDeclared s (some t) name raw = .ok v ↔ s.Writes t raw v) ∧
      (∀ d, s.typeDefinition t = .ok d → d.category ≠ .userDefined → ¬s.Takes t raw) ∧
      ¬s.Takes t .null ∧ ∀ fields, ¬s.Takes t (.object fields) :=
  ⟨exists_read_iff s t name raw, fun _ => read_eq_ok_iff s t name raw,
    fun _ hd hc h => hc (h.category hd), Schematic.not_takes_null,
    fun _ => Schematic.not_takes_object⟩

end AttributeValue

end Schematics

import Schematics.Proofs.EntryOrder
import Schematics.Proofs.EntryReading

/-!
The invariant of reading: a schematic mirrors the entries read so far when its lists hold the base
types and one item for each entry, in the order of the entries, that the entry spells. Looking a name
up in the schematic is then looking it up in the document.
-/

namespace Schematics

structure Mirrors (doc : Sections) (delimiter : Char) (done : List Entry) (s : Schematic) : Prop where
  built : s.Built
  part : done <+: doc.inOrder
  types : ∃ rows, s.ledger.types = BaseType.all ++ rows ∧
    List.Forall₂ (fun e r => r.1 = e.2.1 ∧ SpellsShape doc.SpellsType e.2.2 e.1 r.2) (typesOf done) rows
  nodes : List.Forall₂ (fun e r => r.1 = e.1 ∧ ∃ t, doc.SpellsNode t e.2 r.2)
    (sectionsOf done .nodes) s.ledger.nodes
  connections : List.Forall₂ (fun e r => r.1 = e.1 ∧ ∃ t, doc.SpellsConnection delimiter t e.2 r.2)
    (sectionsOf done .connections) s.ledger.connections
  constraints : List.Forall₂ (fun e r => r.1 = e.1 ∧ ∃ t, doc.SpellsConstraint t e.2 r.2)
    (sectionsOf done .constraints) s.ledger.constraints

namespace Ledger

variable {κ : Kind} {α β : Type}

theorem handle?_eq_findIdx? (l : List (String × α)) (name : String) :
    (handle? l name : Option (Handle κ)) =
      ((l.map Prod.fst).findIdx? fun other => other = name).map .ofSlot := by
  rw [handle?, List.findIdx?_map]
  rfl

theorem handle?_congr {l : List (String × α)} {l' : List (String × β)}
    (h : l.map Prod.fst = l'.map Prod.fst) (name : String) :
    (handle? l name : Option (Handle κ)) = handle? l' name := by
  rw [handle?_eq_findIdx?, handle?_eq_findIdx?, h]

theorem handle?_injective {l : List (String × α)} {name other : String} {id : Handle κ}
    (h : handle? l name = some id) (ho : handle? l other = some id) : name = other := by
  rw [handle?_eq_findIdx?] at h ho
  exact name_eq_of_findIdx? h ho

theorem exists_row?_iff {l : List (String × α)} {e : String × α} :
    (∃ id : Handle κ, row? l id = some e) ↔ e ∈ l := by
  rw [List.mem_iff_getElem?]
  constructor
  · rintro ⟨id, hid⟩
    obtain ⟨i, -, hi⟩ := row?_eq_some_iff.1 hid
    exact ⟨i, hi⟩
  · rintro ⟨i, hi⟩
    exact ⟨.ofSlot i, (row?_ofSlot l i).trans hi⟩

end Ledger

namespace Schematic

variable {s : Schematic}

theorem Consistent.lookup_eq_ok_iff (h : s.Consistent) {c : Category} {name : String} {id : TypeId}
    {d : TypeDef} : s.lookup c name = .ok (id, d) ↔
      Ledger.row? s.ledger.types id = some (name, d.shape) ∧ d.category = c ∧ d.id = some id := by
  rw [h.lookup_eq_found, Ledger.found_eq_ok_iff]
  simp only [Ledger.typeIn?, Option.bind_eq_some_iff, Option.map_eq_some_iff,
    Option.filter_eq_some_iff, Ledger.handle?_eq_some_iff h.nodup_types, Prod.mk.injEq,
    decide_eq_true_eq]
  constructor
  · rintro ⟨other, ⟨shape, he⟩, e, ⟨hrow, hc⟩, rfl, rfl⟩
    rw [he, Option.some.injEq] at hrow
    subst hrow
    exact ⟨he, hc, rfl⟩
  · rintro ⟨he, hc, hid⟩
    exact ⟨id, ⟨d.shape, he⟩, _, ⟨he, hc⟩, rfl, by rw [← hid]⟩

theorem Consistent.exists_lookup (h : s.Consistent) {id : TypeId} {d : TypeDef}
    (hd : s.type? id = some d) : ∃ name, s.lookup d.category name = .ok (id, d) := by
  obtain ⟨name, hrow, hid⟩ := h.type?_eq_some_iff_row.1 hd
  exact ⟨name, h.lookup_eq_ok_iff.2 ⟨hrow, rfl, hid⟩⟩

end Schematic

namespace BaseType

theorem category_of_mem {e : String × Shape} (he : e ∈ all) : e.2.category = .userDefined := by
  revert e
  decide

end BaseType

namespace Mirrors

variable {doc : Sections} {delimiter : Char} {done : List Entry} {s : Schematic}

theorem names_types (h : Mirrors doc delimiter done s) :
    s.ledger.types.map Prod.fst = BaseType.names ++ (typesOf done).map fun e => e.2.1 := by
  obtain ⟨rows, hrows, hspelled⟩ := h.types
  have hnames : rows.map Prod.fst = (typesOf done).map fun e => e.2.1 :=
    map_eq_of_forall₂ (fun _ _ h => h.1) hspelled
  rw [hrows, List.map_append, hnames]
  rfl

theorem nodup_names (h : Mirrors doc delimiter done s) :
    (BaseType.names ++ (typesOf done).map fun e => e.2.1).Nodup :=
  h.names_types ▸ h.built.consistent.nodup_types

theorem typeId?_of_row (h : Mirrors doc delimiter done s) {id : TypeId} {name : String}
    {shape : Shape} (hrow : Ledger.row? s.ledger.types id = some (name, shape)) :
    doc.typeId? name = some id := by
  have hid : Ledger.handle? s.ledger.types name = some id :=
    (Ledger.handle?_eq_some_iff h.built.consistent.nodup_types).2 ⟨shape, hrow⟩
  rw [Ledger.handle?_eq_findIdx?, Option.map_eq_some_iff] at hid
  obtain ⟨i, hi, rfl⟩ := hid
  obtain ⟨rest, hrest⟩ := h.part
  have hnames : doc.typeNames =
      s.ledger.types.map Prod.fst ++ (typesOf rest).map fun e => e.2.1 := by
    rw [h.names_types, Sections.typeNames, ← Sections.typesOf_inOrder, ← hrest, typesOf_append,
      List.map_append, List.append_assoc]
  rw [Sections.typeId?, hnames, List.findIdx?_append, hi]
  rfl

theorem spelled_of_mem (h : Mirrors doc delimiter done s) {name : String} {shape : Shape}
    (hmem : (name, shape) ∈ s.ledger.types) : (name, shape) ∈ BaseType.all ∨
      ∃ body, (name, body) ∈ sectionsOf done shape.category.stage ∧
        SpellsShape doc.SpellsType body shape.category shape := by
  obtain ⟨rows, hrows, hspelled⟩ := h.types
  rw [hrows] at hmem
  apply (List.mem_append.1 hmem).imp id
  intro hmem
  obtain ⟨⟨c, other, body⟩, he, hname, hshape⟩ := exists_of_forall₂_right hspelled hmem
  obtain rfl : name = other := hname
  obtain rfl : shape.category = c := hshape.category
  exact ⟨body, mem_typesOf.1 he, hshape⟩

theorem exists_mem_of_entry (h : Mirrors doc delimiter done s) {c : Category} {name : String}
    {body : Fields} (he : (name, body) ∈ sectionsOf done c.stage) :
    ∃ shape, (name, shape) ∈ s.ledger.types ∧ SpellsShape doc.SpellsType body c shape := by
  obtain ⟨rows, hrows, hspelled⟩ := h.types
  obtain ⟨⟨other, shape⟩, hr, hname, hshape⟩ :=
    exists_of_forall₂_left hspelled (mem_typesOf.2 he)
  obtain rfl : other = name := hname
  exact ⟨shape, hrows ▸ List.mem_append_right _ hr, hshape⟩

theorem body_unique (h : Mirrors doc delimiter done s) {c : Category} {name : String}
    {body body' : Fields} (he : (name, body) ∈ sectionsOf done c.stage)
    (he' : (name, body') ∈ sectionsOf done c.stage) : body = body' := by
  have hnodup := (List.nodup_append.1 h.nodup_names).2.1
  have heq := List.inj_on_of_nodup_map hnodup (mem_typesOf.2 he) (mem_typesOf.2 he') rfl
  exact (Prod.mk.inj (Prod.mk.inj heq).2).2

theorem not_base_of_entry (h : Mirrors doc delimiter done s) {c : Category} {name : String}
    {body : Fields} (he : (name, body) ∈ sectionsOf done c.stage) : name ∉ BaseType.names :=
  fun hb => (List.nodup_append.1 h.nodup_names).2.2 name hb name
    (List.mem_map.2 ⟨_, mem_typesOf.2 he, rfl⟩) rfl

theorem lookup_spec (h : Mirrors doc delimiter done s) {c : Category} {name : String} {id : TypeId}
    {d : TypeDef} (hd : s.lookup c name = .ok (id, d)) : doc.typeId? name = some id ∧
      d.category = c ∧ (name, d.shape) ∈ s.ledger.types := by
  obtain ⟨hrow, hc, -⟩ := h.built.consistent.lookup_eq_ok_iff.1 hd
  exact ⟨h.typeId?_of_row hrow, hc, Ledger.exists_row?_iff.1 ⟨id, hrow⟩⟩

theorem lookup_entry (h : Mirrors doc delimiter done s) {c : Category} (hc : c ≠ .userDefined)
    {name : String} {id : TypeId} {d : TypeDef} (hd : s.lookup c name = .ok (id, d)) :
    ∃ body, (name, body) ∈ sectionsOf done c.stage ∧ SpellsShape doc.SpellsType body c d.shape := by
  obtain ⟨-, rfl, hmem⟩ := h.lookup_spec hd
  obtain hbase | hentry := h.spelled_of_mem hmem
  · exact absurd (BaseType.category_of_mem hbase) hc
  · exact hentry

theorem lookupId_eq_ok_iff (h : Mirrors doc delimiter done s) {c : Category} {name : String}
    {id : TypeId} : Document.lookupId s c name = .ok id ↔
      (sectionsOf done).Names c name ∧ doc.typeId? name = some id := by
  rw [Document.lookupId_eq_ok_iff]
  constructor
  · rintro ⟨d, hd⟩
    obtain ⟨hid, rfl, hmem⟩ := h.lookup_spec hd
    refine ⟨?_, hid⟩
    obtain hbase | ⟨body, he, -⟩ := h.spelled_of_mem hmem
    · exact .inl ⟨BaseType.category_of_mem hbase, List.mem_map.2 ⟨_, hbase, rfl⟩⟩
    · exact .inr (List.mem_map.2 ⟨_, he, rfl⟩)
  · rintro ⟨hname, hid⟩
    have hmem : ∃ shape, (name, shape) ∈ s.ledger.types ∧ shape.category = c := by
      obtain ⟨rfl, hbase⟩ | hentry := hname
      · obtain ⟨⟨_, shape⟩, hb, rfl⟩ := List.mem_map.1 hbase
        obtain ⟨rows, hrows, -⟩ := h.types
        exact ⟨shape, hrows ▸ List.mem_append_left _ hb, BaseType.category_of_mem hb⟩
      · obtain ⟨⟨_, body⟩, he, rfl⟩ := List.mem_map.1 hentry
        obtain ⟨shape, hmem, hshape⟩ := h.exists_mem_of_entry he
        exact ⟨shape, hmem, hshape.category⟩
    obtain ⟨shape, hmem, rfl⟩ := hmem
    obtain ⟨other, hrow⟩ := Ledger.exists_row?_iff.2 hmem
    have heq := h.typeId?_of_row hrow
    rw [hid, Option.some.injEq] at heq
    subst heq
    exact ⟨⟨some id, shape⟩, h.built.consistent.lookup_eq_ok_iff.2 ⟨hrow, rfl, rfl⟩⟩

theorem record (h : Mirrors doc delimiter done s) {stage : Stage} {name : String} {body : Fields}
    (hpart : done ++ [(stage, name, body)] <+: doc.inOrder) {i : Item}
    (hi : doc.SpellsItem delimiter stage name body i) (hcheck : s.check i = .ok ()) :
    Mirrors doc delimiter (done ++ [(stage, name, body)]) (s.record i) := by
  have hledger := h.built.consistent.ledger_record i
  obtain ⟨rows, hrows, hspelled⟩ := h.types
  refine ⟨h.built.record hcheck, hpart, ?_, ?_, ?_, ?_⟩ <;> rw [hledger]
  · cases hi with
    | @type c shape hs hshape =>
      rw [typesOf_concat_type hs]
      refine ⟨rows ++ [(name, shape)], ?_, List.rel_append hspelled (.cons ⟨rfl, hshape⟩ .nil)⟩
      rw [Ledger.record, hrows, List.append_assoc]
    | node hs | connection hs | constraint hs =>
      subst hs
      rw [typesOf_concat_instance rfl]
      exact ⟨rows, hrows, hspelled⟩
  · cases hi with
    | @type c _ hs =>
      rw [sectionsOf_concat_of_ne (Stage.ne_of_category? hs rfl)]
      exact h.nodes
    | node hs hn =>
      subst hs
      rw [sectionsOf_concat_self]
      exact List.rel_append h.nodes (.cons ⟨rfl, _, hn⟩ .nil)
    | connection hs | constraint hs =>
      rw [sectionsOf_concat_of_ne (by simp [hs])]
      exact h.nodes
  · cases hi with
    | @type c _ hs =>
      rw [sectionsOf_concat_of_ne (Stage.ne_of_category? hs rfl)]
      exact h.connections
    | connection hs hk =>
      subst hs
      rw [sectionsOf_concat_self]
      exact List.rel_append h.connections (.cons ⟨rfl, _, hk⟩ .nil)
    | node hs | constraint hs =>
      rw [sectionsOf_concat_of_ne (by simp [hs])]
      exact h.connections
  · cases hi with
    | @type c _ hs =>
      rw [sectionsOf_concat_of_ne (Stage.ne_of_category? hs rfl)]
      exact h.constraints
    | constraint hs hk =>
      subst hs
      rw [sectionsOf_concat_self]
      exact List.rel_append h.constraints (.cons ⟨rfl, _, hk⟩ .nil)
    | node hs | connection hs =>
      rw [sectionsOf_concat_of_ne (by simp [hs])]
      exact h.constraints

theorem new (doc : Sections) (delimiter : Char) (name : String) :
    Mirrors doc delimiter [] (Schematic.new name) where
  built := Schematic.built_new name
  part := List.nil_prefix
  types := ⟨[], by rw [Schematic.ledger_new]; rfl, .nil⟩
  nodes := by rw [Schematic.ledger_new]; exact .nil
  connections := by rw [Schematic.ledger_new]; exact .nil
  constraints := by rw [Schematic.ledger_new]; exact .nil

end Mirrors

end Schematics

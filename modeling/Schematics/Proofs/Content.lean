import Schematics.Proofs.Acceptance

namespace Schematics

structure Listed {κ : Kind} {α : Type} (entries : Entries) (spelled : Fields → α → Prop) (size : Nat)
    (find : String → Except Fault α) (handle : String → Except Fault (Handle κ))
    (get : Handle κ → Except Fault α) : Prop where
  size : size = entries.length
  handles : ∀ name id, handle name = .ok id ↔ Ledger.handle? entries name = some id
  only : ∀ id a, get id = .ok a → ∃ i, id = ⟨i⟩ ∧ i < entries.length
  entry : ∀ i name body, entries[i]? = some (name, body) → ∃ a, handle name = .ok ⟨i⟩ ∧
    get ⟨i⟩ = .ok a ∧ find name = .ok a ∧ spelled body a

structure Holds (delimiter : Char) (doc : Sections) (s : Schematic) : Prop where
  typeCount : s.typeCount = 4 + doc.typeEntries.length
  typeName : ∀ id name,
    s.typeName id = .ok name ↔ ∃ i, id = ⟨i + 1⟩ ∧ doc.typeNames[i]? = some name
  typeId : ∀ name id, s.typeId name = .ok id ↔ doc.typeId? name = some id
  baseTypes : ∀ i name shape, BaseType.all[i]? = some (name, shape) →
    s.lookup .userDefined name = .ok (⟨i + 1⟩, ⟨some ⟨i + 1⟩, shape⟩)
  types : ∀ i c name body, doc.typeEntries[i]? = some (c, name, body) → ∃ shape,
    s.lookup c name = .ok (⟨i + 5⟩, ⟨some ⟨i + 5⟩, shape⟩) ∧ SpellsShape doc.SpellsType body c shape
  nodes : Listed (doc .nodes) (fun body n => ∃ t, doc.SpellsNode t body n)
    s.nodeCount s.node s.nodeId s.nodeById
  connections : Listed (doc .connections) (fun body k => ∃ t, doc.SpellsConnection delimiter t body k)
    s.connectionCount s.connection s.connectionId s.connectionById
  constraints : Listed (doc .constraints) (fun body k => ∃ t, doc.SpellsConstraint t body k)
    s.constraintCount s.constraint s.constraintId s.constraintById

theorem exists_getElem?_of_forall₂ {α β : Type} {R : α → β → Prop} {l : List α} {l' : List β}
    (h : List.Forall₂ R l l') {i : Nat} {a : α} (ha : l[i]? = some a) :
    ∃ b, l'[i]? = some b ∧ R a b := by
  induction h generalizing i with
  | nil => exact nomatch ha
  | cons hab _ ih =>
    cases i with
    | zero =>
      obtain rfl := Option.some.inj ha
      exact ⟨_, rfl, hab⟩
    | succ i => exact ih ha

theorem listed_of_table {s : Schematic} (hn : s.names.Consistent) {κ : Kind} (hκ : κ.first = 0)
    {α : Type} {t : InstanceTable κ α} (ht : t.Consistent s.names) (space : Namespace)
    {entries : Entries} {spelled : Fields → α → Prop}
    (hrows : List.Forall₂ (fun e r => r.1 = e.1 ∧ spelled e.2 r.2) entries (t.listed s.names)) :
    Listed entries spelled t.size
      (fun name => do Named.value <$> Schematic.instanceEntry t space (← s.instanceId t space name))
      (s.instanceId t space) (fun id => Named.value <$> Schematic.instanceEntry t space id) := by
  have hslot (i : Nat) : (⟨i⟩ : Handle κ) = .ofSlot i := by rw [Handle.ofSlot, hκ, Nat.add_zero]
  have hlength : entries.length = (t.listed s.names).length := hrows.length_eq
  have hnames : (t.listed s.names).map Prod.fst = entries.map Prod.fst :=
    map_eq_of_forall₂ (fun _ _ hr => hr.1) hrows
  have hnodup := ht.nodup hn
  have hget (id : Handle κ) (a : α) : Named.value <$> Schematic.instanceEntry t space id = .ok a ↔
      (Ledger.row? (t.listed s.names) id).map Prod.snd = some a := by
    rw [Schematic.value_eq_found s.names, Ledger.found_eq_ok_iff]
  refine ⟨?_, fun name id => ?_, fun id a ha => ?_, fun i name body he => ?_⟩
  · rw [hlength, InstanceTable.length_listed]
  · rw [Schematic.instanceId_eq_found hn ht, Ledger.found_eq_ok_iff, Ledger.handle?_congr hnames]
  · obtain ⟨e, he, -⟩ := Option.map_eq_some_iff.1 ((hget id a).1 ha)
    obtain ⟨i, rfl, hi⟩ := Ledger.row?_eq_some_iff.1 he
    exact ⟨i, (hslot i).symm, hlength ▸ (List.getElem?_eq_some_iff.1 hi).1⟩
  · obtain ⟨⟨other, a⟩, hr, hname, ha⟩ := exists_getElem?_of_forall₂ hrows he
    obtain rfl : other = name := hname
    have hrow : Ledger.row? (t.listed s.names) (.ofSlot i : Handle κ) = some (other, a) :=
      (Ledger.row?_ofSlot _ i).trans hr
    refine ⟨a, ?_, ?_, ?_, ha⟩
    · rw [hslot, Schematic.instanceId_eq_found hn ht, Ledger.found_eq_ok_iff]
      exact (Ledger.handle?_eq_some_iff hnodup).2 ⟨a, hrow⟩
    · rw [hslot, hget, hrow]
      rfl
    · rw [Schematic.byName_eq_found hn ht, Ledger.found_eq_ok_iff]
      exact (lookup_eq_some_iff_mem hnodup).2 (List.mem_of_getElem? hr)

namespace Mirrors

variable {doc : Sections} {delimiter : Char} {s : Schematic}

theorem names_all (h : Mirrors doc delimiter doc.inOrder s) :
    s.ledger.types.map Prod.fst = doc.typeNames := by
  rw [h.names_types, Sections.typesOf_inOrder, Sections.typeNames]

theorem typeName_iff (h : Mirrors doc delimiter doc.inOrder s) (id : TypeId) (name : String) :
    s.typeName id = .ok name ↔ ∃ i, id = ⟨i + 1⟩ ∧ doc.typeNames[i]? = some name := by
  have hask : s.typeName id = _ := h.built.consistent.ask_eq (.typeName id)
  rw [hask, Ledger.ask, Ledger.found_eq_ok_iff, ← h.names_all]
  simp only [Option.map_eq_some_iff, Ledger.row?_eq_some_iff, List.getElem?_map]
  constructor
  · rintro ⟨e, ⟨i, rfl, he⟩, rfl⟩
    exact ⟨i, rfl, e, he, rfl⟩
  · rintro ⟨i, rfl, e, he, rfl⟩
    exact ⟨e, ⟨i, rfl, he⟩, rfl⟩

theorem typeId_iff (h : Mirrors doc delimiter doc.inOrder s) (name : String) (id : TypeId) :
    s.typeId name = .ok id ↔ doc.typeId? name = some id := by
  have hask : s.typeId name = _ := h.built.consistent.ask_eq (.typeId name)
  rw [hask, Ledger.ask, Ledger.found_eq_ok_iff, Ledger.handle?_eq_findIdx?, h.names_all,
    Sections.typeId?]

theorem lookup_of_getElem? (h : Mirrors doc delimiter doc.inOrder s) {i : Nat} {name : String}
    {shape : Shape} (hi : s.ledger.types[i]? = some (name, shape)) :
    s.lookup shape.category name = .ok (⟨i + 1⟩, ⟨some ⟨i + 1⟩, shape⟩) := by
  have hrow : Ledger.row? s.ledger.types (.ofSlot i : TypeId) = some (name, shape) :=
    (Ledger.row?_ofSlot _ i).trans hi
  exact h.built.consistent.lookup_eq_ok_iff.2 ⟨hrow, rfl, rfl⟩

theorem holds (h : Mirrors doc delimiter doc.inOrder s) : Holds delimiter doc s := by
  have hc := h.built.consistent
  obtain ⟨rows, hrows, hspelled⟩ := h.types
  rw [Sections.typesOf_inOrder] at hspelled
  have hnodes := h.nodes
  have hconnections := h.connections
  have hconstraints := h.constraints
  rw [Sections.sectionsOf_inOrder] at hnodes hconnections hconstraints
  refine ⟨?_, h.typeName_iff, h.typeId_iff, fun i name shape hi => ?_, fun i c name body hi => ?_,
    listed_of_table hc.names rfl hc.nodes .node hnodes,
    listed_of_table hc.names rfl hc.connections .connection hconnections,
    listed_of_table hc.names rfl hc.constraints .constraint hconstraints⟩
  · have hcount : s.typeCount = s.ledger.types.length := Except.ok.inj (hc.ask_eq .typeCount)
    rw [hcount, hrows, List.length_append, hspelled.length_eq]
    rfl
  · have hrow : s.ledger.types[i]? = some (name, shape) := by
      rw [hrows, List.getElem?_append_left (List.getElem?_eq_some_iff.1 hi).1]
      exact hi
    have hcategory := BaseType.category_of_mem (List.mem_of_getElem? hi)
    exact hcategory ▸ h.lookup_of_getElem? hrow
  · obtain ⟨⟨other, shape⟩, hr, hname, hshape⟩ := exists_getElem?_of_forall₂ hspelled hi
    obtain rfl : other = name := hname
    obtain rfl : shape.category = c := hshape.category
    have hrow : s.ledger.types[i + 4]? = some (other, shape) := by
      rw [hrows, List.getElem?_append_right (Nat.le_add_left 4 i)]
      exact hr
    exact ⟨shape, h.lookup_of_getElem? hrow, hshape⟩

end Mirrors

theorem name_of_enter {delimiter : Char} {s s' : Schematic} {e : Entry}
    (h : enter delimiter s e = .ok s') : s'.name = s.name := by
  obtain ⟨i, -, -, rfl⟩ := Document.readBody_eq_ok_iff.1 h
  cases i <;> rfl

theorem name_of_run {delimiter : Char} {s s' : Schematic} {entries : List Entry}
    (h : entries.foldlM (enter delimiter) s = .ok s') : s'.name = s.name := by
  induction entries generalizing s with
  | nil =>
    obtain rfl := Except.ok.inj h
    rfl
  | cons e rest ih =>
    rw [List.foldlM_cons] at h
    obtain ⟨next, hnext, hrest⟩ := bind_eq_ok_iff.1 h
    exact (ih hrest).trans (name_of_enter hnext)

namespace Document

theorem read_holds (o : ReadOptions) {doc : Json} (hdoc : doc.Distinct) {s : Schematic}
    (h : (read o doc).result = .ok s) : ∃ root, doc = .object root ∧
      root.lookup nameKey = some (.string s.name) ∧ Holds o.delimiter (sections root) s := by
  obtain ⟨name, root, rfl, hname, -, hrun⟩ := (read_eq_ok_iff hdoc).1 h
  have hmirrors := (run_entries name (distinct_bodies hdoc)).2 s hrun
  have hsame : s.name = name := name_of_run hrun
  exact ⟨root, rfl, hsame ▸ hname, hmirrors.holds⟩

theorem read_holds_boilers : boilers.Distinct ∧ ∃ s, (read {} boilers).result = .ok s ∧
    ∃ root, boilers = .object root ∧ root.lookup nameKey = some (.string s.name) ∧
      Holds ':' (sections root) s := by
  obtain ⟨s, hs⟩ := exists_read_boilers
  exact ⟨boilers_distinct, s, hs, read_holds {} boilers_distinct hs⟩

example : ((read {} boilers).result.toOption.bind fun s => (s.typeId "Boiler").toOption) = some ⟨9⟩ := by
  decide +kernel

end Document

end Schematics

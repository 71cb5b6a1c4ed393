import Schematics.Listing
import Schematics.Proofs.Integrity
import Schematics.Proofs.LedgerRefinement
import Schematics.Proofs.Spelling

namespace Schematics

theorem mapM_eq_ok_iff {ε α β : Type} {f : α → Except ε β} {l : List α} {bs : List β} :
    l.mapM f = .ok bs ↔ List.Forall₂ (fun a b => f a = .ok b) l bs := by
  induction l generalizing bs with
  | nil =>
    rw [List.forall₂_nil_left_iff, List.mapM_nil, pure_eq_ok, Except.ok.injEq]
    exact eq_comm
  | cons a rest ih =>
    simp only [List.mapM_cons, bind_eq_ok_iff, pure_eq_ok, Except.ok.injEq, ih,
      List.forall₂_cons_left_iff]
    constructor
    · rintro ⟨b, hb, bs, hbs, rfl⟩
      exact ⟨b, bs, hb, hbs, rfl⟩
    · rintro ⟨b, bs, hb, hbs, rfl⟩
      exact ⟨b, hb, bs, hbs, rfl⟩

theorem exists_mapM_eq_ok {ε α β : Type} {f : α → Except ε β} {l : List α}
    (h : ∀ a ∈ l, ∃ b, f a = .ok b) : ∃ bs, l.mapM f = .ok bs := by
  obtain ⟨bs, hbs⟩ := exists_forall₂_iff.2 h
  exact ⟨bs, mapM_eq_ok_iff.2 hbs⟩

namespace Schematic

variable {s : Schematic}

theorem Consistent.exists_typeName (h : s.Consistent) {c : Category} {id : TypeId}
    (hd : ∃ d, s.typeDefinition id = .ok d ∧ d.category = c) : ∃ name, s.typeName id = .ok name := by
  obtain ⟨d, hd, -⟩ := hd
  obtain ⟨name, hrow, -⟩ := h.type?_eq_some_iff_row.1 (typeDefinition_eq_ok_iff.1 hd)
  refine ⟨name, ?_⟩
  rw [h.typeName_eq_found, hrow]
  rfl

theorem Consistent.exists_endpointText (h : s.Consistent) {r : PortRef}
    (hr : ∃ p, s.resolvePort r = .ok p) : ∃ text, s.endpointText r = .ok text := by
  obtain ⟨p, hp⟩ := hr
  obtain ⟨n, hn, -⟩ := bind_eq_ok_iff.1 hp
  obtain ⟨symbol, he⟩ := value_eq_ok_iff.1 hn
  obtain ⟨name, hname⟩ := h.nodes.named r.node _ he
  have hnode : s.nodeName r.node = .ok name := by
    simp [nodeName, instanceEntry, he, bind, Except.bind, nameOf, hname]
  exact ⟨_, by rw [endpointText, hnode]; rfl⟩

theorem exists_id_of_mem_byName {κ : Kind} {α : Type} {t : InstanceTable κ α} (space : Namespace)
    {e : String × α} (he : e ∈ (s.instancesByName t).entries) :
    ∃ id, Named.value <$> instanceEntry t space id = .ok e.2 := by
  obtain ⟨f, hf, rfl⟩ := List.mem_map.1 (NameMap.mem_ofList he)
  obtain ⟨id, hid⟩ := Arena.mem_values_iff.1 hf
  exact ⟨id, value_eq_ok_iff.2 ⟨f.symbol, hid⟩⟩

theorem exists_typeLines (hc : s.Consistent) (hg : s.Grounded) {id : TypeId} {name : String}
    {d : TypeDef} (ht : (id, name, d) ∈ s.typeList) : ∃ text, s.typeLines id name d = .ok text := by
  rw [hc.typeList_eq, mem_typeList] at ht
  obtain ⟨shape, hrow, rfl⟩ := ht
  have hd : s.type? id = some ⟨some id, shape⟩ := hc.type?_eq_some_iff_row.2 ⟨name, hrow, rfl⟩
  obtain ⟨attributes, ha⟩ := hg.exists_effectiveAttributes hd
  cases hown : shape.ports? with
  | none => exact ⟨_, by rw [typeLines, ha]; simp only [hown]; rfl⟩
  | some own =>
    obtain ⟨ports, hp⟩ := hg.exists_effectivePorts hd (exists_ports_iff.1 ⟨own, hown⟩)
    exact ⟨_, by rw [typeLines, ha]; simp only [hown, hp]; rfl⟩

theorem exists_named {α : Type} {f : α → Except Fault Json} {m : NameMap α}
    (h : ∀ e ∈ m.entries, ∃ j, f e.2 = .ok j) : ∃ j, named f m = .ok j := by
  have hentries : ∀ e ∈ m.entries, ∃ field, (do pure (e.1, ← f e.2) : Except Fault (String × Json)) =
      .ok field := by
    intro e he
    obtain ⟨j, hj⟩ := h e he
    exact ⟨(e.1, j), by rw [hj]; rfl⟩
  obtain ⟨fields, hfields⟩ := exists_mapM_eq_ok hentries
  exact ⟨_, map_eq_ok_iff.2 ⟨fields, hfields, rfl⟩⟩

theorem exists_connectionParts (hc : s.Consistent) {k : Connection} (hk : s.ConnectionFits k) :
    ∃ t source target, s.typeName k.type = .ok t ∧ s.endpointText k.source = .ok source ∧
      s.endpointText k.target = .ok target := by
  obtain ⟨t, ht⟩ := hc.exists_typeName hk.type
  obtain ⟨source, hsource⟩ := hc.exists_endpointText hk.source
  obtain ⟨target, htarget⟩ := hc.exists_endpointText hk.target
  exact ⟨t, source, target, ht, hsource, htarget⟩

theorem Built.exists_listing (h : s.Built) : ∃ text, s.listing = .ok text := by
  have hc := h.consistent
  have hi := h.intact
  have htypes : ∀ t ∈ s.typeList, ∃ text, s.typeLines t.1 t.2.1 t.2.2 = .ok text :=
    fun t ht => exists_typeLines hc h.grounded ht
  have hnodes : ∀ e ∈ s.nodesByName.entries, ∃ text, s.nodeLines e.1 e.2 = .ok text := by
    intro e he
    obtain ⟨id, hid⟩ := exists_id_of_mem_byName .node he
    obtain ⟨t, ht⟩ := hc.exists_typeName (hi.nodes id e.2 hid).type
    exact ⟨_, by rw [nodeLines, ht]; rfl⟩
  have hconnections : ∀ e ∈ s.connectionsByName.entries,
      ∃ text, s.connectionLine e.1 e.2 = .ok text := by
    intro e he
    obtain ⟨id, hid⟩ := exists_id_of_mem_byName .connection he
    obtain ⟨t, source, target, ht, hs, hr⟩ := exists_connectionParts hc (hi.connections id e.2 hid)
    exact ⟨_, by rw [connectionLine, ht, hs, hr]; rfl⟩
  have hconstraints : ∀ e ∈ s.constraintsByName.entries,
      ∃ text, s.constraintLine e.1 e.2 = .ok text := by
    intro e he
    obtain ⟨id, hid⟩ := exists_id_of_mem_byName .constraint he
    obtain ⟨t, ht⟩ := hc.exists_typeName (hi.constraints id e.2 hid).type
    exact ⟨_, by rw [constraintLine, ht]; rfl⟩
  obtain ⟨types, ht⟩ := exists_mapM_eq_ok htypes
  obtain ⟨nodes, hn⟩ := exists_mapM_eq_ok hnodes
  obtain ⟨connections, hk⟩ := exists_mapM_eq_ok hconnections
  obtain ⟨constraints, hl⟩ := exists_mapM_eq_ok hconstraints
  exact ⟨_, by rw [listing, ht, hn, hk, hl]; rfl⟩

theorem Built.exists_listingJson (h : s.Built) : ∃ j, s.listingJson = .ok j := by
  have hc := h.consistent
  have hi := h.intact
  have hnodes : ∀ e ∈ s.nodesByName.entries, ∃ j, s.nodeJson e.2 = .ok j := by
    intro e he
    obtain ⟨id, hid⟩ := exists_id_of_mem_byName .node he
    obtain ⟨t, ht⟩ := hc.exists_typeName (hi.nodes id e.2 hid).type
    exact ⟨_, by rw [nodeJson, ht]; rfl⟩
  have hconnections : ∀ e ∈ s.connectionsByName.entries, ∃ j, s.connectionJson e.2 = .ok j := by
    intro e he
    obtain ⟨id, hid⟩ := exists_id_of_mem_byName .connection he
    obtain ⟨t, source, target, ht, hs, hr⟩ := exists_connectionParts hc (hi.connections id e.2 hid)
    exact ⟨_, by rw [connectionJson, ht, hs, hr]; rfl⟩
  have hconstraints : ∀ e ∈ s.constraintsByName.entries, ∃ j, s.constraintJson e.2 = .ok j := by
    intro e he
    obtain ⟨id, hid⟩ := exists_id_of_mem_byName .constraint he
    obtain ⟨t, ht⟩ := hc.exists_typeName (hi.constraints id e.2 hid).type
    exact ⟨_, by rw [constraintJson, ht]; rfl⟩
  obtain ⟨nodes, hn⟩ := exists_named hnodes
  obtain ⟨connections, hk⟩ := exists_named hconnections
  obtain ⟨constraints, hl⟩ := exists_named hconstraints
  exact ⟨_, by rw [listingJson, hn, hk, hl]; rfl⟩

/-- Instances agree with the types and nodes that are registered now, and all of them can be listed. -/
theorem Reachable.intact_listed (h : s.Reachable) :
    s.Intact ∧ (∃ text, s.listing = .ok text) ∧ ∃ j, s.listingJson = .ok j :=
  ⟨h.built.intact, h.built.exists_listing, h.built.exists_listingJson⟩

def plant : Schematic :=
  (new "plant").run
    [.userDefinedType "Row" (.array BaseType.int),
      .portType "Flange" { attributes := .ofList [("width", BaseType.int)] },
      .nodeType "Vessel"
        { attributes := .ofList [("marks", ⟨5⟩)], ports := .ofList [("in", ⟨6⟩), ("out", ⟨6⟩)] },
      .connectionType "Pipe" {},
      .constraintType "Limit" { attributes := .ofList [("bar", BaseType.int)] },
      .node "v" ⟨⟨7⟩, .ofList [("marks", .array ⟨5⟩ ⟨2⟩ [.int 4])],
        .ofList [("in", ⟨⟨6⟩, ∅⟩), ("out", ⟨⟨6⟩, .ofList [("width", .int 3)]⟩)]⟩,
      .connection "p" ⟨⟨8⟩, ⟨⟨0⟩, "out"⟩, ⟨⟨0⟩, "in"⟩, ∅⟩,
      .connection "q" ⟨⟨8⟩, ⟨⟨0⟩, "out"⟩, ⟨⟨0⟩, "out"⟩, ∅⟩,
      .constraint "c" ⟨⟨9⟩, .ofList [("bar", .int 5)]⟩,
      .nodeType "Boiler" { supertype := some ⟨7⟩ }]

theorem intact_listed_plant : plant.Reachable ∧ plant.typeCount = 10 ∧ plant.nodeCount = 1 ∧
    plant.connectionCount = 1 ∧ plant.constraintCount = 1 ∧ plant.Intact ∧
    (∃ text, plant.listing = .ok text) ∧ ∃ j, plant.listingJson = .ok j := by
  have h : plant.Reachable := ⟨_, _, rfl⟩
  refine ⟨h, ?_, ?_, ?_, ?_, Reachable.intact_listed h⟩ <;> decide +kernel

end Schematic

end Schematics

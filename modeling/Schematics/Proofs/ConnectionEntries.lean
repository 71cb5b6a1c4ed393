import Schematics.Proofs.InstanceEntries

namespace Schematics

variable {doc : Sections} {delimiter : Char} {done : List Entry} {s : Schematic} {body : Fields}

theorem Endpoint.parse_eq_ok_iff {text : String} {e : Endpoint} :
    Endpoint.parse text delimiter = .ok e ↔ e.Splits delimiter text := by
  have hcons {t : String} (h : t ≠ "") : ∃ c cs, t.toList = c :: cs := by
    cases ht : t.toList with
    | nil => exact absurd (String.toList_eq_nil_iff.1 ht) h
    | cons c cs => exact ⟨c, cs, rfl⟩
  unfold Endpoint.parse
  constructor
  · intro h
    split at h
    · next n node p port hsplit =>
      obtain ⟨htext, hfirst⟩ := splitFirst?_eq_some_iff.1 hsplit
      obtain rfl := Except.ok.inj h
      refine ⟨by simpa using htext, by simpa using hfirst, ?_, ?_⟩ <;>
        exact fun hempty => by simpa using congrArg String.toList hempty
    · exact nomatch h
  · rintro ⟨htext, hfirst, hnode, hport⟩
    obtain ⟨n, node, hn⟩ := hcons hnode
    obtain ⟨p, port, hp⟩ := hcons hport
    have hsplit := splitFirst?_eq_some_iff.2 ⟨htext, hfirst⟩
    rw [hn, hp] at hsplit
    rw [hsplit]
    change Except.ok (Endpoint.mk (.ofList (n :: node)) (.ofList (p :: port))) = .ok e
    rw [← hn, ← hp, String.ofList_toList, String.ofList_toList]

namespace Schematic

theorem resolveEndpoint_eq_ok_iff {text : String} {r : PortRef} :
    s.resolveEndpoint text delimiter = .ok r ↔ ∃ (e : Endpoint) (n : Node) (p : Port),
      e.Splits delimiter text ∧ s.nodeId e.node = .ok r.node ∧ s.nodeById r.node = .ok n ∧
        n.ports.get? r.port = some p ∧ r.port = e.port := by
  obtain ⟨node, port⟩ := r
  simp only [resolveEndpoint, bind_eq_ok_iff, Endpoint.parse_eq_ok_iff, portOf_eq_ok_iff,
    pure_eq_ok, Except.ok.injEq, PortRef.mk.injEq]
  constructor
  · rintro ⟨e, he, id, hid, n, hn, p, hp, rfl, rfl⟩
    exact ⟨e, n, p, he, hid, hn, hp, rfl⟩
  · rintro ⟨e, n, p, he, hid, hn, hp, rfl⟩
    exact ⟨e, he, node, hid, n, hn, p, hp, rfl, rfl⟩

theorem resolvePort_of_resolveEndpoint {text : String} {r : PortRef}
    (h : s.resolveEndpoint text delimiter = .ok r) : ∃ p, s.resolvePort r = .ok p := by
  obtain ⟨e, n, p, -, -, hn, hp, -⟩ := resolveEndpoint_eq_ok_iff.1 h
  exact ⟨p, bind_eq_ok_iff.2 ⟨n, hn, portOf_eq_ok_iff.2 hp⟩⟩

end Schematic

namespace Sections

theorem ref_eq_iff {e e' : Endpoint} {r r' : PortRef}
    (h : doc.nodeId? e.node = some r.node ∧ r.port = e.port)
    (h' : doc.nodeId? e'.node = some r'.node ∧ r'.port = e'.port) : r = r' ↔ e = e' := by
  obtain ⟨node, port⟩ := e
  obtain ⟨node', port'⟩ := e'
  obtain ⟨id, _⟩ := r
  obtain ⟨id', _⟩ := r'
  obtain ⟨hid, rfl⟩ := h
  obtain ⟨hid', rfl⟩ := h'
  simp only [PortRef.mk.injEq, Endpoint.mk.injEq]
  refine and_congr_left fun _ => ⟨?_, ?_⟩
  · rintro rfl
    exact Ledger.handle?_injective hid hid'
  · rintro rfl
    exact Option.some.inj (hid.symm.trans hid')

theorem HasPort.exists_ref {e : Endpoint} (h : doc.HasPort e) :
    ∃ r : PortRef, doc.nodeId? e.node = some r.node ∧ r.port = e.port := by
  obtain ⟨body, _, _, hnode, -⟩ := h
  have hname : e.node ∈ (doc .nodes).map Prod.fst := List.mem_map.2 ⟨_, hnode, rfl⟩
  obtain ⟨id, hid⟩ := Option.ne_none_iff_exists'.1 fun hnone =>
    (Ledger.handle?_eq_none_iff (κ := .node)).1 hnone hname
  exact ⟨⟨id, e.port⟩, hid, rfl⟩

end Sections

namespace Mirrors

open Document

theorem names_nodes (h : Mirrors doc delimiter done s) :
    s.ledger.nodes.map Prod.fst = (sectionsOf done .nodes).map Prod.fst :=
  map_eq_of_forall₂ (fun _ _ hr => hr.1) h.nodes

theorem nodup_nodes (h : Mirrors doc delimiter done s) :
    ((sectionsOf done .nodes).map Prod.fst).Nodup :=
  h.names_nodes ▸ h.built.consistent.nodes.nodup h.built.consistent.names

theorem nodeId_eq_ok_iff (h : Mirrors doc delimiter done s)
    (hn : sectionsOf done .nodes = doc .nodes) {name : String} {id : NodeId} :
    s.nodeId name = .ok id ↔ doc.nodeId? name = some id := by
  have hask : s.nodeId name = _ := h.built.consistent.ask_eq (.nodeId name)
  rw [hask, Ledger.ask, Ledger.found_eq_ok_iff, Sections.nodeId?, ← hn,
    Ledger.handle?_congr h.names_nodes]

theorem node_of_row (h : Mirrors doc delimiter done s) {name : String} {id : NodeId} {n : Node}
    (hrow : Ledger.row? s.ledger.nodes id = some (name, n)) :
    ∃ t body, (name, body) ∈ sectionsOf done .nodes ∧ doc.SpellsNode t body n := by
  have hmem := Ledger.exists_row?_iff.1 ⟨id, hrow⟩
  obtain ⟨⟨other, body⟩, he, hname, t, hn⟩ := exists_of_forall₂_right h.nodes hmem
  obtain rfl : name = other := hname
  exact ⟨t, body, he, hn⟩

theorem resolveEndpoint_eq_ok_iff (h : Mirrors doc delimiter done s)
    (hn : sectionsOf done .nodes = doc .nodes) {text : String} {r : PortRef} :
    s.resolveEndpoint text delimiter = .ok r ↔ ∃ e : Endpoint,
      e.Splits delimiter text ∧ doc.HasPort e ∧ doc.nodeId? e.node = some r.node ∧ r.port = e.port := by
  have hc := h.built.consistent
  have hnodup : (s.ledger.nodes.map Prod.fst).Nodup := hc.nodes.nodup hc.names
  rw [Schematic.resolveEndpoint_eq_ok_iff]
  simp only [h.nodeId_eq_ok_iff hn, Schematic.nodeById_eq_ok_iff hc]
  have hnode {e : Endpoint} (hid : doc.nodeId? e.node = some r.node) :
      ∃ n, Ledger.row? s.ledger.nodes r.node = some (e.node, n) := by
    rw [Sections.nodeId?, ← hn, ← Ledger.handle?_congr h.names_nodes] at hid
    exact (Ledger.handle?_eq_some_iff hnodup).1 hid
  constructor
  · rintro ⟨e, n, p, he, hid, ⟨name, hrow⟩, hp, hport⟩
    obtain ⟨n', hrow'⟩ := hnode hid
    rw [hrow, Option.some.injEq, Prod.mk.injEq] at hrow'
    obtain ⟨rfl, rfl⟩ := hrow'
    obtain ⟨t, body, hbody, hspells⟩ := h.node_of_row hrow
    obtain ⟨u, hu, -⟩ := hspells.ports.spelled r.port p hp
    exact ⟨e, he, ⟨body, t, u, hn ▸ hbody, hspells.type, hport ▸ hu⟩, hid, hport⟩
  · rintro ⟨e, he, ⟨body, t, u, hbody, htype, hu⟩, hid, hport⟩
    obtain ⟨n, hrow⟩ := hnode hid
    obtain ⟨t', body', hbody', hspells⟩ := h.node_of_row hrow
    have heq : (e.node, body') = (e.node, body) :=
      List.inj_on_of_nodup_map h.nodup_nodes hbody' (hn ▸ hbody) rfl
    obtain rfl := (Prod.mk.inj heq).2
    have htype' := hspells.type
    rw [htype, Option.some.injEq, Json.string.injEq] at htype'
    obtain ⟨p, hp⟩ := hspells.ports.complete r.port u (hport ▸ htype' ▸ hu)
    exact ⟨e, n, p, he, hid, ⟨_, hrow⟩, hp, hport⟩

theorem readsEnd_iff (h : Mirrors doc delimiter done s)
    (hn : sectionsOf done .nodes = doc .nodes) {key : String} {r : PortRef} :
    (∃ text, body.lookup key = some (.string text) ∧ s.resolveEndpoint text delimiter = .ok r) ↔
      doc.SpellsEnd delimiter key body r := by
  simp only [h.resolveEndpoint_eq_ok_iff hn]
  constructor
  · rintro ⟨text, htext, e, hsplits, hport, hid, hr⟩
    exact ⟨e, ⟨⟨text, htext, hsplits⟩, hport⟩, hid, hr⟩
  · rintro ⟨e, ⟨⟨text, htext, hsplits⟩, hport⟩, hid, hr⟩
    exact ⟨text, htext, e, hsplits, hport, hid, hr⟩

theorem readItem_connection_eq_ok_iff (h : Mirrors doc delimiter done s)
    (hn : sectionsOf done .nodes = doc .nodes) (hb : (Json.object body).Distinct) {name : String}
    {i : Item} : readItem delimiter s .connections name body = .ok i ↔ ∃ k : Connection,
      (∃ t, ReadsInstance s .connection t body k.type k.attributes) ∧
        doc.SpellsEnd delimiter "from" body k.source ∧ doc.SpellsEnd delimiter "to" body k.target ∧
          .connection name k = i := by
  simp only [readItem, map_eq_ok_iff, readConnection_eq_ok_iff h.built.grounded hb,
    h.readsEnd_iff hn, and_assoc]

theorem exists_resolvePort (h : Mirrors doc delimiter done s)
    (hn : sectionsOf done .nodes = doc .nodes) {key : String} {r : PortRef}
    (hr : doc.SpellsEnd delimiter key body r) : ∃ p, s.resolvePort r = .ok p := by
  obtain ⟨text, -, hresolve⟩ := (h.readsEnd_iff hn).2 hr
  exact Schematic.resolvePort_of_resolveEndpoint hresolve

theorem checkConnection_iff (h : Mirrors doc delimiter done s) (hc : Settled doc done .connection)
    (hn : sectionsOf done .nodes = doc .nodes) {name t : String} {k : Connection}
    (hi : ReadsInstance s .connection t body k.type k.attributes)
    (hs : doc.SpellsEnd delimiter "from" body k.source)
    (ht : doc.SpellsEnd delimiter "to" body k.target) :
    s.checkConnection name k = .ok () ↔
      Fresh done (.connections, name, body) ∧ k.source ≠ k.target := by
  obtain ⟨-, hspells⟩ := (h.readsInstance_iff hc).1 hi
  have hdefect : k.defect? = none ↔ k.source ≠ k.target := by
    rw [Connection.defect?_eq_none_iff, and_iff_left hspells.attributes.defect?_eq_none]
  obtain ⟨hcategory, hattributes⟩ := h.checkInstance hc hi
  have hfresh : s.find? s.connections.byName name = none ↔ Fresh done (.connections, name, body) :=
    h.find?_eq_none_iff h.built.consistent.connections h.connections
  rw [Schematic.checkConnection_eq_ok_iff, hdefect, hfresh]
  constructor
  · rintro ⟨hnew, -, -, -, -, hapart⟩
    exact ⟨hnew, hapart⟩
  · rintro ⟨hnew, hapart⟩
    exact ⟨hnew, hcategory, hattributes, h.exists_resolvePort hn hs, h.exists_resolvePort hn ht,
      hapart⟩

theorem accepts_connection_iff (h : Mirrors doc delimiter done s)
    (hc : Settled doc done .connection) (hn : sectionsOf done .nodes = doc .nodes)
    (hb : (Json.object body).Distinct) {name : String} :
    (∃ i, readItem delimiter s .connections name body = .ok i ∧ s.check i = .ok ()) ↔
      Fresh done (.connections, name, body) ∧ ∃ t, doc.ProperConnection delimiter t body := by
  simp only [h.readItem_connection_eq_ok_iff hn hb]
  constructor
  · rintro ⟨_, ⟨k, ⟨t, hi⟩, hs, ht, rfl⟩, hcheck⟩
    obtain ⟨hnew, hapart⟩ := (h.checkConnection_iff hc hn hi hs ht).1 hcheck
    have hproper := (h.exists_readsInstance_iff hc hb).1 ⟨_, _, hi⟩
    obtain ⟨source, hsource, hr⟩ := hs
    obtain ⟨target, htarget, hr'⟩ := ht
    refine ⟨hnew, t, hproper, source, target, hsource, htarget, fun heq => hapart ?_⟩
    exact (Sections.ref_eq_iff hr hr').2 heq
  · rintro ⟨hnew, t, hproper, source, target, hsource, htarget, hapart⟩
    obtain ⟨id, values, hi⟩ := (h.exists_readsInstance_iff hc hb).2 hproper
    obtain ⟨r, hr⟩ := hsource.port.exists_ref
    obtain ⟨r', hr'⟩ := htarget.port.exists_ref
    have hs : doc.SpellsEnd delimiter "from" body r := ⟨source, hsource, hr⟩
    have ht : doc.SpellsEnd delimiter "to" body r' := ⟨target, htarget, hr'⟩
    refine ⟨_, ⟨⟨id, r, r', values⟩, ⟨t, hi⟩, hs, ht, rfl⟩, ?_⟩
    refine (h.checkConnection_iff hc hn hi hs ht).2 ⟨hnew, fun heq => hapart ?_⟩
    exact (Sections.ref_eq_iff hr hr').1 heq

theorem spellsItem_of_connection (h : Mirrors doc delimiter done s)
    (hc : Settled doc done .connection) (hn : sectionsOf done .nodes = doc .nodes)
    (hb : (Json.object body).Distinct) {name : String} {i : Item}
    (hi : readItem delimiter s .connections name body = .ok i) (hcheck : s.check i = .ok ()) :
    doc.SpellsItem delimiter .connections name body i := by
  obtain ⟨k, ⟨t, hread⟩, hs, ht, rfl⟩ := (h.readItem_connection_eq_ok_iff hn hb).1 hi
  obtain ⟨-, hapart⟩ := (h.checkConnection_iff hc hn hread hs ht).1 hcheck
  obtain ⟨-, hspells⟩ := (h.readsInstance_iff hc).1 hread
  exact .connection rfl ⟨hspells, hs, ht, hapart⟩

end Mirrors

end Schematics

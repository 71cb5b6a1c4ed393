import Schematics.Proofs.InstanceEntries

namespace Schematics

variable {doc : Sections} {delimiter : Char} {done : List Entry} {s : Schematic} {body : Fields}

theorem Carries.unique {c : Category} {offers : String → String → Prop} {m : NameMap TypeId}
    (h : Carries doc c offers m) {member t t' : String} (ht : offers member t)
    (ht' : offers member t') : t = t' := by
  obtain ⟨id, hid, -, hnumber⟩ := h.complete member t ht
  obtain ⟨id', hid', -, hnumber'⟩ := h.complete member t' ht'
  rw [hid, Option.some.injEq] at hid'
  subst hid'
  exact Sections.typeId?_injective hnumber hnumber'

theorem lookup_given {key port : String} {j : Json} (hb : (Json.object body).Distinct)
    (hj : (port, j) ∈ given key body) : (given key body).lookup port = some j :=
  (lookup_eq_some_iff_mem (hb.given key).names).2 hj

theorem given_given {key port : String} {j : Json} (hb : (Json.object body).Distinct)
    (hj : (port, j) ∈ given key body) : given port (given key body) = j.fieldsOf := by
  rw [given, lookup_given hb hj]
  rfl

theorem properValues_given (hb : (Json.object body).Distinct) {type : String}
    {declared : NameMap TypeId}
    (hcarries : Carries doc .port (Offers "portTypes" (doc .nodeTypes) type) declared)
    (hproper : ∀ port j, (port, j) ∈ given "portAttrs" body →
      ∃ t, Offers "portTypes" (doc .nodeTypes) type port t ∧ doc.ProperValues .port t j.fieldsOf)
    {port t : String} (ht : Offers "portTypes" (doc .nodeTypes) type port t) :
    doc.ProperValues .port t (given port (given "portAttrs" body)) := by
  cases hlookup : (given "portAttrs" body).lookup port with
  | none =>
    rw [given, hlookup]
    intro member raw hm
    exact absurd hm List.not_mem_nil
  | some j =>
    have hj := mem_of_lookup_eq_some hlookup
    obtain ⟨t', ht', hvalues⟩ := hproper port j hj
    rw [given_given hb hj, hcarries.unique ht ht']
    exact hvalues

namespace Mirrors

open Document

theorem ports_carry_of_numbers (h : Mirrors doc delimiter done s) (hc : Settled doc done .node)
    {name : String} {id : TypeId} (hid : doc.Numbers .node name id) : ∃ declared,
      s.effectivePorts id = .ok declared ∧
        Carries doc .port (Offers "portTypes" (doc .nodeTypes) name) declared := by
  have hlookup := (h.lookupId_of_numbers hc.types).2 hid
  obtain ⟨d, hd⟩ := Document.lookupId_eq_ok_iff.1 hlookup
  obtain ⟨declared, hdeclared⟩ := h.built.grounded.exists_effectivePorts
    (Schematic.type?_of_lookup hd) (h.lookup_spec hd).2.1
  have hcarries := h.ports_carry hlookup hdeclared
  have htypes : sectionsOf done .nodeTypes = doc .nodeTypes := hc.types
  rw [htypes] at hcarries
  exact ⟨declared, hdeclared, hcarries⟩

theorem readPort_iff (h : Mirrors doc delimiter done s) (hp : Settled doc done .port)
    (hb : (Json.object body).Distinct) {name port t : String} {id : TypeId}
    (hid : doc.Numbers .port t id) {p : Port} :
    readPort s name ((body.lookup "portAttrs").map Json.fieldsOf) (port, id) = .ok p ↔
      ObjectOrAbsent port (given "portAttrs" body) ∧ p.type = id ∧
        doc.SpellsValues .port t (given port (given "portAttrs" body)) p.attributes := by
  have hlookup := (h.lookupId_of_numbers hp.types).2 hid
  obtain ⟨declared, ha⟩ := h.built.grounded.effectiveAttributes_of_lookup hlookup
  have hattrs := hb.given "portAttrs"
  rw [given_eq] at hattrs
  rw [readPort_eq_ok_iff ha hattrs, ← given_eq, h.readsValues_iff hp hid ha]

theorem readsPorts_iff (h : Mirrors doc delimiter done s) (hc : Settled doc done .node)
    (hp : Settled doc done .port) (hb : (Json.object body).Distinct) {name type : String}
    {id : TypeId} (hid : doc.Numbers .node type id) {ports : NameMap Port} :
    ReadsPorts s name body id ports ↔ ObjectOrAbsent "portAttrs" body ∧
      (∀ port j, (port, j) ∈ given "portAttrs" body → j.isObject = true ∧
        ∃ t, Offers "portTypes" (doc .nodeTypes) type port t) ∧
      doc.SpellsPorts type (given "portAttrs" body) ports := by
  obtain ⟨declared, hdeclared, hcarries⟩ := h.ports_carry_of_numbers hc hid
  constructor
  · rintro ⟨ho, declared', hdeclared', hknown, hports⟩
    rw [hdeclared, Except.ok.injEq] at hdeclared'
    subst hdeclared'
    refine ⟨ho, fun port j hj => ?_, hports.1, fun port t ht => ?_, fun port p hport => ?_⟩
    · obtain ⟨tid, htid⟩ := hknown (port, j) hj
      obtain ⟨t, ht, hnumbers⟩ := hcarries.offered port tid htid
      obtain ⟨p, -, hread⟩ := hports.of_lookup htid
      obtain ⟨hobject, -⟩ := (h.readPort_iff hp hb hnumbers).1 hread
      exact ⟨hobject j (lookup_given hb hj), t, ht⟩
    · obtain ⟨tid, htid, -⟩ := hcarries.complete port t ht
      obtain ⟨p, hport, -⟩ := hports.of_lookup htid
      exact ⟨p, hport⟩
    · obtain ⟨tid, htid, hread⟩ := rel_some_right.1 (hport ▸ hports.2 port)
      obtain ⟨t, ht, hnumbers⟩ := hcarries.offered port tid htid
      obtain ⟨-, rfl, hvalues⟩ := (h.readPort_iff hp hb hnumbers).1 hread
      exact ⟨t, ht, hnumbers, hvalues⟩
  · rintro ⟨ho, hgiven, hspells⟩
    refine ⟨ho, declared, hdeclared, fun ⟨port, j⟩ hj => ?_, hspells.sorted, fun port => ?_⟩
    · obtain ⟨-, t, ht⟩ := hgiven port j hj
      obtain ⟨tid, htid, -⟩ := hcarries.complete port t ht
      exact ⟨tid, htid⟩
    · cases hport : ports.get? port with
      | none =>
        refine rel_none_right.2 (Option.eq_none_iff_forall_ne_some.2 fun tid htid => ?_)
        obtain ⟨t, ht, -⟩ := hcarries.offered port tid htid
        obtain ⟨p, hp⟩ := hspells.complete port t ht
        exact nomatch hport.symm.trans hp
      | some p =>
        obtain ⟨t, ht, hnumbers, hvalues⟩ := hspells.spelled port p hport
        obtain ⟨tid, htid, hnumbers'⟩ := hcarries.complete port t ht
        have hnumber := hnumbers'.2
        rw [hnumbers.2, Option.some.injEq] at hnumber
        subst hnumber
        refine rel_some_right.2 ⟨_, htid, (h.readPort_iff hp hb hnumbers).2 ⟨?_, rfl, hvalues⟩⟩
        exact fun j hj => (hgiven port j (mem_of_lookup_eq_some hj)).1

theorem exists_spellsPorts_iff (h : Mirrors doc delimiter done s) (hc : Settled doc done .node)
    (hp : Settled doc done .port) (hb : (Json.object body).Distinct) {type : String} {id : TypeId}
    (hid : doc.Numbers .node type id)
    (hgiven : ∀ port j, (port, j) ∈ given "portAttrs" body →
      ∃ t, Offers "portTypes" (doc .nodeTypes) type port t) :
    (∃ ports, doc.SpellsPorts type (given "portAttrs" body) ports) ↔
      ∀ port j, (port, j) ∈ given "portAttrs" body →
        ∃ t, Offers "portTypes" (doc .nodeTypes) type port t ∧ doc.ProperValues .port t j.fieldsOf := by
  obtain ⟨declared, hdeclared, hcarries⟩ := h.ports_carry_of_numbers hc hid
  have hvalues (port t : String) :=
    h.exists_spellsValues_iff hp.userDefined .port t ((hb.given "portAttrs").given port).names
  constructor
  · rintro ⟨ports, hspells⟩ port j hj
    obtain ⟨t, ht⟩ := hgiven port j hj
    obtain ⟨p, hport⟩ := hspells.complete port t ht
    obtain ⟨t', ht', -, hv⟩ := hspells.spelled port p hport
    have hproper := (hvalues port t').1 ⟨_, hv⟩
    rw [given_given hb hj] at hproper
    exact ⟨t', ht', hproper⟩
  · intro hproper
    have hsorted := Schematic.sorted_effectivePorts hdeclared
    have hspelled : ∀ port tid, (port, tid) ∈ declared.entries →
        ∃ p, doc.SpellsPort type (given "portAttrs" body) port p := by
      intro port tid htid
      obtain ⟨t, ht, hnumbers⟩ := hcarries.offered port tid (hsorted.get?_eq_some_iff.2 htid)
      have hvalue := properValues_given hb hcarries hproper ht
      obtain ⟨attributes, hattributes⟩ := (hvalues port t).2 hvalue
      exact ⟨⟨tid, attributes⟩, t, ht, hnumbers, hattributes⟩
    obtain ⟨ports, hports⟩ := (Spells.exists_iff hsorted.nodup).2 hspelled
    refine ⟨ports, hports.1, ?_, ?_⟩
    · intro port t ht
      obtain ⟨tid, htid, -⟩ := hcarries.complete port t ht
      obtain ⟨p, hport, -⟩ := hports.of_lookup htid
      exact ⟨p, hport⟩
    · intro port p hport
      obtain ⟨_, -, hspells⟩ := rel_some_right.1 (hport ▸ hports.2 port)
      exact hspells

theorem checkNode_iff (h : Mirrors doc delimiter done s) (hc : Settled doc done .node)
    (hp : Settled doc done .port) {name type : String} {n : Node}
    (hi : ReadsInstance s .node type body n.type n.attributes)
    (hports : doc.SpellsPorts type (given "portAttrs" body) n.ports) :
    s.checkNode name n = .ok () ↔ Fresh done (.nodes, name, body) := by
  obtain ⟨hcategory, hattributes⟩ := h.checkInstance hc hi
  have hid := ((h.readsInstance_iff hc).1 hi).2.id
  obtain ⟨declared, hdeclared, hcarries⟩ := h.ports_carry_of_numbers hc hid
  have hcheck : s.checkPorts name declared n.ports = .ok () := by
    apply Schematic.checkPorts_eq_ok_iff.2
    rintro ⟨port, p⟩ he
    obtain ⟨t, ht, hnumbers, hvalues⟩ :=
      hports.spelled port p (hports.sorted.get?_eq_some_iff.2 he)
    obtain ⟨tid, htid, -, hnumber⟩ := hcarries.complete port t ht
    rw [hnumbers.2, Option.some.injEq] at hnumber
    subst hnumber
    exact ⟨htid, h.checkAttributes_of_spells hp hnumbers hvalues⟩
  have hfresh : s.find? s.nodes.byName name = none ↔ Fresh done (.nodes, name, body) :=
    h.find?_eq_none_iff h.built.consistent.nodes h.nodes
  rw [Schematic.checkNode_eq_ok_iff, hfresh]
  constructor
  · rintro ⟨hnew, -⟩
    exact hnew
  · intro hnew
    exact ⟨hnew, hcategory, hattributes, declared, hdeclared, hcheck⟩

theorem readItem_node_eq_ok_iff (h : Mirrors doc delimiter done s) (hc : Settled doc done .node)
    (hp : Settled doc done .port) (hb : (Json.object body).Distinct) {name : String} {i : Item} :
    readItem delimiter s .nodes name body = .ok i ↔ ∃ (n : Node) (type : String),
      ReadsInstance s .node type body n.type n.attributes ∧ ObjectOrAbsent "portAttrs" body ∧
        (∀ port j, (port, j) ∈ given "portAttrs" body → j.isObject = true ∧
          ∃ t, Offers "portTypes" (doc .nodeTypes) type port t) ∧
        doc.SpellsPorts type (given "portAttrs" body) n.ports ∧ .node name n = i := by
  simp only [readItem, map_eq_ok_iff, readNode_eq_ok_iff h.built.grounded hb]
  apply exists_congr
  intro n
  constructor
  · rintro ⟨⟨⟨type, hi⟩, hports⟩, rfl⟩
    have hid := ((h.readsInstance_iff hc).1 hi).2.id
    obtain ⟨ho, hgiven, hspells⟩ := (h.readsPorts_iff hc hp hb hid).1 hports
    exact ⟨type, hi, ho, hgiven, hspells, rfl⟩
  · rintro ⟨type, hi, ho, hgiven, hspells, rfl⟩
    have hid := ((h.readsInstance_iff hc).1 hi).2.id
    exact ⟨⟨⟨type, hi⟩, (h.readsPorts_iff hc hp hb hid).2 ⟨ho, hgiven, hspells⟩⟩, rfl⟩

theorem accepts_node_iff (h : Mirrors doc delimiter done s) (hc : Settled doc done .node)
    (hp : Settled doc done .port) (hb : (Json.object body).Distinct) {name : String} :
    (∃ i, readItem delimiter s .nodes name body = .ok i ∧ s.check i = .ok ()) ↔
      Fresh done (.nodes, name, body) ∧ ∃ t, doc.ProperNode t body := by
  simp only [h.readItem_node_eq_ok_iff hc hp hb]
  constructor
  · rintro ⟨_, ⟨n, type, hi, ho, hgiven, hspells, rfl⟩, hcheck⟩
    have hid := ((h.readsInstance_iff hc).1 hi).2.id
    have hproper := (h.exists_spellsPorts_iff hc hp hb hid fun port j hj => (hgiven port j hj).2).1
      ⟨_, hspells⟩
    refine ⟨(h.checkNode_iff hc hp hi hspells).1 hcheck, type,
      (h.exists_readsInstance_iff hc hb).1 ⟨_, _, hi⟩, ho, fun port j hj => ?_⟩
    exact ⟨(hgiven port j hj).1, hproper port j hj⟩
  · rintro ⟨hnew, type, hproper, ho, hports⟩
    obtain ⟨id, values, hi⟩ := (h.exists_readsInstance_iff hc hb).2 hproper
    have hid := ((h.readsInstance_iff hc).1 hi).2.id
    have hgiven (port : String) (j : Json) (hj : (port, j) ∈ given "portAttrs" body) :
        ∃ t, Offers "portTypes" (doc .nodeTypes) type port t := by
      obtain ⟨-, t, ht, -⟩ := hports port j hj
      exact ⟨t, ht⟩
    obtain ⟨ports, hspells⟩ := (h.exists_spellsPorts_iff hc hp hb hid hgiven).2
      fun port j hj => (hports port j hj).2
    refine ⟨_, ⟨⟨id, values, ports⟩, type, hi, ho, fun port j hj => ?_, hspells, rfl⟩, ?_⟩
    · exact ⟨(hports port j hj).1, hgiven port j hj⟩
    · exact (h.checkNode_iff hc hp hi hspells).2 hnew

theorem spellsItem_of_node (h : Mirrors doc delimiter done s) (hc : Settled doc done .node)
    (hp : Settled doc done .port) (hb : (Json.object body).Distinct) {name : String} {i : Item}
    (hi : readItem delimiter s .nodes name body = .ok i) :
    doc.SpellsItem delimiter .nodes name body i := by
  obtain ⟨n, type, hread, -, -, hports, rfl⟩ := (h.readItem_node_eq_ok_iff hc hp hb).1 hi
  obtain ⟨-, hspells⟩ := (h.readsInstance_iff hc).1 hread
  exact .node rfl ⟨hspells, hports⟩

end Mirrors

end Schematics

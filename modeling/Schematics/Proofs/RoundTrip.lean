import Schematics.Proofs.Relisting

namespace Schematics

variable {doc : Sections} {delimiter : Char} {s : Schematic} {c : Category} {name : String}
  {body body' root : Fields} {listing : Json}

def Schematic.reals (s : Schematic) : List Float :=
  (s.nodesByName.entries.flatMap fun e => attributeReals e.2.attributes ++ portReals e.2.ports) ++
    (s.connectionsByName.entries.flatMap fun e => attributeReals e.2.attributes) ++
      s.constraintsByName.entries.flatMap fun e => attributeReals e.2.attributes

theorem Schematic.mem_reals_iff {x : Float} : x ∈ s.reals ↔
    (∃ e ∈ s.nodesByName.entries, x ∈ attributeReals e.2.attributes ++ portReals e.2.ports) ∨
      (∃ e ∈ s.connectionsByName.entries, x ∈ attributeReals e.2.attributes) ∨
        ∃ e ∈ s.constraintsByName.entries, x ∈ attributeReals e.2.attributes := by
  rw [reals, List.mem_append, List.mem_append, List.mem_flatMap, List.mem_flatMap, List.mem_flatMap,
    or_assoc]

theorem Endpoint.Splits.listed {e : Endpoint} {text : String} (h : e.Splits ':' text) :
    e.Splits ':' s!"{e.node}:{e.port}" := by
  refine ⟨?_, h.first, h.node, h.port⟩
  simp [toString, String.toList_append]

theorem Mirrors.typeName_of_numbers (h : Mirrors doc delimiter doc.inOrder s) {t : String}
    {id : TypeId} (hid : doc.Numbers c t id) : s.typeName id = .ok t := by
  obtain ⟨i, hi, rfl⟩ := Option.map_eq_some_iff.1 hid.2
  obtain ⟨hlt, hname, -⟩ := List.findIdx?_eq_some_iff_getElem.1 hi
  rw [decide_eq_true_eq] at hname
  exact (h.typeName_iff _ t).2 ⟨i, rfl, List.getElem?_eq_some_iff.2 ⟨hlt, hname⟩⟩

def nodeBody (t : String) (n : Node) : Fields :=
  [("type", .string t), ("attributes", attributesJson n.attributes),
    ("portAttrs", .object (listedPorts n.ports).entries)]

def linkBody (t source target : String) (k : Connection) : Fields :=
  [("type", .string t), ("from", .string source), ("to", .string target),
    ("attributes", attributesJson k.attributes)]

def constraintBody (t : String) (k : Constraint) : Fields :=
  [("type", .string t), ("attributes", attributesJson k.attributes)]

theorem objectOrAbsent_attributes {values : Attributes}
    (h : body.lookup "attributes" = some (attributesJson values)) :
    ObjectOrAbsent "attributes" body := by
  intro j hj
  rw [h, Option.some.injEq] at hj
  exact hj ▸ rfl

namespace Sections

theorem SpellsInstance.listed {t : String} {id : TypeId} {values : Attributes}
    (h : doc.SpellsInstance c t body id values) (hr : ∀ x ∈ attributeReals values, ReadsBack x)
    (htype : body'.lookup "type" = some (.string t))
    (hattributes : body'.lookup "attributes" = some (attributesJson values)) :
    doc.SpellsInstance c t body' id values := by
  refine ⟨htype, h.id, ?_⟩
  rw [given, hattributes]
  exact h.attributes.listed hr

theorem SpellsNode.listed {t : String} {n : Node} (h : doc.SpellsNode t body n)
    (hr : ∀ x ∈ attributeReals n.attributes ++ portReals n.ports, ReadsBack x) :
    doc.SpellsNode t (nodeBody t n) n where
  toSpellsInstance :=
    h.toSpellsInstance.listed (fun x hx => hr x (List.mem_append_left _ hx)) rfl rfl
  ports := h.ports.listed fun x hx => hr x (List.mem_append_right _ hx)

theorem SpellsNode.distinct_listed {t : String} {n : Node} (h : doc.SpellsNode t body n) :
    (Json.object (nodeBody t n)).Distinct := by
  have hvalues (port : String) (p : Port) (hp : n.ports.get? port = some p) :
      p.attributes.Sorted := by
    obtain ⟨_, -, -, hspells⟩ := h.ports.spelled port p hp
    exact hspells.1
  refine Json.distinct_object_iff.2 ⟨by simp [nodeBody], ?_⟩
  simp only [nodeBody, List.forall_mem_cons]
  exact ⟨trivial, attributesJson_distinct h.attributes.1,
    listedPorts_distinct h.ports.sorted hvalues, by simp⟩

theorem SpellsNode.formedPorts_listed {t : String} {n : Node} (h : doc.SpellsNode t body n) :
    doc.FormedPorts (nodeBody t n) := by
  refine ⟨fun j hj => ?_, fun port j hj => ?_⟩
  · obtain rfl := Option.some.inj hj
    rfl
  · have hlisted : (port, j) ∈ (listedPorts n.ports).entries := hj
    obtain ⟨⟨_, p⟩, he, heq⟩ := List.mem_map.1 hlisted
    obtain ⟨rfl, rfl⟩ := Prod.mk.inj heq
    obtain ⟨u, hu, -⟩ := h.ports.spelled _ p (h.ports.sorted.get?_eq_some_iff.2 he)
    exact ⟨rfl, t, u, rfl, hu⟩

theorem SpellsLink.listed {t : String} {k : Connection} (h : doc.SpellsLink ':' s t body k)
    (hr : ∀ x ∈ attributeReals k.attributes, ReadsBack x) {source target : String}
    (hs : s.endpointText k.source = .ok source) (ht : s.endpointText k.target = .ok target) :
    doc.SpellsLink ':' s t (linkBody t source target k) k := by
  obtain ⟨e, e', he, he', hne, hends, hends'⟩ := h.ends
  obtain ⟨⟨_, -, hsplits⟩, hport⟩ := he
  obtain ⟨⟨_, -, hsplits'⟩, hport'⟩ := he'
  obtain rfl := Except.ok.inj (hends.endpointText.symm.trans hs)
  obtain rfl := Except.ok.inj (hends'.endpointText.symm.trans ht)
  refine ⟨h.toSpellsInstance.listed hr rfl rfl, e, e', ⟨⟨_, rfl, hsplits.listed⟩, hport⟩,
    ⟨⟨_, rfl, hsplits'.listed⟩, hport'⟩, hne, hends, hends'⟩

theorem distinct_linkBody {t source target : String} {k : Connection} (h : k.attributes.Sorted) :
    (Json.object (linkBody t source target k)).Distinct := by
  refine Json.distinct_object_iff.2 ⟨by simp [linkBody], ?_⟩
  simp only [linkBody, List.forall_mem_cons]
  exact ⟨trivial, trivial, trivial, attributesJson_distinct h, by simp⟩

theorem distinct_constraintBody {t : String} {k : Constraint} (h : k.attributes.Sorted) :
    (Json.object (constraintBody t k)).Distinct := by
  refine Json.distinct_object_iff.2 ⟨by simp [constraintBody], ?_⟩
  simp only [constraintBody, List.forall_mem_cons]
  exact ⟨trivial, attributesJson_distinct h, by simp⟩

end Sections

namespace Mirrors

open Document

section Told

variable (h : Mirrors (sections root) ':' (sections root).inOrder s)
  (hl : s.listingJson = .ok listing) (hr : ∀ x ∈ s.reals, ReadsBack x)

include h hl hr

theorem told_nodes : Told (sections (relisted root listing) .nodes) s.ledger.nodes fun body n =>
    ∃ t, (sections root).SpellsNode t body n ∧ body = nodeBody t n := by
  have hc := h.built.consistent
  have hnodup := hc.nodes.nodup hc.names
  rw [sections_eq, given_relisted_nodes, List.map_map]
  refine (Schematic.shows_of_listingJson hl).1.told hnodup (fun j => (asEntry j).fieldsOf)
    fun name n j hn hj => ?_
  obtain ⟨body, -, t, hspells⟩ := h.retells.nodes.exists_entry hn
  obtain ⟨t', ht', rfl⟩ := Schematic.nodeJson_eq_ok_iff.1 hj
  obtain rfl := Except.ok.inj ((h.typeName_of_numbers hspells.id).symm.trans ht')
  refine ⟨t, hspells.listed fun x hx => hr x ?_, rfl⟩
  have hlisted : (name, n) ∈ s.nodesByName.entries := (NameMap.perm_ofList hnodup).mem_iff.2 hn
  exact Schematic.mem_reals_iff.2 (.inl ⟨_, hlisted, hx⟩)

theorem told_connections :
    Told (sections (relisted root listing) .connections) s.ledger.connections fun body k =>
      ∃ t source target, (sections root).SpellsLink ':' s t body k ∧
        body = linkBody t source target k := by
  have hc := h.built.consistent
  have hnodup := hc.connections.nodup hc.names
  rw [sections_eq, given_relisted_connections]
  refine (Schematic.shows_of_listingJson hl).2.1.told hnodup Json.fieldsOf fun name k j hk hj => ?_
  obtain ⟨body, -, t, hspells⟩ := h.retells.connections.exists_entry hk
  obtain ⟨t', ht', source, hs, target, ht, rfl⟩ := Schematic.connectionJson_eq_ok_iff.1 hj
  obtain rfl := Except.ok.inj ((h.typeName_of_numbers hspells.id).symm.trans ht')
  refine ⟨t, source, target, hspells.listed (fun x hx => hr x ?_) hs ht, rfl⟩
  have hlisted : (name, k) ∈ s.connectionsByName.entries :=
    (NameMap.perm_ofList hnodup).mem_iff.2 hk
  exact Schematic.mem_reals_iff.2 (.inr (.inl ⟨_, hlisted, hx⟩))

theorem told_constraints :
    Told (sections (relisted root listing) .constraints) s.ledger.constraints fun body k =>
      ∃ t, (sections root).SpellsConstraint t body k ∧ body = constraintBody t k := by
  have hc := h.built.consistent
  have hnodup := hc.constraints.nodup hc.names
  rw [sections_eq, given_relisted_constraints]
  refine (Schematic.shows_of_listingJson hl).2.2.told hnodup Json.fieldsOf fun name k j hk hj => ?_
  obtain ⟨body, -, t, hspells⟩ := h.retells.constraints.exists_entry hk
  obtain ⟨t', ht', rfl⟩ := Schematic.constraintJson_eq_ok_iff.1 hj
  obtain rfl := Except.ok.inj ((h.typeName_of_numbers hspells.id).symm.trans ht')
  refine ⟨t, Sections.SpellsInstance.listed hspells (fun x hx => hr x ?_) rfl rfl, rfl⟩
  have hlisted : (name, k) ∈ s.constraintsByName.entries :=
    (NameMap.perm_ofList hnodup).mem_iff.2 hk
  exact Schematic.mem_reals_iff.2 (.inr (.inr ⟨_, hlisted, hx⟩))

end Told

end Mirrors

namespace Document

theorem sharesTypes_relisted (hd : (Json.object root).Distinct) (listing : Json) :
    (sections root).SharesTypes (sections (relisted root listing)) := by
  refine ⟨fun c => ?_⟩
  rw [sections_eq (relisted root listing), given_relisted_type, ← sections_eq]
  exact .refl fun e he => distinct_bodies hd (c.stage, e) (Sections.mem_inOrder.2 he)

theorem objectOrAbsent_relisted (hlayout : ∀ stage : Stage, ObjectOrAbsent stage.key root)
    (stage : Stage) : ObjectOrAbsent stage.key (relisted root listing) := by
  intro j hj
  cases hs : stage.category? with
  | some c =>
    obtain rfl := Stage.category?_eq_some_iff.1 hs
    rw [lookup_relisted_of_mem (key_mem_keptKeys c)] at hj
    exact hlayout c.stage j hj
  | none =>
    rw [lookup_relisted_instances hs, Option.some.injEq] at hj
    exact hj ▸ rfl

theorem isObject_relisted (hl : s.listingJson = .ok listing)
    (hbodies : ∀ (stage : Stage) name j, (name, j) ∈ given stage.key root → j.isObject = true)
    {stage : Stage} {j : Json} (hj : (name, j) ∈ given stage.key (relisted root listing)) :
    j.isObject = true := by
  obtain ⟨-, hconnections, hconstraints⟩ := Schematic.shows_of_listingJson hl
  obtain ⟨c, rfl⟩ | rfl | rfl | rfl := stage.types_or_instances
  · rw [given_relisted_type] at hj
    exact hbodies c.stage name j hj
  · rw [given_relisted_nodes] at hj
    obtain ⟨e, -, heq⟩ := List.mem_map.1 hj
    exact (Prod.mk.inj heq).2 ▸ rfl
  · rw [given_relisted_connections] at hj
    obtain ⟨e, -, -, hwrite⟩ := exists_of_forall₂_right hconnections hj
    obtain ⟨_, -, _, -, _, -, rfl⟩ := Schematic.connectionJson_eq_ok_iff.1 hwrite
    rfl
  · rw [given_relisted_constraints] at hj
    obtain ⟨e, -, -, hwrite⟩ := exists_of_forall₂_right hconstraints hj
    obtain ⟨_, -, rfl⟩ := Schematic.constraintJson_eq_ok_iff.1 hwrite
    rfl

section Relisted

variable (hd : (Json.object root).Distinct)
  (h : Mirrors (sections root) ':' (sections root).inOrder s)
  (hl : s.listingJson = .ok listing) (hr : ∀ x ∈ s.reals, ReadsBack x)

include h hl hr

theorem keepsNodes_relisted : (sections root).KeepsNodes (sections (relisted root listing)) := by
  intro name body t hbody ht
  obtain ⟨n, hn, t', hspells⟩ := h.retells.nodes.exists_row hbody
  obtain ⟨body', hbody', t'', hspells', -⟩ := (h.told_nodes hl hr).exists_entry hn
  have htype : body.lookup "type" = some (.string t'') :=
    Sections.typeId?_injective hspells'.id.2 hspells.id.2 ▸ hspells.type
  rw [ht] at htype
  exact ⟨body', hbody', htype ▸ hspells'.type⟩

include hd

theorem retells_relisted : Retells (sections (relisted root listing)) ':' s := by
  have hshares := sharesTypes_relisted hd listing
  obtain ⟨rows, hrows, hspelled⟩ := h.retells.types
  refine ⟨⟨rows, hrows, hshares.spellsTypes hspelled⟩, (h.told_nodes hl hr).imp ?_,
    (h.told_connections hl hr).imp ?_, (h.told_constraints hl hr).imp ?_⟩
  · rintro _ n ⟨t, hn, rfl⟩
    exact ⟨t, hshares.spellsNode (.refl hn.distinct_listed) hn⟩
  · rintro _ k ⟨t, source, target, hk, rfl⟩
    have hdistinct : (Json.object (linkBody t source target k)).Distinct :=
      Sections.distinct_linkBody hk.attributes.1
    exact ⟨t, hshares.spellsLink (keepsNodes_relisted h hl hr) (.refl hdistinct) hk⟩
  · rintro _ k ⟨t, hk, rfl⟩
    have hdistinct : (Json.object (constraintBody t k)).Distinct :=
      Sections.distinct_constraintBody hk.attributes.1
    exact ⟨t, hshares.spellsInstance (.refl hdistinct) hk⟩

theorem formed_relisted : (sections (relisted root listing)).Formed := by
  have hshares := sharesTypes_relisted hd listing
  constructor
  · rintro stage hstage ⟨name, body⟩ he
    cases stage with
    | userDefinedTypes | portTypes | nodeTypes | connectionTypes | constraintTypes =>
      exact nomatch hstage
    | nodes =>
      obtain ⟨n, -, t, -, rfl⟩ := (h.told_nodes hl hr).exists_row he
      exact objectOrAbsent_attributes rfl
    | connections =>
      obtain ⟨k, -, t, _, _, -, rfl⟩ := (h.told_connections hl hr).exists_row he
      exact objectOrAbsent_attributes rfl
    | constraints =>
      obtain ⟨k, -, t, -, rfl⟩ := (h.told_constraints hl hr).exists_row he
      exact objectOrAbsent_attributes rfl
  · rintro ⟨name, body⟩ he
    obtain ⟨n, -, t, hn, rfl⟩ := (h.told_nodes hl hr).exists_row he
    exact hshares.formedPorts (.refl hn.distinct_listed) hn.formedPorts_listed

theorem distinct_relisted
    (hbodies : ∀ (stage : Stage) name j, (name, j) ∈ given stage.key root → j.isObject = true) :
    (Json.object (relisted root listing)).Distinct := by
  have hc := h.built.consistent
  have hobjects {stage : Stage} {name : String} {j : Json}
      (hj : (name, j) ∈ given stage.key (relisted root listing)) : j.isObject = true :=
    isObject_relisted hl hbodies hj
  have hnodes := (h.told_nodes hl hr).distinct_given (hc.nodes.nodup hc.names) (fun _ _ => hobjects)
    (by rintro _ n ⟨t, hn, rfl⟩; exact hn.distinct_listed)
  have hconnections := (h.told_connections hl hr).distinct_given
    (hc.connections.nodup hc.names) (fun _ _ => hobjects)
    (by rintro _ k ⟨t, source, target, hk, rfl⟩; exact Sections.distinct_linkBody hk.attributes.1)
  have hconstraints := (h.told_constraints hl hr).distinct_given
    (hc.constraints.nodup hc.names) (fun _ _ => hobjects)
    (by rintro _ k ⟨t, hk, rfl⟩; exact Sections.distinct_constraintBody hk.attributes.1)
  rw [given_relisted_nodes] at hnodes
  rw [given_relisted_connections] at hconnections
  rw [given_relisted_constraints] at hconstraints
  have hkept : (root.filter fun f => f.1 ∈ keptKeys).Sublist root := List.filter_sublist
  refine Json.distinct_object_iff.2 ⟨?_, fun f hf => ?_⟩
  · rw [relisted, List.map_append]
    have hkeys : ((listedSections listing).map Prod.fst).Nodup := by
      rw [keys_listedSections]
      decide
    refine List.nodup_append.2 ⟨hd.names.sublist (hkept.map Prod.fst), hkeys, ?_⟩
    intro key hkey other hother heq
    obtain ⟨f, hf, rfl⟩ := List.mem_map.1 hkey
    obtain ⟨g, hg, rfl⟩ := List.mem_map.1 hother
    exact not_mem_keptKeys hg (heq ▸ of_decide_eq_true (List.mem_filter.1 hf).2)
  · obtain hf | hf := List.mem_append.1 hf
    · exact (Json.distinct_object_iff.1 hd).2 f (hkept.subset hf)
    · simp only [listedSections, List.mem_cons, List.not_mem_nil, or_false] at hf
      obtain rfl | rfl | rfl := hf
      · exact hnodes
      · exact hconnections
      · exact hconstraints

end Relisted

/--
What was read is listed, and its listing under the types of the document is read as the same, but
for the handles of nodes, which follow the order of names then.
-/
theorem read_relisted {o o' : ReadOptions} (ho : o.delimiter = ':') (ho' : o'.delimiter = ':')
    {j : Json} (hd : j.Distinct) (hs : (read o j).result = .ok s)
    (hr : ∀ x ∈ s.reals, ReadsBack x) :
    ∃ listing text s', s.listingJson = .ok listing ∧ s.listing = .ok text ∧
      (read o' (.object (relisted j.fieldsOf listing))).result = .ok s' ∧
      s'.listingJson = .ok listing ∧ s'.listing = .ok text ∧
      (∀ name, s'.node name = s.node name) ∧ ∀ name, s'.constraint name = s.constraint name := by
  obtain ⟨root, rfl, hname, hacceptable, h⟩ := read_mirrors hd hs
  rw [ho] at h hacceptable
  obtain ⟨listing, hl⟩ := h.built.exists_listingJson
  obtain ⟨text, htext⟩ := h.built.exists_listing
  have hnamed : (relisted root listing).lookup nameKey = some (.string s.name) :=
    (lookup_relisted_of_mem List.mem_cons_self).trans hname
  obtain ⟨s', hs', hbuilt, hsame⟩ := exists_read_of_retells (o := o')
    (distinct_relisted hd h hl hr hacceptable.bodies) hnamed
    (objectOrAbsent_relisted hacceptable.layout)
    (fun stage name j hj => isObject_relisted hl hacceptable.bodies hj)
    (fun c earlier name body later hsplit => ho' ▸
      (sharesTypes_relisted hd listing).proper_types (hacceptable.entries c.stage) hsplit)
    (formed_relisted hd h hl hr) h.built (ho' ▸ retells_relisted hd h hl hr)
  refine ⟨listing, text, s', hl, htext, hs', (hsame.listingJson_eq h.built hbuilt).trans hl,
    (hsame.listing_eq h.built hbuilt).trans htext, fun name => ?_, fun name => ?_⟩
  · rw [h.built.consistent.node_eq_found, hbuilt.consistent.node_eq_found, hsame.nodes]
  · rw [h.built.consistent.constraint_eq_found, hbuilt.consistent.constraint_eq_found,
      hsame.constraints]

def gauges : Json :=
  .object [
    ("schematicName", .string "gauges"),
    ("userDefinedTypes", .object [
      ("Row", .object [("elementType", .string "Real")]),
      ("Grid", .object [("elementType", .string "Row")])]),
    ("portTypes", .object [("Port", .object [("attributes", .object [("width", .string "Int")])])]),
    ("nodeTypes", .object [
      ("Vessel", .object [
        ("attributes", .object [("marks", .string "Grid"), ("open", .string "Bool")]),
        ("portTypes", .object [("a:in", .string "Port")])]),
      ("Tank", .object [("portTypes", .object [("out", .string "Port")]),
        ("supertype", .string "Vessel")])]),
    ("connectionTypes", .object [("Pipe", .object [])]),
    ("constraintTypes", .object [
      ("Limit", .object [("attributes", .object [("unit", .string "String")])])]),
    ("nodes", .object [
      ("tank", .object [("type", .string "Tank"),
        ("attributes", .object [("marks", .array [.array [.string "2.50"], .array []])]),
        ("portAttrs", .object [("a:in", .object [("width", .string "-3")])])]),
      ("jar", .object [("type", .string "Vessel"),
        ("attributes", .object [("open", .string "true")])])]),
    ("connections", .object [
      ("p", .object [("type", .string "Pipe"), ("from", .string "tank:out"),
        ("to", .string "jar:a:in")])]),
    ("constraints", .object [
      ("c", .object [("type", .string "Limit"), ("attributes", .object [("unit", .int 7)])])])]

theorem read_relisted_gauges : gauges.Distinct ∧ ∃ s, (read {} gauges).result = .ok s ∧
    (∀ x ∈ s.reals, ReadsBack x) ∧ ∃ listing text s',
      s.listingJson = .ok listing ∧ s.listing = .ok text ∧
      (read {} (.object (relisted gauges.fieldsOf listing))).result = .ok s' ∧
      s'.listingJson = .ok listing ∧ s'.listing = .ok text ∧
      (∀ name, s'.node name = s.node name) ∧ ∀ name, s'.constraint name = s.constraint name := by
  have hd : gauges.Distinct := by
    simp [gauges, Json.Distinct, Json.DistinctFields, Json.DistinctItems]
  obtain ⟨s, hs, hreals⟩ := exists_ok_of_any (x := (read {} gauges).result)
    (p := fun s => decide (∀ x ∈ s.reals, ReadsBack x)) (by decide +kernel)
  have hr : ∀ x ∈ s.reals, ReadsBack x := of_decide_eq_true hreals
  exact ⟨hd, s, hs, hr, read_relisted rfl rfl hd hs hr⟩

end Document

end Schematics

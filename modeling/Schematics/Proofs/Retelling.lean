import Schematics.Proofs.Content
import Schematics.Proofs.Determinacy
import Schematics.Proofs.SameContent
import Schematics.Proofs.SharedTypes

/-!
A document retells a schematic when it has its types in their order, and its other entries spell the
instances of the schematic in whatever order. Such a document can be read, and what is read from it
has the same content.
-/

namespace Schematics

variable {α β : Type} {doc : Sections} {delimiter : Char} {s s' : Schematic} {c : Category}
  {name : String} {body : Fields}

structure Told (entries : Entries) (rows : List (String × α)) (tells : Fields → α → Prop) :
    Prop where
  names : (rows.map Prod.fst).Perm (entries.map Prod.fst)
  told : ∀ name a body, (name, a) ∈ rows → (name, body) ∈ entries → tells body a

theorem told_of_forall₂ {entries : Entries} {rows : List (String × α)} {tells : Fields → α → Prop}
    (hrows : (rows.map Prod.fst).Nodup)
    (h : List.Forall₂ (fun e r => r.1 = e.1 ∧ tells e.2 r.2) entries rows) :
    Told entries rows tells := by
  have hnames : rows.map Prod.fst = entries.map Prod.fst := map_eq_of_forall₂ (fun _ _ hr => hr.1) h
  refine ⟨hnames ▸ .refl _, fun name a body ha hb => ?_⟩
  obtain ⟨⟨other, b⟩, hb', hname, ht⟩ := exists_of_forall₂_left h hb
  obtain rfl : other = name := hname
  have heq := List.inj_on_of_nodup_map hrows ha hb' rfl
  exact (Prod.mk.inj heq).2 ▸ ht

namespace Told

variable {entries : Entries} {rows rows' : List (String × α)} {tells tells' : Fields → α → Prop}

theorem imp (h : Told entries rows tells) (himp : ∀ body a, tells body a → tells' body a) :
    Told entries rows tells' :=
  ⟨h.names, fun name a body ha hb => himp body a (h.told name a body ha hb)⟩

theorem exists_entry (h : Told entries rows tells) {a : α} (ha : (name, a) ∈ rows) :
    ∃ body, (name, body) ∈ entries ∧ tells body a := by
  have hname : name ∈ entries.map Prod.fst := h.names.mem_iff.1 (List.mem_map.2 ⟨_, ha, rfl⟩)
  obtain ⟨⟨_, body⟩, hb, rfl⟩ := List.mem_map.1 hname
  exact ⟨body, hb, h.told _ a body ha hb⟩

theorem exists_row (h : Told entries rows tells) (hb : (name, body) ∈ entries) :
    ∃ a, (name, a) ∈ rows ∧ tells body a := by
  have hname : name ∈ rows.map Prod.fst := h.names.mem_iff.2 (List.mem_map.2 ⟨_, hb, rfl⟩)
  obtain ⟨⟨_, a⟩, ha, rfl⟩ := List.mem_map.1 hname
  exact ⟨a, ha, h.told _ a body ha hb⟩

theorem distinct_given {root : Fields} {stage : Stage}
    (h : Told (Document.sections root stage) rows tells) (hrows : (rows.map Prod.fst).Nodup)
    (hobjects : ∀ name j, (name, j) ∈ given stage.key root → j.isObject = true)
    (ht : ∀ body a, tells body a → (Json.object body).Distinct) :
    (Json.object (given stage.key root)).Distinct := by
  have hnames := h.names.nodup_iff.1 hrows
  rw [Document.sections_eq, List.map_map] at hnames
  refine Json.distinct_object_iff.2 ⟨hnames, fun ⟨name, j⟩ hj => ?_⟩
  have he : (name, j.fieldsOf) ∈ Document.sections root stage := by
    rw [Document.sections_eq]
    exact List.mem_map.2 ⟨_, hj, rfl⟩
  obtain ⟨a, -, ha⟩ := h.exists_row he
  cases j with
  | object fields => exact ht _ a ha
  | null | bool _ | int _ | real _ | string _ | array _ => exact nomatch hobjects name _ hj

theorem map_eq (h : Told entries rows tells) (h' : Told entries rows' tells')
    (hrows : (rows.map Prod.fst).Nodup) {f g : α → β}
    (hfg : ∀ body a b, tells body a → tells' body b → f a = g b) :
    (NameMap.ofList rows').map g = (NameMap.ofList rows).map f := by
  have hrows' : (rows'.map Prod.fst).Nodup := (h'.names.trans h.names.symm).nodup_iff.2 hrows
  apply ((NameMap.sorted_ofList rows').map g).eq_of_get? ((NameMap.sorted_ofList rows).map f)
  intro name
  rw [NameMap.get?_map, NameMap.get?_map, NameMap.get?_ofList hrows, NameMap.get?_ofList hrows']
  cases ha : rows.lookup name with
  | some a =>
    obtain ⟨body, hb, ht⟩ := h.exists_entry (mem_of_lookup_eq_some ha)
    obtain ⟨b, hrow, ht'⟩ := h'.exists_row hb
    rw [(lookup_eq_some_iff_mem hrows').2 hrow, Option.map_some, Option.map_some,
      hfg body a b ht ht']
  | none =>
    rw [Option.map_none, Option.map_eq_none_iff, Option.eq_none_iff_forall_ne_some]
    intro b hb
    obtain ⟨body, hbody, -⟩ := h'.exists_entry (mem_of_lookup_eq_some hb)
    obtain ⟨a, hrow, -⟩ := h.exists_row hbody
    exact nomatch ha.symm.trans ((lookup_eq_some_iff_mem hrows).2 hrow)

theorem eq (h : Told entries rows tells) (h' : Told entries rows' tells')
    (hrows : (rows.map Prod.fst).Nodup)
    (hu : ∀ body a b, tells body a → tells' body b → a = b) :
    NameMap.ofList rows' = NameMap.ofList rows := by
  have heq := h.map_eq h' hrows (f := id) (g := id) hu
  rwa [NameMap.map_id, NameMap.map_id] at heq

end Told

def Schematic.EndsAt (s : Schematic) (r : PortRef) (e : Endpoint) : Prop :=
  s.nodeName r.node = .ok e.node ∧ r.port = e.port

theorem Schematic.EndsAt.endpointText {r : PortRef} {e : Endpoint} (h : s.EndsAt r e) :
    s.endpointText r = .ok s!"{e.node}:{e.port}" := by
  rw [Schematic.endpointText, h.1, h.2]
  rfl

namespace Sections

structure SpellsLink (doc : Sections) (delimiter : Char) (s : Schematic) (name : String)
    (body : Fields) (k : Connection) : Prop
    extends SpellsInstance doc .connection name body k.type k.attributes where
  ends : ∃ source target, doc.ProperEndpoint delimiter "from" body source ∧
    doc.ProperEndpoint delimiter "to" body target ∧ source ≠ target ∧
      s.EndsAt k.source source ∧ s.EndsAt k.target target

def FormedPorts (doc : Sections) (body : Fields) : Prop :=
  ObjectOrAbsent "portAttrs" body ∧ ∀ port j, (port, j) ∈ given "portAttrs" body →
    j.isObject = true ∧ ∃ name t, body.lookup "type" = some (.string name) ∧
      Offers "portTypes" (doc .nodeTypes) name port t

structure Formed (doc : Sections) : Prop where
  attributes : ∀ stage : Stage, stage.category? = none → ∀ e ∈ doc stage,
    ObjectOrAbsent "attributes" e.2
  ports : ∀ e ∈ doc .nodes, doc.FormedPorts e.2

theorem SharesTypes.formedPorts {doc' : Sections} (h : doc.SharesTypes doc') {body' : Fields}
    (ha : Json.Alike (.object body) (.object body')) (hf : doc.FormedPorts body) :
    doc'.FormedPorts body' := by
  refine ⟨ha.objectOrAbsent hf.1, fun port j' hj' => ?_⟩
  obtain ⟨j, hj, halike⟩ := (ha.given "portAttrs").symm.exists_mem hj'
  obtain ⟨hobject, type, t, htype, ht⟩ := hf.2 port j hj
  exact ⟨halike.symm.isObject hobject, type, t, ha.lookup_string htype, (h.entries .node).offers ht⟩

theorem SharesTypes.spellsLink {doc' : Sections} (h : doc.SharesTypes doc')
    (hn : doc.KeepsNodes doc') {body' : Fields} (ha : Json.Alike (.object body) (.object body'))
    {k : Connection} (hk : doc.SpellsLink delimiter s name body k) :
    doc'.SpellsLink delimiter s name body' k := by
  obtain ⟨source, target, hs, ht, hne, hends⟩ := hk.ends
  exact ⟨h.spellsInstance ha hk.toSpellsInstance, source, target, h.properEndpoint hn ha hs,
    h.properEndpoint hn ha ht, hne, hends⟩

theorem SpellsLink.link_eq (hd : doc.typeNames.Nodup) {name' : String} {k k' : Connection}
    (h : doc.SpellsLink delimiter s name body k) (h' : doc.SpellsLink delimiter s' name' body k') :
    s.link k = s'.link k' := by
  obtain ⟨-, htype, hvalues⟩ := h.toSpellsInstance.unique hd h'.toSpellsInstance
  obtain ⟨source, target, hs, ht, -, hsource, htarget⟩ := h.ends
  obtain ⟨source', target', hs', ht', -, hsource', htarget'⟩ := h'.ends
  obtain rfl := hs.unique hs'
  obtain rfl := ht.unique ht'
  rw [Schematic.link, Schematic.link, htype, hvalues, hsource.endpointText, hsource'.endpointText,
    htarget.endpointText, htarget'.endpointText]

theorem SpellsValues.proper {fields : Fields} (hf : (fields.map Prod.fst).Nodup) {m : Attributes}
    (h : doc.SpellsValues c name fields m) : doc.ProperValues c name fields := by
  intro member raw hm
  obtain ⟨v, -, t, ht, hd⟩ := h.of_lookup ((lookup_eq_some_iff_mem hf).2 hm)
  exact ⟨t, ht, hd.conforms⟩

theorem SpellsInstance.proper (hc : c ≠ .userDefined) (hb : (Json.object body).Distinct)
    (ho : ObjectOrAbsent "attributes" body) {id : TypeId} {values : Attributes}
    (h : doc.SpellsInstance c name body id values) : doc.ProperInstance c name body where
  type := h.type
  known := h.id.1.resolve_left fun hbase => hc hbase.1
  attributes := ho
  values := h.attributes.proper (hb.given "attributes").names

theorem SpellsNode.proper (hb : (Json.object body).Distinct) (ho : ObjectOrAbsent "attributes" body)
    (hp : doc.FormedPorts body) {n : Node} (h : doc.SpellsNode name body n) :
    doc.ProperNode name body := by
  refine ⟨h.toSpellsInstance.proper nofun hb ho, hp.1, fun port j hj => ?_⟩
  obtain ⟨hobject, name', t, htype, ht⟩ := hp.2 port j hj
  rw [h.type, Option.some.injEq, Json.string.injEq] at htype
  subst htype
  obtain ⟨p, hport⟩ := h.ports.complete port t ht
  obtain ⟨t', ht', -, hvalues⟩ := h.ports.spelled port p hport
  have hproper := hvalues.proper ((hb.given "portAttrs").given port).names
  rw [given_given hb hj] at hproper
  exact ⟨hobject, t', ht', hproper⟩

theorem SpellsLink.proper (hb : (Json.object body).Distinct) (ho : ObjectOrAbsent "attributes" body)
    {k : Connection} (h : doc.SpellsLink delimiter s name body k) :
    doc.ProperConnection delimiter name body := by
  obtain ⟨source, target, hs, ht, hne, -, -⟩ := h.ends
  exact ⟨h.toSpellsInstance.proper nofun hb ho, source, target, hs, ht, hne⟩

end Sections

structure Retells (doc : Sections) (delimiter : Char) (s : Schematic) : Prop where
  types : ∃ rows, s.ledger.types = BaseType.all ++ rows ∧ List.Forall₂
    (fun e r => r.1 = e.2.1 ∧ SpellsShape doc.SpellsType e.2.2 e.1 r.2) doc.typeEntries rows
  nodes : Told (doc .nodes) s.ledger.nodes fun body n => ∃ t, doc.SpellsNode t body n
  connections : Told (doc .connections) s.ledger.connections fun body k =>
    ∃ t, doc.SpellsLink delimiter s t body k
  constraints : Told (doc .constraints) s.ledger.constraints fun body k =>
    ∃ t, doc.SpellsConstraint t body k

theorem Mirrors.endsAt (h : Mirrors doc delimiter doc.inOrder s) {r : PortRef} {e : Endpoint}
    (hid : doc.nodeId? e.node = some r.node) (hport : r.port = e.port) : s.EndsAt r e := by
  have hc := h.built.consistent
  have hnames := h.names_nodes
  rw [Sections.sectionsOf_inOrder] at hnames
  rw [Sections.nodeId?, ← Ledger.handle?_congr hnames] at hid
  obtain ⟨n, hrow⟩ := (Ledger.handle?_eq_some_iff (hc.nodes.nodup hc.names)).1 hid
  have hask : s.nodeName r.node = _ := hc.ask_eq (.nodeName r.node)
  have hfound : Ledger.row? s.ledger.nodes r.node = some (e.node, n) := hrow
  refine ⟨?_, hport⟩
  rw [hask, Ledger.ask, Ledger.found_eq_ok_iff, hfound]
  rfl

theorem Mirrors.retells (h : Mirrors doc delimiter doc.inOrder s) : Retells doc delimiter s := by
  have hc := h.built.consistent
  have htypes := h.types
  have hnodes := h.nodes
  have hconnections := h.connections
  have hconstraints := h.constraints
  rw [Sections.typesOf_inOrder] at htypes
  rw [Sections.sectionsOf_inOrder] at hnodes hconnections hconstraints
  have hrows : Told (doc .connections) s.ledger.connections fun body k =>
      ∃ t, doc.SpellsConnection delimiter t body k :=
    told_of_forall₂ (hc.connections.nodup hc.names) hconnections
  refine ⟨htypes, told_of_forall₂ (hc.nodes.nodup hc.names) hnodes, hrows.imp ?_,
    told_of_forall₂ (hc.constraints.nodup hc.names) hconstraints⟩
  rintro body k ⟨t, hk⟩
  obtain ⟨source, hs, hid, hport⟩ := hk.source
  obtain ⟨target, ht, hid', hport'⟩ := hk.target
  refine ⟨t, hk.toSpellsInstance, source, target, hs, ht, fun heq => hk.apart ?_,
    h.endsAt hid hport, h.endsAt hid' hport'⟩
  exact (Sections.ref_eq_iff ⟨hid, hport⟩ ⟨hid', hport'⟩).2 heq

namespace Retells

theorem nodup_typeNames (h : Retells doc delimiter s) (hs : s.Consistent) :
    doc.typeNames.Nodup := by
  obtain ⟨rows, hrows, hspelled⟩ := h.types
  have hnodup := hs.nodup_types
  have hnames : rows.map Prod.fst = doc.typeEntries.map fun e => e.2.1 :=
    map_eq_of_forall₂ (fun _ _ hr => hr.1) hspelled
  rwa [hrows, List.map_append, hnames] at hnodup

theorem sameContent (h : Retells doc delimiter s) (h' : Retells doc delimiter s')
    (hs : s.Consistent) (hname : s'.name = s.name) : s.SameContent s' := by
  have hd := h.nodup_typeNames hs
  obtain ⟨rows, hrows, hspelled⟩ := h.types
  obtain ⟨rows', hrows', hspelled'⟩ := h'.types
  have hsame : rows' = rows := by
    refine forall₂_unique (fun e r r' hr hr' => ?_) hspelled' hspelled
    exact Prod.ext (hr.1.trans hr'.1.symm) (hr.2.unique hr'.2)
  refine ⟨hname, by rw [hrows', hrows, hsame], ?_, ?_, ?_⟩
  · refine h.nodes.eq h'.nodes (hs.nodes.nodup hs.names) fun body n n' hn hn' => ?_
    obtain ⟨t, hn⟩ := hn
    obtain ⟨t', hn'⟩ := hn'
    exact hn.unique hd hn'
  · have hnodup := hs.connections.nodup hs.names
    refine h.connections.map_eq h'.connections hnodup fun body k k' hk hk' => ?_
    obtain ⟨t, hk⟩ := hk
    obtain ⟨t', hk'⟩ := hk'
    exact hk.link_eq hd hk'
  · have hnodup := hs.constraints.nodup hs.names
    refine h.constraints.eq h'.constraints hnodup fun body k k' hk hk' => ?_
    obtain ⟨t, hk⟩ := hk
    obtain ⟨t', hk'⟩ := hk'
    exact hk.unique hd hk'

theorem proper (h : Retells doc delimiter s) (hform : doc.Formed) {stage : Stage}
    (hstage : stage.category? = none) (he : (name, body) ∈ doc stage)
    (hb : (Json.object body).Distinct) (earlier : Entries) :
    doc.Proper delimiter earlier body stage := by
  have ho : ObjectOrAbsent "attributes" body := hform.attributes stage hstage _ he
  cases stage with
  | userDefinedTypes | portTypes | nodeTypes | connectionTypes | constraintTypes =>
    exact nomatch hstage
  | nodes =>
    obtain ⟨n, -, t, hn⟩ := h.nodes.exists_row he
    exact ⟨t, hn.proper hb ho (hform.ports _ he)⟩
  | connections =>
    obtain ⟨k, -, t, hk⟩ := h.connections.exists_row he
    exact ⟨t, hk.proper hb ho⟩
  | constraints =>
    obtain ⟨k, -, t, hk⟩ := h.constraints.exists_row he
    exact ⟨t, Sections.SpellsInstance.proper nofun hb ho hk⟩

end Retells

namespace Document

variable {o : ReadOptions} {root : Fields}

theorem read_mirrors {j : Json} (hj : j.Distinct) (h : (read o j).result = .ok s) : ∃ root,
    j = .object root ∧ root.lookup nameKey = some (.string s.name) ∧ Acceptable o.delimiter root ∧
      Mirrors (sections root) o.delimiter (sections root).inOrder s := by
  obtain ⟨root', hroot', hacceptable⟩ := (read_succeeds_iff o hj).1 ⟨s, h⟩
  obtain ⟨name, root, rfl, hname, -, hrun⟩ := (read_eq_ok_iff hj).1 h
  obtain rfl := Json.object.inj hroot'
  have hmirrors := (run_entries name (distinct_bodies hj)).2 s hrun
  have hsame : s.name = name := name_of_run hrun
  exact ⟨root, rfl, hsame ▸ hname, hacceptable, hmirrors⟩

theorem exists_read_of_retells (hdoc : (Json.object root).Distinct)
    (hname : root.lookup nameKey = some (.string s.name))
    (hlayout : ∀ stage : Stage, ObjectOrAbsent stage.key root)
    (hbodies : ∀ (stage : Stage) name j, (name, j) ∈ given stage.key root → j.isObject = true)
    (htypes : ∀ (c : Category) earlier name body later,
      sections root c.stage = earlier ++ (name, body) :: later →
        (sections root).Proper o.delimiter earlier body c.stage)
    (hform : (sections root).Formed) (hs : s.Built) (h : Retells (sections root) o.delimiter s) :
    ∃ s', (read o (.object root)).result = .ok s' ∧ s'.Built ∧ s.SameContent s' := by
  have hacceptable : Acceptable o.delimiter root := by
    refine ⟨⟨_, hname⟩, hlayout, hbodies, h.nodup_typeNames hs.consistent, ?_⟩
    intro stage earlier name body later hsplit
    have he : (name, body) ∈ sections root stage :=
      hsplit ▸ List.mem_append_right _ List.mem_cons_self
    cases hc : stage.category? with
    | some c =>
      obtain rfl := Stage.category?_eq_some_iff.1 hc
      exact htypes c earlier name body later hsplit
    | none =>
      have hb := distinct_bodies hdoc (stage, name, body) (Sections.mem_inOrder.2 he)
      exact h.proper hform hc he hb earlier
  obtain ⟨s', hs'⟩ := (read_succeeds_iff o hdoc).2 ⟨root, rfl, hacceptable⟩
  obtain ⟨root', hroot', hname', -, hmirrors⟩ := read_mirrors hdoc hs'
  obtain rfl := Json.object.inj hroot'
  rw [hname, Option.some.injEq, Json.string.injEq] at hname'
  exact ⟨s', hs', hmirrors.built, h.sameContent hmirrors.retells hs.consistent hname'.symm⟩

end Document

end Schematics

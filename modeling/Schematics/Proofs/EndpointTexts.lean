import Schematics.Proofs.RoundTrip
import Schematics.Settings.Reader

/-!
How listings print the ends of connections. A document splits a node's name from its port's name at
the delimiter it was written with; a listing puts them together with a colon. So two ports can be
printed alike, but only when a colon stands in the name of a node.
-/

namespace Schematics

theorem append_cons_eq_append_cons_iff {α : Type} {a : α} {front back front' back' : List α} :
    front ++ a :: back = front' ++ a :: back' ↔ front = front' ∧ back = back' ∨
      (∃ middle, front' = front ++ a :: middle ∧ back = middle ++ a :: back') ∨
        ∃ middle, front = front' ++ a :: middle ∧ back' = middle ++ a :: back := by
  rw [List.append_eq_append_iff]
  constructor
  · rintro (⟨tail, hfront, hback⟩ | ⟨tail, hfront, hback⟩)
    · cases tail with
      | nil =>
        simp only [List.append_nil, List.nil_append, List.cons.injEq, true_and] at hfront hback
        exact .inl ⟨hfront.symm, hback⟩
      | cons c middle =>
        rw [List.cons_append, List.cons.injEq] at hback
        obtain ⟨rfl, hback⟩ := hback
        exact .inr (.inl ⟨middle, hfront, hback⟩)
    · cases tail with
      | nil =>
        simp only [List.append_nil, List.nil_append, List.cons.injEq, true_and] at hfront hback
        exact .inl ⟨hfront, hback.symm⟩
      | cons c middle =>
        rw [List.cons_append, List.cons.injEq] at hback
        obtain ⟨rfl, hback⟩ := hback
        exact .inr (.inr ⟨middle, hfront, hback⟩)
  · rintro (⟨rfl, rfl⟩ | ⟨middle, rfl, rfl⟩ | ⟨middle, rfl, rfl⟩)
    · exact .inl ⟨[], by simp⟩
    · exact .inl ⟨a :: middle, by simp⟩
    · exact .inr ⟨a :: middle, by simp⟩

namespace Endpoint

variable {e f : Endpoint}

def Shifts (e f : Endpoint) : Prop :=
  ∃ middle : String, f.node = s!"{e.node}:{middle}" ∧ e.port = s!"{middle}:{f.port}"

theorem toList_joined (front back : String) :
    s!"{front}:{back}".toList = front.toList ++ ':' :: back.toList := by
  simp [toString, String.toList_append]

theorem shifts_iff : e.Shifts f ↔ ∃ middle, f.node.toList = e.node.toList ++ ':' :: middle ∧
    e.port.toList = middle ++ ':' :: f.port.toList := by
  constructor
  · rintro ⟨middle, hnode, hport⟩
    exact ⟨middle.toList, by rw [hnode, toList_joined], by rw [hport, toList_joined]⟩
  · rintro ⟨middle, hnode, hport⟩
    refine ⟨.ofList middle, String.toList_inj.1 ?_, String.toList_inj.1 ?_⟩
    · rw [toList_joined, hnode, String.toList_ofList]
    · rw [toList_joined, hport, String.toList_ofList]

theorem joined_eq_iff : s!"{e.node}:{e.port}" = s!"{f.node}:{f.port}" ↔
    e = f ∨ e.Shifts f ∨ f.Shifts e := by
  obtain ⟨node, port⟩ := e
  obtain ⟨node', port'⟩ := f
  rw [shifts_iff, shifts_iff, ← String.toList_inj, toList_joined, toList_joined,
    append_cons_eq_append_cons_iff, Endpoint.mk.injEq, String.toList_inj, String.toList_inj]

theorem Shifts.colon_mem (h : e.Shifts f) : ':' ∈ f.node.toList := by
  obtain ⟨middle, hnode, -⟩ := shifts_iff.1 h
  rw [hnode]
  exact List.mem_append_right _ List.mem_cons_self

end Endpoint

namespace Schematic

variable {s : Schematic} {r r' : PortRef}

structure Prints (s : Schematic) (name : String) (k : Connection) (source target : String) :
    Prop where
  listed : (name, k) ∈ s.connectionsByName.entries
  line : ∃ t text before after : String, s.listing = .ok text ∧
    text = s!"{before}\n  {name}: {t} {source} -> {target} {braced k.attributes}\n{after}"
  fields : ∃ listing body, s.listingJson = .ok listing ∧
    (name, body) ∈ given "connections" listing.fieldsOf ∧
      body.fieldsOf.lookup "from" = some (.string source) ∧
        body.fieldsOf.lookup "to" = some (.string target)

inductive Shown (s : Schematic) : PortRef → String → Prop
  | source {name : String} {k : Connection} {source target : String}
    (h : s.Prints name k source target) : Shown s k.source source
  | target {name : String} {k : Connection} {source target : String}
    (h : s.Prints name k source target) : Shown s k.target target

theorem Prints.endpointText {name : String} {k : Connection} {source target : String}
    (h : s.Prints name k source target) :
    s.endpointText k.source = .ok source ∧ s.endpointText k.target = .ok target := by
  obtain ⟨listing, body, hlisting, hbody, hfrom, hto⟩ := h.fields
  obtain ⟨⟨other, k'⟩, hk', hname, hjson⟩ :=
    exists_of_forall₂_right (shows_of_listingJson hlisting).2.1 hbody
  obtain rfl : name = other := hname
  have hrow := List.inj_on_of_nodup_map (NameMap.sorted_ofList _).nodup hk' h.listed rfl
  obtain rfl := (Prod.mk.inj hrow).2
  obtain ⟨_, -, source', hsource, target', htarget, rfl⟩ := connectionJson_eq_ok_iff.1 hjson
  obtain rfl := Json.string.inj (Option.some.inj hfrom)
  obtain rfl := Json.string.inj (Option.some.inj hto)
  exact ⟨hsource, htarget⟩

theorem exists_join_eq {texts : List String} (h : ∀ text ∈ texts, ∃ l, text = l ++ "\n")
    (hne : texts ≠ []) : ∃ before, String.join texts = before ++ "\n" := by
  obtain ⟨l, hl⟩ := h _ (List.getLast_mem hne)
  refine ⟨String.join texts.dropLast ++ l, ?_⟩
  calc
    String.join texts = String.join (texts.dropLast ++ [texts.getLast hne]) := by
      rw [List.dropLast_append_getLast]
    _ = String.join texts.dropLast ++ (l ++ "\n") := by
      rw [String.join_append, hl, String.join_cons]
      exact congrArg _ String.append_empty
    _ = _ := (String.append_assoc ..).symm

theorem exists_connectionLines {text : String} (h : s.listing = .ok text) : ∃ front lines behind,
    List.Forall₂ (fun e l => s.connectionLine e.1 e.2 = .ok l) s.connectionsByName.entries lines ∧
      text = front ++ String.join ("connections:\n" :: lines) ++ behind := by
  simp only [listing, bind_eq_ok_iff, pure_eq_ok, Except.ok.injEq] at h
  obtain ⟨types, -, nodes, -, connections, hconnections, constraints, -, rfl⟩ := h
  refine ⟨String.join ([line s!"schematic `{s.name}`", line "types:"] ++ types ++ [line "nodes:"] ++
    nodes), connections, String.join ([line "constraints:"] ++ constraints),
    mapM_eq_ok_iff.1 hconnections, ?_⟩
  rw [← String.join_append, ← String.join_append, List.append_assoc _ [line "constraints:"],
    List.append_assoc _ [line "connections:"]]
  rfl

theorem exists_line_of_listing {text : String} (h : s.listing = .ok text) {name : String}
    {k : Connection} (hk : (name, k) ∈ s.connectionsByName.entries) : ∃ before after l,
      s.connectionLine name k = .ok l ∧ text = before ++ "\n" ++ l ++ after := by
  obtain ⟨front, lines, behind, hlines, rfl⟩ := exists_connectionLines h
  obtain ⟨l, hl, hline⟩ := exists_of_forall₂_left hlines hk
  obtain ⟨above, below, rfl⟩ := List.append_of_mem hl
  have hended : ∀ text ∈ "connections:\n" :: above, ∃ l, text = l ++ "\n" := by
    intro text htext
    obtain rfl | htext := List.mem_cons.1 htext
    · exact ⟨"connections:", rfl⟩
    · obtain ⟨e, -, he⟩ := exists_of_forall₂_right hlines (List.mem_append_left _ htext)
      simp only [connectionLine, bind_eq_ok_iff, pure_eq_ok, Except.ok.injEq] at he
      obtain ⟨_, -, _, -, _, -, rfl⟩ := he
      exact ⟨_, rfl⟩
  obtain ⟨before, hbefore⟩ := exists_join_eq hended (List.cons_ne_nil _ _)
  refine ⟨front ++ before, String.join below ++ behind, l, hline, ?_⟩
  rw [← List.cons_append, String.join_append, hbefore, String.join_cons]
  simp only [String.append_assoc]

theorem Built.exists_prints (hb : s.Built) {name : String} {k : Connection}
    (h : (name, k) ∈ s.connectionsByName.entries) :
    ∃ source target, s.Prints name k source target := by
  obtain ⟨id, hid⟩ := exists_id_of_mem_byName .connection h
  obtain ⟨t, source, target, ht, hsource, htarget⟩ :=
    exists_connectionParts hb.consistent (hb.intact.connections id k hid)
  obtain ⟨text, htext⟩ := hb.exists_listing
  obtain ⟨before, after, l, hl, rfl⟩ := exists_line_of_listing htext h
  obtain ⟨listing, hlisting⟩ := hb.exists_listingJson
  obtain ⟨⟨other, body⟩, hbody, hname, hjson⟩ :=
    exists_of_forall₂_left (shows_of_listingJson hlisting).2.1 h
  obtain rfl : other = name := hname
  refine ⟨source, target, h, ⟨t, _, before, after, htext, ?_⟩, listing, body, hlisting, hbody, ?_⟩
  · rw [connectionLine, ht, hsource, htarget] at hl
    obtain rfl := Except.ok.inj hl
    have hbreak : "\n" ++ "  " = "\n  " := by decide
    have hstring (text : String) : toString text = text := rfl
    rw [← hbreak]
    simp only [line, hstring, String.append_assoc, -String.reduceAppend]
  · obtain ⟨_, -, source', hsource', target', htarget', rfl⟩ := connectionJson_eq_ok_iff.1 hjson
    obtain rfl := Except.ok.inj (hsource.symm.trans hsource')
    obtain rfl := Except.ok.inj (htarget.symm.trans htarget')
    exact ⟨rfl, rfl⟩

theorem Consistent.handle?_of_nodeName (hc : s.Consistent) {id : NodeId} {name : String}
    (h : s.nodeName id = .ok name) : Ledger.handle? s.ledger.nodes name = some id :=
  (Ledger.handle?_eq_some_iff (hc.nodes.nodup hc.names)).2 (hc.nodeName_eq_ok_iff.1 h)

theorem EndsAt.eq_iff (hc : s.Consistent) {e e' : Endpoint} (h : s.EndsAt r e)
    (h' : s.EndsAt r' e') : r = r' ↔ e = e' := by
  obtain ⟨id, port⟩ := r
  obtain ⟨id', port'⟩ := r'
  obtain ⟨node, _⟩ := e
  obtain ⟨node', _⟩ := e'
  obtain ⟨hname, rfl⟩ : s.nodeName id = .ok node ∧ port = _ := h
  obtain ⟨hname', rfl⟩ : s.nodeName id' = .ok node' ∧ port' = _ := h'
  rw [PortRef.mk.injEq, Endpoint.mk.injEq]
  refine and_congr_left fun _ => ⟨?_, ?_⟩
  · rintro rfl
    exact Except.ok.inj (hname.symm.trans hname')
  · rintro rfl
    have hid := hc.handle?_of_nodeName hname
    rw [hc.handle?_of_nodeName hname', Option.some.injEq] at hid
    exact hid.symm

end Schematic

namespace Mirrors

variable {doc : Sections} {delimiter : Char} {s : Schematic} {r : PortRef} {text : String}

theorem shown_spec (h : Mirrors doc delimiter doc.inOrder s) (hr : s.Shown r text) :
    ∃ e : Endpoint, s.EndsAt r e ∧ delimiter ∉ e.node.toList ∧ text = s!"{e.node}:{e.port}" := by
  have hc := h.built.consistent
  have hends {name : String} {k : Connection} (hk : (name, k) ∈ s.connectionsByName.entries) :
      ∃ source target : Endpoint, delimiter ∉ source.node.toList ∧ delimiter ∉ target.node.toList ∧
        s.EndsAt k.source source ∧ s.EndsAt k.target target := by
    obtain ⟨body, -, t, hlink⟩ := h.retells.connections.exists_entry
      ((NameMap.perm_ofList (hc.connections.nodup hc.names)).mem_iff.1 hk)
    obtain ⟨source, target, hsource, htarget, -, hs, ht⟩ := hlink.ends
    obtain ⟨_, -, hsplits⟩ := hsource.text
    obtain ⟨_, -, hsplits'⟩ := htarget.text
    exact ⟨source, target, hsplits.first, hsplits'.first, hs, ht⟩
  cases hr with
  | source hk =>
    obtain ⟨e, -, hfirst, -, hs, -⟩ := hends hk.listed
    exact ⟨e, hs, hfirst, Except.ok.inj (hk.endpointText.1.symm.trans hs.endpointText)⟩
  | target hk =>
    obtain ⟨-, e, -, hfirst, -, ht⟩ := hends hk.listed
    exact ⟨e, ht, hfirst, Except.ok.inj (hk.endpointText.2.symm.trans ht.endpointText)⟩

end Mirrors

namespace Document

/--
Listings have a text for each end of a connection. Two ends that have the same text are at the same
port, unless the document was read with another delimiter than the colon and one node's name goes on
where the other port's name begins.
-/
theorem read_endpoint_texts (o : ReadOptions) {j : Json} (hj : j.Distinct) {s : Schematic}
    (h : (read o j).result = .ok s) :
    (∀ name k, (name, k) ∈ s.connectionsByName.entries →
      ∃ source target, s.Prints name k source target) ∧
    ∀ r text r' text', s.Shown r text → s.Shown r' text' → (text = text' ↔ r = r' ∨
      o.delimiter ≠ ':' ∧ ∃ e e', s.EndsAt r e ∧ s.EndsAt r' e' ∧ (e.Shifts e' ∨ e'.Shifts e)) := by
  obtain ⟨root, -, -, -, hmirrors⟩ := read_mirrors hj h
  refine ⟨fun name k hk => hmirrors.built.exists_prints hk, fun r text r' text' hr hr' => ?_⟩
  obtain ⟨e, he, hfirst, rfl⟩ := hmirrors.shown_spec hr
  obtain ⟨e', he', hfirst', rfl⟩ := hmirrors.shown_spec hr'
  rw [Endpoint.joined_eq_iff, he.eq_iff hmirrors.built.consistent he']
  apply or_congr_right
  constructor
  · intro hshifts
    refine ⟨fun hcolon => ?_, e, e', he, he', hshifts⟩
    obtain hshifts | hshifts := hshifts
    · exact hfirst' (hcolon ▸ hshifts.colon_mem)
    · exact hfirst (hcolon ▸ hshifts.colon_mem)
  · rintro ⟨-, f, f', hf, hf', hshifts⟩
    obtain rfl := (he.eq_iff hmirrors.built.consistent hf).1 rfl
    obtain rfl := (he'.eq_iff hmirrors.built.consistent hf').1 rfl
    exact hshifts

def quaysSettings : String :=
  "[project]\nname = \"quays\"\n[deserialize]\nendpoint_delimiter = \".\"\n"

def quays : Json :=
  .object [
    ("schematicName", .string "quays"),
    ("portTypes", .object [("Berth", .object [])]),
    ("nodeTypes", .object [("Quay", .object [
      ("portTypes", .object [("2:a", .string "Berth"), ("a", .string "Berth")])])]),
    ("connectionTypes", .object [("Rope", .object [])]),
    ("nodes", .object [
      ("north", .object [("type", .string "Quay")]),
      ("north:2", .object [("type", .string "Quay")])]),
    ("connections", .object [("r", .object [
      ("type", .string "Rope"), ("from", .string "north.2:a"), ("to", .string "north:2.a")])])]

theorem distinct_quays : quays.Distinct := by
  simp [quays, Json.Distinct, Json.DistinctFields]

theorem exists_read_quays : ∃ s name k, (read { delimiter := '.' } quays).result = .ok s ∧
    (name, k) ∈ s.connectionsByName.entries ∧ k.source ≠ k.target ∧
      s.endpointText k.source = .ok "north:2:a" ∧ s.endpointText k.target = .ok "north:2:a" := by
  obtain ⟨s, hs, hlisted⟩ := exists_ok_of_any (x := (read { delimiter := '.' } quays).result)
    (p := fun s => s.connectionsByName.entries.any fun e => decide (e.2.source ≠ e.2.target ∧
      s.endpointText e.2.source = .ok "north:2:a" ∧ s.endpointText e.2.target = .ok "north:2:a"))
    (by decide +kernel)
  obtain ⟨⟨name, k⟩, hk, hends⟩ := List.any_eq_true.1 hlisted
  exact ⟨s, name, k, hs, hk, of_decide_eq_true hends⟩

theorem quays_printed_alike : ∃ settings s name k text,
    Settings.readText quaysSettings = .ok settings ∧
    (read settings.reading quays).result = .ok s ∧ s.Prints name k text text ∧
    k.source ≠ k.target := by
  obtain ⟨s, name, k, hs, hk, hne, hsource, htarget⟩ := exists_read_quays
  obtain ⟨root, -, -, -, hmirrors⟩ := read_mirrors distinct_quays hs
  obtain ⟨source, target, hprints⟩ := hmirrors.built.exists_prints hk
  obtain rfl := Except.ok.inj (hsource.symm.trans hprints.endpointText.1)
  obtain rfl := Except.ok.inj (htarget.symm.trans hprints.endpointText.2)
  exact ⟨{ name := "quays", reading := { delimiter := '.' } }, s, name, k, _, by decide +kernel, hs,
    hprints, hne⟩

theorem read_endpoint_texts_quays : quays.Distinct ∧
    ∃ s name k text, (read { delimiter := '.' } quays).result = .ok s ∧ s.Shown k.source text ∧
      s.Shown k.target text ∧ (name, k) ∈ s.connectionsByName.entries ∧ ∃ e e' : Endpoint,
        s.EndsAt k.source e ∧ s.EndsAt k.target e' ∧ (e.Shifts e' ∨ e'.Shifts e) := by
  obtain ⟨s, name, k, hs, hk, hne, hsource, htarget⟩ := exists_read_quays
  obtain ⟨hprinted, halike⟩ := read_endpoint_texts { delimiter := '.' } distinct_quays hs
  obtain ⟨source, target, hprints⟩ := hprinted name k hk
  obtain rfl := Except.ok.inj (hsource.symm.trans hprints.endpointText.1)
  obtain rfl := Except.ok.inj (htarget.symm.trans hprints.endpointText.2)
  obtain hsame | ⟨-, hshifts⟩ := (halike _ _ _ _ (.source hprints) (.target hprints)).1 rfl
  · exact absurd hsame hne
  · exact ⟨distinct_quays, s, name, k, _, hs, .source hprints, .target hprints, hk, hshifts⟩

end Document

end Schematics

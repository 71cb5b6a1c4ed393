import Schematics.Proofs.Retelling
import Schematics.Proofs.Warnings

namespace Schematics

open Json (Alike)

variable {α : Type} {doc doc' : Sections} {delimiter : Char} {s s' : Schematic} {c : Category}
  {key name : String} {body body' fields fields' root root' : Fields} {entries entries' : Entries}

structure EntriesShuffled (entries entries' : Entries) : Prop where
  names : (entries.map Prod.fst).Perm (entries'.map Prod.fst)
  alike : ∀ name body body', (name, body) ∈ entries → (name, body') ∈ entries' →
    Alike (.object body) (.object body')

namespace EntriesShuffled

theorem exists_right (h : EntriesShuffled entries entries') (he : (name, body) ∈ entries) :
    ∃ body', (name, body') ∈ entries' ∧ Alike (.object body) (.object body') := by
  have hname : name ∈ entries'.map Prod.fst := h.names.mem_iff.1 (List.mem_map.2 ⟨_, he, rfl⟩)
  obtain ⟨⟨_, body'⟩, he', rfl⟩ := List.mem_map.1 hname
  exact ⟨body', he', h.alike _ body body' he he'⟩

theorem symm (h : EntriesShuffled entries entries') : EntriesShuffled entries' entries :=
  ⟨h.names.symm, fun name body body' he he' => (h.alike name body' body he' he).symm⟩

theorem told (h : EntriesShuffled entries entries') {rows : List (String × α)}
    {tells tells' : Fields → α → Prop} (ht : Told entries rows tells)
    (himp : ∀ body body' a, Alike (.object body) (.object body') → tells body a → tells' body' a) :
    Told entries' rows tells' := by
  refine ⟨ht.names.trans h.names, fun name a body' ha he' => ?_⟩
  obtain ⟨body, he, halike⟩ := h.symm.exists_right he'
  exact himp body body' a halike.symm (ht.told name a body ha he)

end EntriesShuffled

namespace Sections

structure Rearranged (doc doc' : Sections) : Prop extends doc.SharesTypes doc' where
  instances : ∀ stage : Stage, stage.category? = none → EntriesShuffled (doc stage) (doc' stage)

namespace Rearranged

theorem keepsNodes (h : doc.Rearranged doc') : doc.KeepsNodes doc' := by
  intro name body t hbody ht
  obtain ⟨body', hbody', halike⟩ := (h.instances .nodes rfl).exists_right hbody
  exact ⟨body', hbody', halike.lookup_string ht⟩

theorem retells (h : doc.Rearranged doc') (hs : Retells doc delimiter s) :
    Retells doc' delimiter s := by
  obtain ⟨rows, hrows, hspelled⟩ := hs.types
  refine ⟨⟨rows, hrows, h.spellsTypes hspelled⟩, ?_, ?_, ?_⟩
  · refine (h.instances .nodes rfl).told hs.nodes fun body body' n ha hn => ?_
    obtain ⟨t, hn⟩ := hn
    exact ⟨t, h.spellsNode ha hn⟩
  · refine (h.instances .connections rfl).told hs.connections fun body body' k ha hk => ?_
    obtain ⟨t, hk⟩ := hk
    exact ⟨t, h.spellsLink h.keepsNodes ha hk⟩
  · refine (h.instances .constraints rfl).told hs.constraints fun body body' k ha hk => ?_
    obtain ⟨t, hk⟩ := hk
    exact ⟨t, h.spellsInstance ha hk⟩

theorem formed (h : doc.Rearranged doc') (hf : doc.Formed) : doc'.Formed := by
  refine ⟨fun stage hstage => ?_, ?_⟩
  · rintro ⟨name, body'⟩ he'
    obtain ⟨body, he, halike⟩ := (h.instances stage hstage).symm.exists_right he'
    exact halike.symm.objectOrAbsent (hf.attributes stage hstage _ he)
  · rintro ⟨name, body'⟩ he'
    obtain ⟨body, he, halike⟩ := (h.instances .nodes rfl).symm.exists_right he'
    exact h.formedPorts halike.symm (hf.ports _ he)

end Rearranged

end Sections

namespace Document

structure Rearranged (doc doc' : Json) : Prop where
  reordered : Json.Reordered doc doc'
  types : ∀ c : Category, (given c.stage.key doc.fieldsOf).map Prod.fst =
    (given c.stage.key doc'.fieldsOf).map Prod.fst

theorem Rearranged.symm {j j' : Json} (h : Rearranged j j') : Rearranged j' j :=
  ⟨h.reordered.symm, fun c => (h.types c).symm⟩

theorem Acceptable.formed (h : Acceptable delimiter root) : (sections root).Formed := by
  have hproper (stage : Stage) (e : String × Fields) (he : e ∈ sections root stage) :
      ∃ earlier, (sections root).Proper delimiter earlier e.2 stage := by
    obtain ⟨earlier, later, hsplit⟩ := List.append_of_mem he
    exact ⟨earlier, h.entries stage earlier e.1 e.2 later hsplit⟩
  refine ⟨fun stage hstage e he => ?_, fun e he => ?_⟩
  · obtain ⟨earlier, hp⟩ := hproper stage e he
    cases stage with
    | userDefinedTypes | portTypes | nodeTypes | connectionTypes | constraintTypes =>
      exact nomatch hstage
    | nodes | connections | constraints =>
      obtain ⟨t, hp⟩ := hp
      exact hp.attributes
  · obtain ⟨-, t, hp⟩ := hproper .nodes e he
    refine ⟨hp.portAttrs, fun port j hj => ?_⟩
    obtain ⟨hobject, t', ht', -⟩ := hp.ports port j hj
    exact ⟨hobject, t, t', hp.type, ht'⟩

theorem rearranged_sections (ha : Alike (.object root) (.object root'))
    (h : Rearranged (.object root) (.object root')) :
    (sections root).Rearranged (sections root') := by
  have hsection (stage : Stage) := ha.given stage.key
  refine ⟨⟨fun c => ?_⟩, fun stage _ => ⟨?_, fun name body body' hb hb' => ?_⟩⟩
  · rw [sections_eq, sections_eq]
    refine List.forall₂_map_left_iff.2 (List.forall₂_map_right_iff.2 ?_)
    refine (forall₂_of_names (h.types c) fun name j j' => (hsection c.stage).of_mem).imp ?_
    exact fun e e' he => ⟨he.1, he.2.fieldsOf⟩
  · rw [sections_eq, sections_eq, List.map_map, List.map_map]
    exact (hsection stage).names
  · rw [sections_eq, List.mem_map] at hb hb'
    obtain ⟨⟨_, j⟩, hj, heq⟩ := hb
    obtain ⟨⟨_, j'⟩, hj', heq'⟩ := hb'
    obtain ⟨rfl, rfl⟩ := Prod.mk.inj heq
    obtain ⟨rfl, rfl⟩ := Prod.mk.inj heq'
    exact ((hsection stage).of_mem hj hj').fieldsOf

theorem exists_read_of_rearranged {o : ReadOptions} {j j' : Json} (hj : j.Distinct)
    (hj' : j'.Distinct) (h : Rearranged j j') (hs : (read o j).result = .ok s) :
    ∃ s', (read o j').result = .ok s' ∧ s.Built ∧ s'.Built ∧ s.SameContent s' := by
  obtain ⟨root, rfl, hname, hacceptable, hmirrors⟩ := read_mirrors hj hs
  have ha : Alike (.object root) j' := ⟨h.reordered, hj, hj'⟩
  obtain ⟨root', rfl⟩ := ha.exists_object
  have hrearranged := rearranged_sections ha h
  obtain ⟨s', hs', hbuilt, hsame⟩ := exists_read_of_retells hj' (ha.lookup_string hname)
    (fun stage => ha.objectOrAbsent (hacceptable.layout stage))
    (fun stage name j' hmem => by
      obtain ⟨j, hmem', halike⟩ := (ha.given stage.key).symm.exists_mem hmem
      exact halike.symm.isObject (hacceptable.bodies stage name j hmem'))
    (fun c earlier name body later hsplit =>
      hrearranged.proper_types (hacceptable.entries c.stage) hsplit)
    (hrearranged.formed hacceptable.formed) hmirrors.built (hrearranged.retells hmirrors.retells)
  exact ⟨s', hs', hmirrors.built, hbuilt, hsame⟩

/-- Where fields stand decides which handles nodes get, and nothing else that is shown. -/
theorem read_of_rearranged (o : ReadOptions) {j j' : Json} (hj : j.Distinct) (hj' : j'.Distinct)
    (h : Rearranged j j') :
    ((∃ s, (read o j).result = .ok s) ↔ ∃ s', (read o j').result = .ok s') ∧
      ∀ s s', (read o j).result = .ok s → (read o j').result = .ok s' →
        (∃ text, s.listing = .ok text ∧ s'.listing = .ok text) ∧
        (∃ listing, s.listingJson = .ok listing ∧ s'.listingJson = .ok listing) ∧
        s'.nodesByName = s.nodesByName ∧ s'.constraintsByName = s.constraintsByName ∧
        (Verdict.ofReported (read o j)).log.warningCount =
          (Verdict.ofReported (read o j')).log.warningCount := by
  refine ⟨⟨?_, ?_⟩, fun s s' hs hs' => ?_⟩
  · rintro ⟨s, hs⟩
    obtain ⟨s', hs', -⟩ := exists_read_of_rearranged hj hj' h hs
    exact ⟨s', hs'⟩
  · rintro ⟨s', hs'⟩
    obtain ⟨s, hs, -⟩ := exists_read_of_rearranged hj' hj h.symm hs'
    exact ⟨s, hs⟩
  · obtain ⟨other, hother, hbuilt, hbuilt', hsame⟩ := exists_read_of_rearranged hj hj' h hs
    rw [hs', Except.ok.injEq] at hother
    subst hother
    obtain ⟨text, htext⟩ := hbuilt.exists_listing
    obtain ⟨listing, hlisting⟩ := hbuilt.exists_listingJson
    refine ⟨⟨text, htext, (hsame.listing_eq hbuilt hbuilt').trans htext⟩,
      ⟨listing, hlisting, (hsame.listingJson_eq hbuilt hbuilt').trans hlisting⟩, hsame.nodes,
      hsame.constraints, ?_⟩
    rw [Verdict.warningCount_ofReported, Verdict.warningCount_ofReported]
    obtain ⟨root, rfl, -⟩ := read_mirrors hj hs
    obtain ⟨root', rfl, -⟩ := read_mirrors hj' hs'
    exact warnings_read_of_alike ⟨h.reordered, hj, hj'⟩ hs hs'

def stillTypes : Json :=
  .object [
    ("Vessel", .object [("attributes", .object [("marks", .string "String")]),
      ("portTypes", .object [("in", .string "Port"), ("out", .string "Port")])]),
    ("Still", .object [("portTypes", .object []), ("supertype", .string "Vessel")])]

def stillNodes : Fields :=
  [("v", .object [("type", .string "Vessel"), ("portAttrs", .object [("in", .object [])])]),
    ("s", .object [("type", .string "Still"), ("attributes", .object [("marks", .string "low")])])]

def stillNodesShuffled : Fields :=
  [("s", .object [("attributes", .object [("marks", .string "low")]), ("type", .string "Still")]),
    ("v", .object [("type", .string "Vessel"), ("portAttrs", .object [("in", .object [])])])]

def stills : Json :=
  .object [
    ("schematicName", .string "stills"),
    ("portTypes", .object [("Port", .object [])]),
    ("nodeTypes", stillTypes),
    ("connectionTypes", .object [("Pipe", .object [])]),
    ("nodes", .object stillNodes),
    ("connections", .object [
      ("p", .object [("type", .string "Pipe"), ("from", .string "s:out"),
        ("to", .string "v:in")])])]

def stillsShuffled : Json :=
  .object [
    ("connections", .object [
      ("p", .object [("type", .string "Pipe"), ("from", .string "s:out"),
        ("to", .string "v:in")])]),
    ("nodes", .object stillNodesShuffled),
    ("connectionTypes", .object [("Pipe", .object [])]),
    ("nodeTypes", stillTypes),
    ("portTypes", .object [("Port", .object [])]),
    ("schematicName", .string "stills")]

theorem stills_rearranged : Rearranged stills stillsShuffled := by
  have hstill : Json.Reordered
      (.object [("type", .string "Still"), ("attributes", .object [("marks", .string "low")])])
      (.object [("attributes", .object [("marks", .string "low")]),
        ("type", .string "Still")]) := by
    refine .object (by decide) fun name j j' hj hj' => ?_
    simp only [List.mem_cons, Prod.mk.injEq, List.not_mem_nil, or_false] at hj hj'
    obtain ⟨rfl, rfl⟩ | ⟨rfl, rfl⟩ := hj <;> simp at hj' <;> exact hj' ▸ .same _
  have hnodes : Json.Reordered (.object stillNodes) (.object stillNodesShuffled) := by
    refine .object (by decide) fun name j j' hj hj' => ?_
    simp only [stillNodes, stillNodesShuffled, List.mem_cons, Prod.mk.injEq, List.not_mem_nil,
      or_false] at hj hj'
    obtain ⟨rfl, rfl⟩ | ⟨rfl, rfl⟩ := hj <;> simp at hj' <;> subst hj'
    · exact .same _
    · exact hstill
  refine ⟨.object (by decide) fun name j j' hj hj' => ?_, fun c => by cases c <;> rfl⟩
  simp only [List.mem_cons, Prod.mk.injEq, List.not_mem_nil, or_false] at hj hj'
  obtain ⟨rfl, rfl⟩ | ⟨rfl, rfl⟩ | ⟨rfl, rfl⟩ | ⟨rfl, rfl⟩ | ⟨rfl, rfl⟩ | ⟨rfl, rfl⟩ := hj <;>
    simp at hj' <;> subst hj'
  all_goals first | exact .same _ | exact hnodes

theorem read_of_rearranged_stills :
    stills.Distinct ∧ stillsShuffled.Distinct ∧ Rearranged stills stillsShuffled ∧
      ∃ s s', (read {} stills).result = .ok s ∧ (read {} stillsShuffled).result = .ok s' ∧
        (∃ text, s.listing = .ok text ∧ s'.listing = .ok text) ∧
        (∃ listing, s.listingJson = .ok listing ∧ s'.listingJson = .ok listing) ∧
        s'.nodesByName = s.nodesByName ∧ s'.constraintsByName = s.constraintsByName ∧
        (Verdict.ofReported (read {} stills)).log.warningCount = 1 ∧
        (Verdict.ofReported (read {} stillsShuffled)).log.warningCount = 1 := by
  have hleft : stills.Distinct := by
    simp [stills, stillTypes, stillNodes, Json.Distinct, Json.DistinctFields]
  have hright : stillsShuffled.Distinct := by
    simp [stillsShuffled, stillTypes, stillNodesShuffled, Json.Distinct, Json.DistinctFields]
  obtain ⟨hiff, hsame⟩ := read_of_rearranged {} hleft hright stills_rearranged
  obtain ⟨s, hs, -⟩ := exists_ok_of_any (x := (read {} stills).result) (p := fun _ => true)
    (by decide +kernel)
  obtain ⟨s', hs'⟩ := hiff.1 ⟨s, hs⟩
  obtain ⟨htext, hlisting, hnodes, hconstraints, hwarnings⟩ := hsame s s' hs hs'
  have hone : (Verdict.ofReported (read {} stills)).log.warningCount = 1 := by decide +kernel
  exact ⟨hleft, hright, stills_rearranged, s, s', hs, hs', htext, hlisting, hnodes, hconstraints,
    hone, hwarnings ▸ hone⟩

end Document

end Schematics

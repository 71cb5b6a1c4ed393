import Schematics.Proofs.ListedValues
import Schematics.Proofs.Rendering
import Schematics.Proofs.Retelling

namespace Schematics

variable {α : Type} {s : Schematic} {root fields : Fields} {listing : Json}

namespace Document

def keptKeys : List String := nameKey :: Category.all.map fun c => c.stage.key

def asEntry (node : Json) : Json :=
  .object (node.fieldsOf.map fun f => (if f.1 = "ports" then "portAttrs" else f.1, f.2))

def listedSections (listing : Json) : Fields :=
  [(Stage.nodes.key,
      .object ((given "nodes" listing.fieldsOf).map fun e => (e.1, asEntry e.2))),
    (Stage.connections.key, .object (given "connections" listing.fieldsOf)),
    (Stage.constraints.key, .object (given "constraints" listing.fieldsOf))]

def relisted (root : Fields) (listing : Json) : Fields :=
  root.filter (fun f => f.1 ∈ keptKeys) ++ listedSections listing

theorem keys_listedSections (listing : Json) :
    (listedSections listing).map Prod.fst = ["nodes", "connections", "constraints"] := rfl

theorem not_mem_keptKeys {f : String × Json} (hf : f ∈ listedSections listing) :
    f.1 ∉ keptKeys := by
  have hkeys : ∀ key ∈ ["nodes", "connections", "constraints"], key ∉ keptKeys := by decide
  exact hkeys f.1 (keys_listedSections listing ▸ List.mem_map.2 ⟨f, hf, rfl⟩)

theorem lookup_relisted_of_mem {key : String} (hk : key ∈ keptKeys) :
    (relisted root listing).lookup key = root.lookup key := by
  have hnone : (listedSections listing).lookup key = none :=
    Option.eq_none_iff_forall_ne_some.2 fun j hj => not_mem_keptKeys (mem_of_lookup_eq_some hj) hk
  rw [relisted, List.lookup_append, lookup_filter (· ∈ keptKeys), if_pos (by simpa using hk), hnone,
    Option.or_none]

theorem lookup_relisted_of_not_mem {key : String} (hk : key ∉ keptKeys) :
    (relisted root listing).lookup key = (listedSections listing).lookup key := by
  rw [relisted, List.lookup_append, lookup_filter (· ∈ keptKeys), if_neg (by simpa using hk),
    Option.none_or]

theorem key_mem_keptKeys (c : Category) : c.stage.key ∈ keptKeys :=
  List.mem_cons_of_mem _ (List.mem_map.2 ⟨c, by cases c <;> decide, rfl⟩)

theorem given_relisted_type (c : Category) :
    given c.stage.key (relisted root listing) = given c.stage.key root := by
  rw [given, given, lookup_relisted_of_mem (key_mem_keptKeys c)]

theorem lookup_relisted_instances {stage : Stage} (h : stage.category? = none) :
    (relisted root listing).lookup stage.key =
      some (.object (given stage.key (relisted root listing))) := by
  cases stage with
  | userDefinedTypes | portTypes | nodeTypes | connectionTypes | constraintTypes => exact nomatch h
  | nodes | connections | constraints =>
    rw [given, lookup_relisted_of_not_mem (by decide)]
    rfl

theorem given_relisted_nodes : given Stage.nodes.key (relisted root listing) =
    (given "nodes" listing.fieldsOf).map fun e => (e.1, asEntry e.2) := by
  rw [given, lookup_relisted_of_not_mem (by decide)]
  rfl

theorem given_relisted_connections :
    given Stage.connections.key (relisted root listing) = given "connections" listing.fieldsOf := by
  rw [given, lookup_relisted_of_not_mem (by decide)]
  rfl

theorem given_relisted_constraints :
    given Stage.constraints.key (relisted root listing) = given "constraints" listing.fieldsOf := by
  rw [given, lookup_relisted_of_not_mem (by decide)]
  rfl

end Document

abbrev Shows (write : α → Except Fault Json) (m : NameMap α) (fields : Fields) : Prop :=
  List.Forall₂ (fun e f => f.1 = e.1 ∧ write e.2 = .ok f.2) m.entries fields

namespace Schematic

theorem named_eq_ok_iff {write : α → Except Fault Json} {m : NameMap α} {j : Json} :
    named write m = .ok j ↔ ∃ fields, Shows write m fields ∧ .object fields = j := by
  have hentry (e : String × α) (f : String × Json) :
      (do pure (e.1, ← write e.2) : Except Fault (String × Json)) = .ok f ↔
        f.1 = e.1 ∧ write e.2 = .ok f.2 := by
    obtain ⟨name, j⟩ := f
    simp only [bind_eq_ok_iff, pure_eq_ok, Except.ok.injEq, Prod.mk.injEq]
    constructor
    · rintro ⟨_, hj, rfl, rfl⟩
      exact ⟨rfl, hj⟩
    · rintro ⟨rfl, hj⟩
      exact ⟨j, hj, rfl, rfl⟩
  simp only [named, map_eq_ok_iff, mapM_eq_ok_iff, hentry]

theorem nodeJson_eq_ok_iff {n : Node} {j : Json} : s.nodeJson n = .ok j ↔
    ∃ t, s.typeName n.type = .ok t ∧ .object [("type", .string t),
      ("attributes", attributesJson n.attributes),
      ("ports", .object (listedPorts n.ports).entries)] = j := by
  simp only [nodeJson, listedPorts, bind_eq_ok_iff, pure_eq_ok, Except.ok.injEq]

theorem connectionJson_eq_ok_iff {k : Connection} {j : Json} : s.connectionJson k = .ok j ↔
    ∃ t, s.typeName k.type = .ok t ∧ ∃ source, s.endpointText k.source = .ok source ∧
      ∃ target, s.endpointText k.target = .ok target ∧ .object [("type", .string t),
        ("from", .string source), ("to", .string target),
        ("attributes", attributesJson k.attributes)] = j := by
  simp only [connectionJson, bind_eq_ok_iff, pure_eq_ok, Except.ok.injEq]

theorem constraintJson_eq_ok_iff {k : Constraint} {j : Json} : s.constraintJson k = .ok j ↔
    ∃ t, s.typeName k.type = .ok t ∧
      .object [("type", .string t), ("attributes", attributesJson k.attributes)] = j := by
  simp only [constraintJson, bind_eq_ok_iff, pure_eq_ok, Except.ok.injEq]

theorem shows_of_listingJson (h : s.listingJson = .ok listing) :
    Shows s.nodeJson s.nodesByName (given "nodes" listing.fieldsOf) ∧
      Shows s.connectionJson s.connectionsByName (given "connections" listing.fieldsOf) ∧
        Shows s.constraintJson s.constraintsByName (given "constraints" listing.fieldsOf) := by
  simp only [listingJson, bind_eq_ok_iff, named_eq_ok_iff, pure_eq_ok, Except.ok.injEq] at h
  obtain ⟨_, ⟨nodes, hn, rfl⟩, _, ⟨connections, hk, rfl⟩, _, ⟨constraints, hl, rfl⟩, rfl⟩ := h
  exact ⟨hn, hk, hl⟩

end Schematic

theorem Shows.names {write : α → Except Fault Json} {m : NameMap α} (h : Shows write m fields) :
    fields.map Prod.fst = m.entries.map Prod.fst := map_eq_of_forall₂ (fun _ _ hf => hf.1) h

theorem Shows.told {write : α → Except Fault Json} {rows : List (String × α)}
    (hrows : (rows.map Prod.fst).Nodup) (h : Shows write (.ofList rows) fields)
    (body : Json → Fields) {tells : Fields → α → Prop}
    (ht : ∀ name a j, (name, a) ∈ rows → write a = .ok j → tells (body j) a) :
    Told (fields.map fun f => (f.1, body f.2)) rows tells := by
  have hperm := NameMap.perm_ofList hrows
  constructor
  · rw [List.map_map]
    exact (h.names ▸ hperm.map Prod.fst).symm
  · intro name a b ha hb
    obtain ⟨⟨listed, j⟩, hj, heq⟩ := List.mem_map.1 hb
    obtain ⟨rfl, rfl⟩ := Prod.mk.inj heq
    obtain ⟨⟨other, a'⟩, ha', hname, hwrite⟩ := exists_of_forall₂_right h hj
    obtain rfl : listed = other := hname
    have hrow := List.inj_on_of_nodup_map hrows (hperm.mem_iff.1 ha') ha rfl
    obtain rfl := (Prod.mk.inj hrow).2
    exact ht _ _ j ha hwrite

end Schematics

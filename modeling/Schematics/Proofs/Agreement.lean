import Schematics.Proofs.Acceptance
import Schematics.Proofs.EntryFaults
import Schematics.Proofs.Progress
import Schematics.Proofs.TypeRefusals

namespace Schematics

theorem Schematic.Grounded.checkType_failsOnly {s : Schematic} (h : s.Grounded) {name : String}
    {shape : Shape} (hm : ∀ t c, shape.Mentions t c → s.requireCategory c t = .ok ()) :
    FailsOnly (fun f => f = .multipleDefinition name ∨ shape.Redeclares s name f)
      (s.checkType name shape) := by
  -- What the type mentions is where it should be; its name and what it redeclares remain.
  intro f hf
  cases h.refused_of_checkType hf with
  | taken _ => exact .inl rfl
  | unregistered _ hmentioned ht =>
    exact absurd (requireCategory_eq_ok_iff_isType.1 (hm _ _ hmentioned)) ht
  | redeclared _ _ hredeclares => exact .inr hredeclares

theorem Shape.Redeclares.arisesIn {s : Schematic} {owner : String} {shape : Shape} {f : Fault}
    (h : shape.Redeclares s owner f) (supplied : List Json) :
    f.ArisesIn shape.category.stage supplied := by
  have hstage {parent : TypeId} (hp : shape.supertype = some parent) : shape.category.stage ∈
      [Stage.portTypes, .nodeTypes, .connectionTypes, .constraintTypes] := by
    cases shape with
    | port _ | node _ | connection _ | constraint _ => simp [Shape.category, Category.stage]
    | bool | int | string | real | array _ => cases hp
  cases h with
  | inheritedAttribute hp | inheritedPort hp => exact hstage hp

theorem Category.stage_mem_types (c : Category) : c.stage ∈ Stage.types := by
  cases c <;> decide

namespace Mirrors

open Document

variable {doc : Sections} {delimiter : Char} {earlier later : List Entry} {s : Schematic}
  {name : String} {body : Fields} {c : Category}

theorem checkType_of_read (h : Mirrors doc delimiter earlier s) {shape : Shape}
    (hs : SpellsShape (ReadsType s) body c shape) :
    FailsOnly (fun f => f = .multipleDefinition name ∨ shape.Redeclares s name f)
      (s.checkType name shape) :=
  h.built.grounded.checkType_failsOnly fun _ _ hm => h.requireCategory_of_mentions hs hm

theorem checkNode_of_read (h : Mirrors doc delimiter earlier s)
    (hnames : ∀ stage, ((doc stage).map Prod.fst).Nodup)
    (hsplit : doc.inOrder = earlier ++ (.nodes, name, body) :: later)
    (hb : (Json.object body).Distinct) {n : Node} (hn : (readNode s name body).result = .ok n) :
    s.checkNode name n = .ok () := by
  have hc : Settled doc earlier .node := settled_of_lt hsplit nofun (by decide)
  have hp : Settled doc earlier .port := settled_of_lt hsplit nofun (by decide)
  have hitem : readItem delimiter s .nodes name body = .ok (.node name n) :=
    map_eq_ok_iff.2 ⟨n, hn, rfl⟩
  obtain ⟨_, type, hi, -, -, hports, heq⟩ := (h.readItem_node_eq_ok_iff hc hp hb).1 hitem
  obtain rfl := (Item.node.inj heq).2
  exact (h.checkNode_iff hc hp hi hports).2 (fresh_of_instance rfl (hnames .nodes) hsplit)

theorem checkConstraint_of_read (h : Mirrors doc delimiter earlier s)
    (hnames : ∀ stage, ((doc stage).map Prod.fst).Nodup)
    (hsplit : doc.inOrder = earlier ++ (.constraints, name, body) :: later)
    (hb : (Json.object body).Distinct) {k : Constraint} (hk : readConstraint s body = .ok k) :
    s.checkConstraint name k = .ok () := by
  have hc : Settled doc earlier .constraint := settled_of_lt hsplit nofun (by decide)
  obtain ⟨type, hi⟩ := (readConstraint_eq_ok_iff h.built.grounded hb).1 hk
  obtain ⟨hcategory, hattributes⟩ := h.checkInstance hc hi
  have hnew := fresh_of_instance rfl (hnames .constraints) hsplit
  exact Schematic.checkConstraint_eq_ok_iff.2 ⟨(h.find?_eq_none_iff h.built.consistent.constraints
    h.constraints).2 hnew, hcategory, hattributes⟩

theorem checkConnection_of_read (h : Mirrors doc delimiter earlier s)
    (hnames : ∀ stage, ((doc stage).map Prod.fst).Nodup)
    (hsplit : doc.inOrder = earlier ++ (.connections, name, body) :: later)
    (hb : (Json.object body).Distinct) {k : Connection}
    (hk : readConnection s delimiter body = .ok k) :
    s.checkConnection name k = if k.source = k.target then
      .error (.verification
        ((Defect.selfConnection k.source).inside s!"connection `{name}`").message)
      else .ok () := by
  have hc : Settled doc earlier .connection := settled_of_lt hsplit nofun (by decide)
  have hlt : Stage.all.idxOf .nodes < Stage.all.idxOf .connections := by decide
  have hnodes : sectionsOf earlier .nodes = doc .nodes := Sections.sectionsOf_eq_of_lt hsplit hlt
  have hitem : readItem delimiter s .connections name body = .ok (.connection name k) :=
    map_eq_ok_iff.2 ⟨k, hk, rfl⟩
  obtain ⟨other, ⟨type, hi⟩, hsource, htarget, heq⟩ :=
    (h.readItem_connection_eq_ok_iff hnodes hb).1 hitem
  obtain rfl : k = other := (Item.connection.inj heq).2.symm
  by_cases hself : k.source = k.target
  · obtain ⟨hcategory, hattributes⟩ := h.checkInstance hc hi
    obtain ⟨p, hp⟩ := h.exists_resolvePort hnodes hsource
    obtain ⟨q, hq⟩ := h.exists_resolvePort hnodes htarget
    have hnew : s.find? s.connections.byName name = none :=
      (h.find?_eq_none_iff h.built.consistent.connections h.connections).2
        (fresh_of_instance rfl (hnames .connections) hsplit)
    have hdefect : k.defect? = some (.selfConnection k.source) := by
      obtain ⟨type, source, target, attributes⟩ := k
      exact if_pos hself
    rw [if_pos hself, Schematic.checkConnection, hnew, hcategory, hattributes, hp, hq, hdefect]
    rfl
  · rw [if_neg hself]
    exact (h.checkConnection_iff hc hnodes hi hsource htarget).2
      ⟨fresh_of_instance rfl (hnames .connections) hsplit, hself⟩

theorem failsIn_check (h : Mirrors doc delimiter earlier s)
    (hnames : ∀ stage, ((doc stage).map Prod.fst).Nodup) {stage : Stage}
    (hsplit : doc.inOrder = earlier ++ (stage, name, body) :: later)
    (hb : (Json.object body).Distinct) {i : Item}
    (hi : readItem delimiter s stage name body = .ok i) {supplied : List Json} :
    FailsIn stage supplied (s.check i) := by
  obtain ⟨c, rfl⟩ | rfl | rfl | rfl := stage.types_or_instances
  · rw [readItem_type] at hi
    obtain ⟨shape, hshape, rfl⟩ := map_eq_ok_iff.1 hi
    obtain ⟨-, hs⟩ := (readShape_eq_ok_iff hb).1 hshape
    refine (h.checkType_of_read hs).mono fun f hf => ?_
    obtain rfl | hf := hf
    · exact c.stage_mem_types
    · exact hs.category ▸ hf.arisesIn _
  · obtain ⟨n, hn, rfl⟩ := map_eq_ok_iff.1 hi
    exact .of_ok (h.checkNode_of_read hnames hsplit hb hn)
  · obtain ⟨k, hk, rfl⟩ := map_eq_ok_iff.1 hi
    change FailsIn _ _ (s.checkConnection name k)
    rw [h.checkConnection_of_read hnames hsplit hb hk]
    split
    · exact .error rfl
    · exact .ok _
  · obtain ⟨k, hk, rfl⟩ := map_eq_ok_iff.1 hi
    exact .of_ok (h.checkConstraint_of_read hnames hsplit hb hk)

end Mirrors

namespace Document

/-- Of what has been read from the body of an entry, what its registration may still refuse. -/
structure Agrees (delimiter : Char) (s : Schematic) (stage : Stage) (name : String)
    (body : Fields) : Prop where
  types : ∀ c, stage = Category.stage c → ∀ shape f, readShape s c body = .ok shape →
    s.addShape name shape = .error f → f = .multipleDefinition name ∨ shape.Redeclares s name f
  nodes : stage = .nodes → ∀ n, (readNode s name body).result = .ok n →
    ∃ r, s.addNode name n = .ok r
  connections : stage = .connections → ∀ k f, readConnection s delimiter body = .ok k →
    (s.addConnection name k = .error f ↔ k.source = k.target ∧ f = .verification
      ((Defect.selfConnection k.source).inside s!"connection `{name}`").message)
  constraints : stage = .constraints → ∀ k, readConstraint s body = .ok k →
    ∃ r, s.addConstraint name k = .ok r

variable {o : ReadOptions} {root earlier : Fields} {stage : Stage} {name : String} {s : Schematic}

theorem Meets.agrees {body : Fields} (h : Meets o root stage earlier name (.object body) s)
    (hdoc : (Json.object root).Distinct) : Agrees o.delimiter s stage name body := by
  obtain ⟨done, rest, hsplit, hm⟩ := h.mirrors hdoc
  have hnames := distinct_names hdoc
  have hb : (Json.object body).Distinct :=
    distinct_bodies hdoc _ (hsplit ▸ List.mem_append_right _ List.mem_cons_self)
  constructor
  · rintro c rfl shape f hshape hf
    rw [Schematic.addShape_eq] at hf
    obtain hf | ⟨_, -, hf⟩ := bind_eq_error_iff.1 hf
    · exact hm.checkType_of_read ((readShape_eq_ok_iff hb).1 hshape).2 f hf
    · cases hf
  · rintro rfl n hn
    have hcheck := hm.checkNode_of_read hnames hsplit hb hn
    exact ⟨_, Schematic.addNode_eq_ok_iff.2 ⟨hcheck, rfl, rfl⟩⟩
  · rintro rfl k f hk
    rw [Schematic.addConnection, hm.checkConnection_of_read hnames hsplit hb hk]
    by_cases hself : k.source = k.target
    · rw [if_pos hself, eq_comm (a := f)]
      exact ⟨fun hf => ⟨hself, Except.error.inj hf⟩, fun hf => congrArg _ hf.2⟩
    · rw [if_neg hself]
      refine ⟨fun hf => ?_, fun hf => absurd hf.1 hself⟩
      cases hf
  · rintro rfl k hk
    have hcheck := hm.checkConstraint_of_read hnames hsplit hb hk
    exact ⟨_, Schematic.addConstraint_eq_ok_iff.2 ⟨hcheck, rfl, rfl⟩⟩

theorem Meets.failsIn {body : Json} (h : Meets o root stage earlier name body s)
    (hdoc : (Json.object root).Distinct) : FailsIn stage (suppliedValues stage body.fieldsOf)
      (readEntry o.delimiter s stage name body).result := by
  obtain ⟨done, rest, hsplit, hm⟩ := h.mirrors hdoc
  have hb : (Json.object body.fieldsOf).Distinct :=
    distinct_bodies hdoc _ (hsplit ▸ List.mem_append_right _ List.mem_cons_self)
  cases body with
  | null | bool _ | int _ | real _ | string _ | array _ => exact .error trivial
  | object body =>
    change FailsIn stage _ (readBody o.delimiter s stage name body).result
    rw [readBody_result]
    exact .bind (failsIn_readItem hm.built.consistent hm.built.grounded _ stage name body)
      fun i hi => .bind (hm.failsIn_check (distinct_names hdoc) hsplit hb hi) fun _ _ => .ok _

/--
Wherever the reading of a document has come to, reading the body of the next entry and registering
it agree; so the cause of a failure tells of the section, and of values that no type has.
-/
theorem read_agrees_with_register (o : ReadOptions) {doc : Json} (hdoc : doc.Distinct) :
    (∀ root stage earlier name body s, doc = .object root →
      Meets o root stage earlier name (.object body) s → Agrees o.delimiter s stage name body) ∧
    ∀ stage name cause, (read o doc).result = .error (.entry stage name cause) →
      ∃ root body, doc = .object root ∧ (name, body) ∈ given stage.key root ∧
        cause.ArisesIn stage (suppliedValues stage body.fieldsOf) := by
  constructor
  · rintro root stage earlier name body s rfl hmeets
    exact hmeets.agrees hdoc
  · intro stage name cause h
    obtain ⟨root, earlier, body, s, rfl, hmeets, hcause⟩ := read_eq_entry_error_iff.1 h
    obtain ⟨later, hlisted⟩ := hmeets.listed
    refine ⟨root, body, rfl, ?_, hmeets.failsIn hdoc cause hcause⟩
    rw [given, hlisted]
    exact List.mem_append_right _ List.mem_cons_self

def rings : Json :=
  .object [
    ("schematicName", .string "rings"),
    ("portTypes", .object [("Port", .object [])]),
    ("nodeTypes", .object [("Ring", .object [("portTypes", .object [("end", .string "Port")])])]),
    ("connectionTypes", .object [("Pipe", .object [])]),
    ("nodes", .object [("r", .object [("type", .string "Ring")])]),
    ("connections", .object [
      ("loop", .object [("type", .string "Pipe"), ("from", .string "r:end"),
        ("to", .string "r:end")])])]

theorem read_agrees_with_register_rings : rings.Distinct ∧
    (∃ root earlier body s, rings = .object root ∧
      Meets {} root .connections earlier "loop" (.object body) s ∧
      Agrees ':' s .connections "loop" body) ∧
    ∃ cause, (read {} rings).result = .error (.entry .connections "loop" cause) ∧
      ∃ supplied, cause.ArisesIn .connections supplied := by
  have hdoc : rings.Distinct := by
    simp [rings, Json.Distinct, Json.DistinctFields]
  have hfails : (read {} rings).result = .error (.entry .connections "loop" (.verification
      "connection `loop`: connection from node #0, port `end` to itself")) := by
    rfl
  obtain ⟨hagrees, harises⟩ := read_agrees_with_register {} hdoc
  obtain ⟨root, earlier, body, s, hroot, hmeets, hcause⟩ := read_eq_entry_error_iff.1 hfails
  obtain ⟨_, _, -, -, hin⟩ := harises _ _ _ hfails
  refine ⟨hdoc, ?_, _, hfails, _, hin⟩
  cases body with
  | object body => exact ⟨root, earlier, body, s, hroot, hmeets, hagrees _ _ _ _ _ _ hroot hmeets⟩
  | null | bool _ | int _ | real _ | string _ | array _ => cases hcause

end Document

end Schematics

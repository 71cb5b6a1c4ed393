import Schematics.Proofs.Locality
import Schematics.Proofs.TypeRefusals

namespace Schematics

namespace Schematic

variable {s : Schematic}

def HasPort (s : Schematic) (r : PortRef) : Prop :=
  ∃ n p, s.nodeById r.node = .ok n ∧ n.ports.get? r.port = some p

structure Links (s : Schematic) (k : Connection) : Prop where
  type : s.IsType .connection k.type
  attributes : s.Fits k.type k.attributes
  source : s.HasPort k.source
  target : s.HasPort k.target
  apart : k.source ≠ k.target
  verified : ∀ e ∈ k.attributes.entries, Defect.check e.2.defect? = .ok ()

def Accepts (s : Schematic) : Item → Prop
  | .type _ _ => False
  | .node name n => (∀ id, s.nodeId name ≠ .ok id) ∧ s.NodeFits n
  | .connection name k => (∀ id, s.connectionId name ≠ .ok id) ∧ s.Links k
  | .constraint name k => (∀ id, s.constraintId name ≠ .ok id) ∧ s.ConstraintFits k

theorem checkAttributes_eq_ok_iff_fits {owner : TypeId} {values : Attributes} :
    s.checkAttributes owner values = .ok () ↔ s.Fits owner values := checkAttributes_eq_ok_iff

theorem exists_resolvePort_iff {r : PortRef} : (∃ p, s.resolvePort r = .ok p) ↔ s.HasPort r := by
  simp only [resolvePort, HasPort, bind_eq_ok_iff, portOf_eq_ok_iff]
  constructor
  · rintro ⟨p, n, hn, hp⟩
    exact ⟨n, p, hn, hp⟩
  · rintro ⟨n, p, hn, hp⟩
    exact ⟨p, n, hn, hp⟩

theorem checkNode_eq_ok_iff_fits {name : String} {n : Node} : s.checkNode name n = .ok () ↔
    s.find? s.nodes.byName name = none ∧ s.NodeFits n := by
  refine ⟨fun h => ⟨find?_of_checkNode h, nodeFits_of_check h⟩, fun ⟨hnew, hfits⟩ => ?_⟩
  obtain ⟨declared, hdeclared, hports⟩ := hfits.ports
  refine checkNode_eq_ok_iff.2 ⟨hnew, requireCategory_eq_ok_iff_isType.2 hfits.type,
    checkAttributes_eq_ok_iff_fits.2 hfits.attributes, declared, hdeclared, ?_⟩
  apply checkPorts_eq_ok_iff.2
  intro e he
  exact ⟨(hports e he).1, checkAttributes_eq_ok_iff_fits.2 (hports e he).2⟩

theorem checkConnection_eq_ok_iff_links {name : String} {k : Connection} :
    s.checkConnection name k = .ok () ↔
      s.find? s.connections.byName name = none ∧ s.Links k := by
  rw [checkConnection_eq_ok_iff, requireCategory_eq_ok_iff_isType, checkAttributes_eq_ok_iff_fits,
    exists_resolvePort_iff, exists_resolvePort_iff, Connection.defect?_eq_none_iff]
  simp only [← Defect.check_eq_ok_iff]
  constructor
  · rintro ⟨hnew, htype, hattributes, hsource, htarget, hapart, hverified⟩
    exact ⟨hnew, htype, hattributes, hsource, htarget, hapart, hverified⟩
  · rintro ⟨hnew, htype, hattributes, hsource, htarget, hapart, hverified⟩
    exact ⟨hnew, htype, hattributes, hsource, htarget, hapart, hverified⟩

theorem checkConstraint_eq_ok_iff_fits {name : String} {k : Constraint} :
    s.checkConstraint name k = .ok () ↔
      s.find? s.constraints.byName name = none ∧ s.ConstraintFits k := by
  rw [checkConstraint_eq_ok_iff, requireCategory_eq_ok_iff_isType, checkAttributes_eq_ok_iff_fits]
  exact and_congr_right fun _ => ⟨fun h => ⟨h.1, h.2⟩, fun h => ⟨h.1, h.2⟩⟩

theorem check_eq_ok_iff_accepts {i : Item} (hi : i.kind ≠ .type) :
    s.check i = .ok () ↔ s.Accepts i := by
  cases i with
  | type name shape => exact absurd rfl hi
  | node name n =>
    exact checkNode_eq_ok_iff_fits.trans (and_congr_left fun _ => forall_instanceId_ne_iff.symm)
  | connection name k =>
    exact checkConnection_eq_ok_iff_links.trans
      (and_congr_left fun _ => forall_instanceId_ne_iff.symm)
  | constraint name k =>
    exact checkConstraint_eq_ok_iff_fits.trans
      (and_congr_left fun _ => forall_instanceId_ne_iff.symm)

theorem Fits.mono {owner : TypeId} {values fewer : Attributes} (h : s.Fits owner values)
    (hsub : fewer.entries ⊆ values.entries) : s.Fits owner fewer := by
  obtain ⟨declared, hdeclared, hvalues⟩ := h
  exact ⟨declared, hdeclared, fun e he => hvalues e (hsub he)⟩

end Schematic

inductive Item.LeavesOut : Item → Item → Prop where
  | node {name : String} {n less : Node} (ht : less.type = n.type)
    (ha : less.attributes.entries ⊆ n.attributes.entries)
    (hp : ∀ e ∈ less.ports.entries, ∃ p, (e.1, p) ∈ n.ports.entries ∧ e.2.type = p.type ∧
      e.2.attributes.entries ⊆ p.attributes.entries) : LeavesOut (.node name less) (.node name n)
  | connection {name : String} {k less : Connection} (ht : less.type = k.type)
    (hs : less.source = k.source) (hd : less.target = k.target)
    (ha : less.attributes.entries ⊆ k.attributes.entries) :
    LeavesOut (.connection name less) (.connection name k)
  | constraint {name : String} {k less : Constraint} (ht : less.type = k.type)
    (ha : less.attributes.entries ⊆ k.attributes.entries) :
    LeavesOut (.constraint name less) (.constraint name k)

theorem Item.LeavesOut.kind {i less : Item} (h : less.LeavesOut i) : less.kind = i.kind := by
  cases h <;> rfl

namespace Schematic

variable {s : Schematic}

theorem nextFor_of_instance {i : Item} (hi : i.kind ≠ .type) :
    s.nextFor i = ⟨i.kind, ⟨s.count i.kind⟩⟩ := by
  cases i with
  | type name shape => exact absurd rfl hi
  | node _ _ | connection _ _ | constraint _ _ => rfl

theorem Accepts.leavesOut {i less : Item} (h : s.Accepts i) (hless : less.LeavesOut i) :
    s.Accepts less := by
  cases hless with
  | @node name n less ht ha hp =>
    obtain ⟨hnew, htype, hattributes, declared, hdeclared, hports⟩ := h
    refine ⟨hnew, ht ▸ htype, ht ▸ hattributes.mono ha, declared, ht ▸ hdeclared, fun e he => ?_⟩
    obtain ⟨p, hmem, hsame, hsub⟩ := hp e he
    obtain ⟨hport, hvalues⟩ := hports _ hmem
    rw [hsame]
    exact ⟨hport, hvalues.mono hsub⟩
  | @connection name k less ht hs hd ha =>
    obtain ⟨hnew, htype, hattributes, hsource, htarget, hapart, hverified⟩ := h
    refine ⟨hnew, ht ▸ htype, ht ▸ hattributes.mono ha, hs ▸ hsource, hd ▸ htarget, ?_,
      fun e he => hverified e (ha he)⟩
    rwa [hs, hd]
  | @constraint name k less ht ha =>
    obtain ⟨hnew, htype, hattributes⟩ := h
    exact ⟨hnew, ht ▸ htype, ht ▸ hattributes.mono ha⟩

/--
An instance is registered exactly when its name is new among those of its kind, it is of a type of
its kind and its values and ports are of the declared types; a connection, when its ends are two
ports that are there and its values are sound. Leaving out values or ports is no obstacle. The
instance then has the next handle, and nothing that does not concern it is answered differently.
-/
theorem Reachable.register_instance (h : s.Reachable) {r : Registration} (hr : r.item.kind ≠ .type) :
    ((∃ made s', s.register r = .ok (made, s')) ↔ s.Accepts r.item) ∧
    (∀ less : Registration, less.item.LeavesOut r.item → s.Accepts r.item →
      ∃ made s', s.register less = .ok (made, s')) ∧
    ∀ made s', s.register r = .ok (made, s') →
      made = ⟨r.item.kind, ⟨s.count r.item.kind⟩⟩ ∧ s.Adds s' r.item made := by
  have hiff {r : Registration} (hr : r.item.kind ≠ .type) :
      (∃ made s', s.register r = .ok (made, s')) ↔ s.Accepts r.item := by
    have hk : r.WellKinded := by
      cases r with
      | userDefinedType name shape => exact absurd rfl hr
      | _ => trivial
    rw [← check_eq_ok_iff_accepts hr]
    constructor
    · rintro ⟨made, s', hok⟩
      exact (register_eq_ok_iff.1 hok).2.1
    · intro hi
      exact ⟨_, _, register_eq_ok_iff.2 ⟨hk, hi, rfl, rfl⟩⟩
  refine ⟨hiff hr, fun less hless haccepts => ?_, fun made s' hok => ?_⟩
  · have hkind : less.item.kind ≠ .type := hless.kind ▸ hr
    exact (hiff hkind).2 (haccepts.leavesOut hless)
  · obtain ⟨-, -, rfl, -⟩ := register_eq_ok_iff.1 hok
    exact ⟨nextFor_of_instance hr, h.built.adds_of_register hok⟩

def pumps : Schematic :=
  (new "pumps").run
    [.userDefinedType "Stages" (.array BaseType.int),
      .portType "Flange" {},
      .nodeType "Pump"
        { attributes := .ofList [("stages", ⟨5⟩)], ports := .ofList [("a", ⟨6⟩), ("b", ⟨6⟩)] },
      .connectionType "Pipe" { attributes := .ofList [("stages", ⟨5⟩)] },
      .node "p" ⟨⟨7⟩, .ofList [("stages", .array ⟨5⟩ BaseType.int [.string "low"])],
        .ofList [("a", ⟨⟨6⟩, ∅⟩), ("b", ⟨⟨6⟩, ∅⟩)]⟩]

theorem register_instance_pumps :
    let stages : Attributes := .ofList [("stages", .array ⟨5⟩ BaseType.int [.string "low"])]
    let q : Node := ⟨⟨7⟩, stages, .ofList [("a", ⟨⟨6⟩, ∅⟩)]⟩
    pumps.Reachable ∧ pumps.Accepts (.node "q" q) ∧
    (∃ made s', pumps.register (.node "q" ⟨⟨7⟩, ∅, ∅⟩) = .ok (made, s')) ∧
    pumps.Adds (pumps.recordNode "q" q) (.node "q" q) ⟨.node, ⟨1⟩⟩ ∧
    ¬pumps.Accepts (.connection "k" ⟨⟨8⟩, ⟨⟨0⟩, "a"⟩, ⟨⟨0⟩, "b"⟩, stages⟩) ∧
    pumps.Accepts (.connection "k" ⟨⟨8⟩, ⟨⟨0⟩, "a"⟩, ⟨⟨0⟩, "b"⟩, ∅⟩) := by
  intro stages q
  have h : pumps.Reachable := ⟨_, _, rfl⟩
  have hok : pumps.register (.node "q" q) = .ok (⟨.node, ⟨1⟩⟩, pumps.recordNode "q" q) := rfl
  obtain ⟨hnode, hfewer, hmade⟩ := Reachable.register_instance h (r := .node "q" q) nofun
  obtain ⟨hfaulty, -, -⟩ := Reachable.register_instance h
    (r := .connection "k" ⟨⟨8⟩, ⟨⟨0⟩, "a"⟩, ⟨⟨0⟩, "b"⟩, stages⟩) nofun
  obtain ⟨hsound, -, -⟩ := Reachable.register_instance h
    (r := .connection "k" ⟨⟨8⟩, ⟨⟨0⟩, "a"⟩, ⟨⟨0⟩, "b"⟩, ∅⟩) nofun
  have haccepts := hnode.1 ⟨_, _, hok⟩
  refine ⟨h, haccepts, ?_, (hmade _ _ hok).2, fun hk => ?_, hsound.1 ⟨_, _, rfl⟩⟩
  · exact hfewer (.node "q" ⟨⟨7⟩, ∅, ∅⟩) (.node rfl (fun _ => nofun) fun _ => nofun) haccepts
  · obtain ⟨made, s', hs⟩ := hfaulty.2 hk
    exact nomatch hs

end Schematic

end Schematics

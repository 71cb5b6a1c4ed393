import Schematics.Proofs.EndpointTexts

namespace Schematics

variable {s : Schematic} {d : Char} {text text' : String} {r : PortRef} {f : Fault}

namespace Endpoint

variable {e : Endpoint}

theorem toList_write (d : Char) (e : Endpoint) :
    (e.write d).toList = e.node.toList ++ d :: e.port.toList := by
  simp [write, toString, String.toList_append]

theorem Splits.eq_write (h : e.Splits d text) : text = e.write d :=
  String.toList_inj.1 (h.text.trans (toList_write d e).symm)

theorem splits_write (hfirst : d ∉ e.node.toList) (hnode : e.node ≠ "") (hport : e.port ≠ "") :
    e.Splits d (e.write d) := ⟨toList_write d e, hfirst, hnode, hport⟩

theorem parse_eq_error_iff : parse text d = .error f ↔ (∀ e : Endpoint, ¬e.Splits d text) ∧
    f = .malformed s!"endpoint `{text}` must have the form `node{d}port`" := by
  have hsplits : (∀ e : Endpoint, ¬e.Splits d text) ↔ ∀ e, parse text d ≠ .ok e :=
    forall_congr' fun e => not_congr parse_eq_ok_iff.symm
  rw [hsplits, parse]
  split
  · exact iff_of_false nofun fun h => h.1 _ rfl
  · rw [Except.error.injEq, eq_comm]
    exact ⟨fun h => ⟨nofun, h⟩, And.right⟩

end Endpoint

namespace Schematic

variable {e : Endpoint} {id : NodeId} {name : String}

def Reaches (s : Schematic) (e : Endpoint) (r : PortRef) : Prop :=
  ∃ n p, Ledger.row? s.ledger.nodes r.node = some (e.node, n) ∧ n.ports.get? e.port = some p ∧
    r.port = e.port

inductive Misses (s : Schematic) (d : Char) (text : String) : Fault → Prop
  | malformed (h : ∀ e : Endpoint, ¬e.Splits d text) :
    Misses s d text (.malformed s!"endpoint `{text}` must have the form `node{d}port`")
  | node {e : Endpoint} (h : e.Splits d text) (hn : e.node ∉ s.ledger.nodes.map Prod.fst) :
    Misses s d text (.undeclared .node e.node)
  | port {e : Endpoint} {id : NodeId} {n : Node} (h : e.Splits d text)
    (hn : Ledger.row? s.ledger.nodes id = some (e.node, n)) (hp : n.ports.get? e.port = none) :
    Misses s d text (.undeclared .port e.port)

theorem Consistent.nodeId_eq_error_iff (h : s.Consistent) : s.nodeId name = .error f ↔
    name ∉ s.ledger.nodes.map Prod.fst ∧ f = .undeclared .node name := by
  have hask : s.nodeId name = _ := h.ask_eq (.nodeId name)
  rw [hask, Ledger.ask, ← Ledger.handle?_eq_none_iff (κ := .node)]
  cases hid : (Ledger.handle? s.ledger.nodes name : Option NodeId) with
  | none => exact ⟨fun hf => ⟨rfl, (Except.error.inj hf).symm⟩, fun hf => hf.2 ▸ rfl⟩
  | some id =>
    constructor
    · intro hf
      cases hf
    · rintro ⟨hnone, -⟩
      cases hnone

theorem portOf_eq_error_iff {n : Node} {port : String} : portOf n port = .error f ↔
    n.ports.get? port = none ∧ f = .undeclared .port port := by
  unfold portOf
  cases n.ports.get? port with
  | none => exact ⟨fun hf => ⟨rfl, (Except.error.inj hf).symm⟩, fun hf => hf.2 ▸ rfl⟩
  | some p => exact iff_of_false nofun fun hf => nomatch hf.1

theorem Consistent.resolveEndpoint_eq_ok_iff (h : s.Consistent) :
    s.resolveEndpoint text d = .ok r ↔ ∃ e, e.Splits d text ∧ s.Reaches e r := by
  rw [Schematic.resolveEndpoint_eq_ok_iff]
  constructor
  · rintro ⟨e, n, p, he, hid, hn, hp, hport⟩
    obtain ⟨n', hrow⟩ := h.nodeId_eq_ok_iff.1 hid
    obtain ⟨_, hrow'⟩ := (nodeById_eq_ok_iff h).1 hn
    obtain ⟨rfl, rfl⟩ := Prod.mk.inj (Option.some.inj (hrow.symm.trans hrow'))
    exact ⟨e, he, n', p, hrow, hport ▸ hp, hport⟩
  · rintro ⟨e, he, n, p, hrow, hp, hport⟩
    exact ⟨e, n, p, he, h.nodeId_eq_ok_iff.2 ⟨n, hrow⟩, (nodeById_eq_ok_iff h).2 ⟨_, hrow⟩,
      hport ▸ hp, hport⟩

theorem Consistent.resolveEndpoint_eq_error_iff (h : s.Consistent) :
    s.resolveEndpoint text d = .error f ↔ s.Misses d text f := by
  simp only [resolveEndpoint, bind_eq_error_iff, Endpoint.parse_eq_error_iff,
    Endpoint.parse_eq_ok_iff, h.nodeId_eq_error_iff, h.nodeId_eq_ok_iff, portOf_eq_error_iff]
  constructor
  · rintro (⟨hsplits, rfl⟩ | ⟨e, he, ⟨hnode, rfl⟩ | ⟨id, ⟨n, hrow⟩, hid | ⟨n', hn', ⟨hp, rfl⟩ | hr⟩⟩⟩)
    · exact .malformed hsplits
    · exact .node he hnode
    · rw [(nodeById_eq_ok_iff h).2 ⟨_, hrow⟩] at hid
      cases hid
    · rw [(nodeById_eq_ok_iff h).2 ⟨_, hrow⟩] at hn'
      obtain rfl := Except.ok.inj hn'
      exact .port he hrow hp
    · obtain ⟨_, -, hr⟩ := hr
      cases hr
  · rintro (hsplits | ⟨he, hnode⟩ | ⟨he, hrow, hp⟩)
    · exact .inl ⟨hsplits, rfl⟩
    · exact .inr ⟨_, he, .inl ⟨hnode, rfl⟩⟩
    · exact .inr ⟨_, he, .inr ⟨_, ⟨_, hrow⟩, .inr
        ⟨_, (nodeById_eq_ok_iff h).2 ⟨_, hrow⟩, .inl ⟨hp, rfl⟩⟩⟩⟩

theorem Reaches.nodeName (h : s.Consistent) (hr : s.Reaches e r) : s.nodeName r.node = .ok e.node := by
  obtain ⟨n, _, hrow, -⟩ := hr
  exact h.nodeName_eq_ok_iff.2 ⟨n, hrow⟩

theorem Reaches.unique (h : s.Consistent) {e' : Endpoint} (hr : s.Reaches e r)
    (hr' : s.Reaches e' r) : e = e' := by
  have hname : e.node = e'.node := Except.ok.inj ((hr.nodeName h).symm.trans (hr'.nodeName h))
  obtain ⟨_, _, -, -, hport⟩ := hr
  obtain ⟨_, _, -, -, hport'⟩ := hr'
  obtain ⟨node, port⟩ := e
  obtain ⟨node', port'⟩ := e'
  exact congrArg₂ Endpoint.mk hname (hport.symm.trans hport')

theorem Consistent.reaches_iff (h : s.Consistent) : s.Reaches ⟨name, r.port⟩ r ↔
    s.nodeName r.node = .ok name ∧ ∃ p, s.resolvePort r = .ok p := by
  simp only [Reaches, resolvePort, bind_eq_ok_iff, h.nodeName_eq_ok_iff, nodeById_eq_ok_iff h,
    portOf_eq_ok_iff]
  constructor
  · rintro ⟨n, p, hrow, hp, -⟩
    exact ⟨⟨n, hrow⟩, p, n, ⟨name, hrow⟩, hp⟩
  · rintro ⟨⟨n, hrow⟩, p, n', ⟨_, hrow'⟩, hp⟩
    obtain ⟨-, rfl⟩ := Prod.mk.inj (Option.some.inj (hrow.symm.trans hrow'))
    exact ⟨n, p, hrow, hp, trivial⟩

/--
A text is resolved exactly when it writes a registered node's name without the delimiter, the
delimiter and one of the node's ports. Each such port has one text, which can be told from the handle
of the node; a text that is not resolved has the fault of the first part that leads nowhere.
-/
theorem Reachable.endpoints_resolve (hs : s.Reachable) (d : Char) :
    (∀ text r, s.resolveEndpoint text d = .ok r ↔ ∃ e, e.Splits d text ∧ s.Reaches e r) ∧
    (∀ text r, s.resolveEndpoint text d = .ok r → ∃ name n p, s.nodeName r.node = .ok name ∧
      s.nodeId name = .ok r.node ∧ s.nodeById r.node = .ok n ∧ n.ports.get? r.port = some p ∧
      s.resolvePort r = .ok p ∧ text = Endpoint.write d ⟨name, r.port⟩) ∧
    (∀ text text' r, s.resolveEndpoint text d = .ok r → s.resolveEndpoint text' d = .ok r →
      text = text') ∧
    (∀ r name p, s.nodeName r.node = .ok name → s.resolvePort r = .ok p → name ≠ "" →
      d ∉ name.toList → r.port ≠ "" → ∃! text, s.resolveEndpoint text d = .ok r) ∧
    ∀ text f, s.resolveEndpoint text d = .error f ↔ s.Misses d text f := by
  have h := hs.built.consistent
  have hunique {text text' : String} {r : PortRef} (ht : s.resolveEndpoint text d = .ok r)
      (ht' : s.resolveEndpoint text' d = .ok r) : text = text' := by
    obtain ⟨e, he, hr⟩ := h.resolveEndpoint_eq_ok_iff.1 ht
    obtain ⟨e', he', hr'⟩ := h.resolveEndpoint_eq_ok_iff.1 ht'
    obtain rfl := hr.unique h hr'
    exact he.eq_write.trans he'.eq_write.symm
  refine ⟨fun _ _ => h.resolveEndpoint_eq_ok_iff, fun text r ht => ?_, fun _ _ _ => hunique,
    fun r name p hname hp hne hfirst hport => ?_, fun _ _ => h.resolveEndpoint_eq_error_iff⟩
  · obtain ⟨⟨name, port⟩, he, n, p, hrow, hp, rfl⟩ := h.resolveEndpoint_eq_ok_iff.1 ht
    have hn := (nodeById_eq_ok_iff h).2 ⟨name, hrow⟩
    exact ⟨name, n, p, h.nodeName_eq_ok_iff.2 ⟨n, hrow⟩, h.nodeId_eq_ok_iff.2 ⟨n, hrow⟩, hn, hp,
      bind_eq_ok_iff.2 ⟨n, hn, portOf_eq_ok_iff.2 hp⟩, he.eq_write⟩
  · have hr : s.Reaches ⟨name, r.port⟩ r := h.reaches_iff.2 ⟨hname, p, hp⟩
    have hwrite := h.resolveEndpoint_eq_ok_iff.2 ⟨_, Endpoint.splits_write hfirst hne hport, hr⟩
    exact ⟨_, hwrite, fun _ ht => hunique ht hwrite⟩

def jetties : Schematic :=
  (new "jetties").run
    [.portType "Berth" {},
      .nodeType "Quay" { ports := .ofList [("2:a", ⟨5⟩), ("a", ⟨5⟩)] },
      .node "north" ⟨⟨6⟩, ∅, .ofList [("2:a", ⟨⟨5⟩, ∅⟩), ("a", ⟨⟨5⟩, ∅⟩)]⟩,
      .node "north:2" ⟨⟨6⟩, ∅, .ofList [("a", ⟨⟨5⟩, ∅⟩)]⟩]

theorem endpoints_resolve_jetties : jetties.Reachable ∧
    jetties.resolveEndpoint "north:2:a" ':' = .ok ⟨⟨0⟩, "2:a"⟩ ∧
    (∃ name, jetties.nodeName ⟨0⟩ = .ok name ∧ "north:2:a" = Endpoint.write ':' ⟨name, "2:a"⟩) ∧
    (∃! text, jetties.resolveEndpoint text '.' = .ok ⟨⟨1⟩, "a"⟩) ∧
    jetties.Misses ':' "south:a" (.undeclared .node "south") := by
  have h : jetties.Reachable := ⟨_, _, rfl⟩
  have hok : jetties.resolveEndpoint "north:2:a" ':' = .ok ⟨⟨0⟩, "2:a"⟩ := rfl
  obtain ⟨-, hback, -, -, hmisses⟩ := h.endpoints_resolve ':'
  obtain ⟨name, -, -, hname, -, -, -, -, htext⟩ := hback _ _ hok
  obtain ⟨-, -, -, hone, -⟩ := h.endpoints_resolve '.'
  exact ⟨h, hok, ⟨name, hname, htext⟩,
    hone ⟨⟨1⟩, "a"⟩ "north:2" ⟨⟨5⟩, ∅⟩ rfl rfl (by decide) (by decide) (by decide),
    (hmisses "south:a" _).1 rfl⟩

end Schematic

end Schematics

import Schematics.Proofs.Ancestry
import Schematics.Proofs.InstanceChecks

namespace Schematics

namespace Schematic

variable {s : Schematic} {sub super : TypeId} {d : TypeDef} {line : List (TypeId × TypeDef)}
  {own : Shape → NameMap TypeId} {effective : TypeId → Except Fault (NameMap TypeId)}

def Declares (s : Schematic) (own : Shape → NameMap TypeId) (id : TypeId) (member : String)
    (t : TypeId) : Prop := ∃ d, s.typeDefinition id = .ok d ∧ (own d.shape).Says member t

structure Inherits (s : Schematic) (own : Shape → NameMap TypeId)
    (effective : TypeId → Except Fault (NameMap TypeId)) (chain : List TypeId)
    (members : NameMap TypeId) : Prop where
  union : ∀ member t, members.get? member = some t ↔ ∃ id ∈ chain, s.Declares own id member t
  agree : ∀ id ∈ chain, ∀ id' ∈ chain, ∀ member t t',
    s.Declares own id member t → s.Declares own id' member t' → t = t'
  contained : ∀ super ∈ chain, ∃ inherited, effective super = .ok inherited ∧
    ∀ member t, inherited.get? member = some t → members.get? member = some t

structure Substitutes (s : Schematic) (sub super : TypeId) : Prop where
  node : ∀ (n : Node) name other, n.type = super → (∃ r, s.addNode name n = .ok r) →
    (∀ id, s.nodeId other ≠ .ok id) → ∃ r, s.addNode other { n with type := sub } = .ok r
  connection : ∀ (k : Connection) name other, k.type = super →
    (∃ r, s.addConnection name k = .ok r) → (∀ id, s.connectionId other ≠ .ok id) →
      ∃ r, s.addConnection other { k with type := sub } = .ok r
  constraint : ∀ (k : Constraint) name other, k.type = super →
    (∃ r, s.addConstraint name k = .ok r) → (∀ id, s.constraintId other ≠ .ok id) →
      ∃ r, s.addConstraint other { k with type := sub } = .ok r

theorem declares_iff {id : TypeId} (hd : s.type? id = some d) {member : String} {t : TypeId} :
    s.Declares own id member t ↔ (own d.shape).Says member t := by
  simp only [Declares, typeDefinition_of_type? hd, Except.ok.injEq, exists_eq_left']

theorem Grounded.inherits (h : s.Grounded) (hl : s.lineage sub = .ok line)
    (hagree : NameMap.Agree (line.map fun link => own link.2.shape))
    (heffective : ∀ id line', s.lineage id = .ok line' → (∀ link ∈ line', link ∈ line) →
      effective id = .ok (.merge (line'.map fun link => own link.2.shape))) :
    s.Inherits own effective (line.map Prod.fst)
      (.merge (line.map fun link => own link.2.shape)) := by
  obtain ⟨d, hd⟩ := exists_type?_of_lineage hl
  have hdeclares : ∀ link ∈ line, ∀ member t,
      s.Declares own link.1 member t ↔ (own link.2.shape).Says member t :=
    fun link hlink _ _ => declares_iff (h.lineage_registered hd hl link hlink).1
  constructor
  · intro member t
    rw [hagree.get?_merge_iff]
    constructor
    · rintro ⟨_, hm, ht⟩
      obtain ⟨link, hlink, rfl⟩ := List.mem_map.1 hm
      exact ⟨link.1, List.mem_map_of_mem hlink, (hdeclares link hlink _ _).2 ht⟩
    · rintro ⟨_, hid, ht⟩
      obtain ⟨link, hlink, rfl⟩ := List.mem_map.1 hid
      exact ⟨_, List.mem_map_of_mem hlink, (hdeclares link hlink _ _).1 ht⟩
  · intro id hid id' hid' member t t' ht ht'
    obtain ⟨link, hlink, rfl⟩ := List.mem_map.1 hid
    obtain ⟨link', hlink', rfl⟩ := List.mem_map.1 hid'
    exact hagree _ (List.mem_map_of_mem hlink) _ (List.mem_map_of_mem hlink') member t t'
      ((hdeclares link hlink _ _).1 ht) ((hdeclares link' hlink' _ _).1 ht')
  · intro super hsuper
    obtain ⟨link, hlink, rfl⟩ := List.mem_map.1 hsuper
    obtain ⟨line', hl', hsuffix⟩ := h.lineage_suffix hl link hlink
    have hsub : ∀ m ∈ line'.map fun link => own link.2.shape,
        m ∈ line.map fun link => own link.2.shape := List.map_subset _ hsuffix.subset
    refine ⟨_, heffective link.1 line' hl' hsuffix.subset, fun member t ht => ?_⟩
    obtain ⟨m, hm, ht⟩ := (hagree.mono hsub).get?_merge_iff.1 ht
    exact hagree.get?_merge_iff.2 ⟨m, hsub m hm, ht⟩

theorem Built.inherits_attributes (h : s.Built) (hl : s.lineage sub = .ok line) :
    s.Inherits Shape.attributes s.effectiveAttributes (line.map Prod.fst)
      (inheritAttributes line) := by
  rw [inheritAttributes_eq]
  refine h.grounded.inherits hl (h.agree_attributes hl) fun id line' hl' _ => ?_
  rw [effectiveAttributes, hl', ← inheritAttributes_eq]
  rfl

theorem Built.inherits_ports (h : s.Built) (hl : s.lineage sub = .ok line)
    (hnode : ∀ link ∈ line, link.2.category = .node) :
    s.Inherits Shape.ownPorts s.effectivePorts (line.map Prod.fst)
      (.merge (line.map fun link => link.2.shape.ownPorts)) := by
  refine h.grounded.inherits hl (h.agree_ports hl) fun id line' hl' hsub => ?_
  rw [effectivePorts, hl', ok_bind]
  exact inheritPorts_eq fun link hlink => hnode link (hsub link hlink)

theorem Inherits.checkAttributes {chain : List TypeId} {attributes : NameMap TypeId}
    (h : s.Inherits Shape.attributes s.effectiveAttributes chain attributes)
    (hsub : s.effectiveAttributes sub = .ok attributes) (hsuper : super ∈ chain)
    {values : Attributes} (hv : s.checkAttributes super values = .ok ()) :
    s.checkAttributes sub values = .ok () := by
  obtain ⟨inherited, hi, hcontained⟩ := h.contained super hsuper
  obtain ⟨declared, hdeclared, hvalues⟩ := checkAttributes_eq_ok_iff.1 hv
  obtain rfl := Except.ok.inj (hi.symm.trans hdeclared)
  refine checkAttributes_eq_ok_iff.2 ⟨attributes, hsub, fun e he => ?_⟩
  obtain ⟨t, ht, htype⟩ := hvalues e he
  exact ⟨t, hcontained e.1 t ht, htype⟩

theorem Inherits.checkPorts {chain : List TypeId} {ports : NameMap TypeId}
    (h : s.Inherits Shape.ownPorts s.effectivePorts chain ports) (hsuper : super ∈ chain)
    {name : String} (other : String) {declared : NameMap TypeId} (hi : s.effectivePorts super = .ok declared)
    {given : NameMap Port} (hp : s.checkPorts name declared given = .ok ()) :
    s.checkPorts other ports given = .ok () := by
  obtain ⟨inherited, hi', hcontained⟩ := h.contained super hsuper
  obtain rfl := Except.ok.inj (hi.symm.trans hi')
  refine checkPorts_eq_ok_iff.2 fun e he => ?_
  obtain ⟨htype, hattributes⟩ := checkPorts_eq_ok_iff.1 hp e he
  exact ⟨hcontained e.1 _ htype, hattributes⟩

theorem Built.substitutes (h : s.Built) (hd : s.type? sub = some d)
    (hl : s.lineage sub = .ok line) (hsuper : super ∈ line.map Prod.fst) :
    s.Substitutes sub super := by
  have hregistered := h.grounded.lineage_registered hd hl
  have hcategory {c : Category} (hc : s.requireCategory c super = .ok ()) :
      s.requireCategory c sub = .ok () ∧ d.category = c := by
    obtain ⟨link, hlink, rfl⟩ := List.mem_map.1 hsuper
    obtain ⟨d', hd', rfl⟩ := requireCategory_eq_ok_iff.1 hc
    obtain ⟨hlink', hsame⟩ := hregistered link hlink
    obtain rfl := Option.some.inj (hd'.symm.trans hlink')
    exact ⟨requireCategory_eq_ok_iff.2 ⟨d, hd, hsame.symm⟩, hsame.symm⟩
  have hattributes {values : Attributes} (hv : s.checkAttributes super values = .ok ()) :
      s.checkAttributes sub values = .ok () :=
    (h.inherits_attributes hl).checkAttributes (by rw [effectiveAttributes, hl]; rfl) hsuper hv
  constructor
  · rintro n name other rfl ⟨r, hr⟩ hother
    obtain ⟨hcheck, -⟩ := addNode_eq_ok_iff.1 hr
    obtain ⟨-, hc, ha, declared, hi, hp⟩ := checkNode_eq_ok_iff.1 hcheck
    obtain ⟨hc', hnode⟩ := hcategory hc
    have hnodes : ∀ link ∈ line, link.2.category = .node :=
      fun link hlink => (hregistered link hlink).2.trans hnode
    have hports := (h.inherits_ports hl hnodes).checkPorts hsuper other hi hp
    refine ⟨_, addNode_eq_ok_iff.2 ⟨checkNode_eq_ok_iff.2 ⟨forall_instanceId_ne_iff.1 hother, hc',
      hattributes ha, _, ?_, hports⟩, rfl, rfl⟩⟩
    rw [effectivePorts, hl, ok_bind]
    exact inheritPorts_eq hnodes
  · rintro k name other rfl ⟨r, hr⟩ hother
    obtain ⟨hcheck, -⟩ := addConnection_eq_ok_iff.1 hr
    obtain ⟨-, hc, ha, hs, ht, hdefect⟩ := checkConnection_eq_ok_iff.1 hcheck
    exact ⟨_, addConnection_eq_ok_iff.2 ⟨checkConnection_eq_ok_iff.2
      ⟨forall_instanceId_ne_iff.1 hother, (hcategory hc).1, hattributes ha, hs, ht, hdefect⟩,
      rfl, rfl⟩⟩
  · rintro k name other rfl ⟨r, hr⟩ hother
    obtain ⟨hcheck, -⟩ := addConstraint_eq_ok_iff.1 hr
    obtain ⟨-, hc, ha⟩ := checkConstraint_eq_ok_iff.1 hcheck
    exact ⟨_, addConstraint_eq_ok_iff.2 ⟨checkConstraint_eq_ok_iff.2
      ⟨forall_instanceId_ne_iff.1 hother, (hcategory hc).1, hattributes ha⟩, rfl, rfl⟩⟩

/--
The attributes of a type, and the ports of a node type, are those declared on its chain, where no two
types differ, in whatever order they are put together; and an instance of any type on the chain can
be registered as one of the type.
-/
theorem Reachable.inherits_and_substitutes (h : s.Reachable) {sub : TypeId} {d : TypeDef}
    (hd : s.typeDefinition sub = .ok d) : ∃ chain, s.supertypeChain sub = .ok chain ∧
      (∃ attributes, s.effectiveAttributes sub = .ok attributes ∧
        s.Inherits Shape.attributes s.effectiveAttributes chain attributes ∧
        ∀ line line', s.lineage sub = .ok line → line'.Perm line →
          inheritAttributes line' = attributes) ∧
      (d.category = .node → ∃ ports, s.effectivePorts sub = .ok ports ∧
        s.Inherits Shape.ownPorts s.effectivePorts chain ports ∧
        ∀ line line', s.lineage sub = .ok line → line'.Perm line →
          inheritPorts line' = .ok ports) ∧
      ∀ super ∈ chain, s.Substitutes sub super := by
  have hb := h.built
  have htype := typeDefinition_eq_ok_iff.1 hd
  obtain ⟨above, habove⟩ := hb.grounded.exists_above htype
  have hl := habove.lineage
  refine ⟨_, by rw [supertypeChain, hl]; rfl, ⟨_, by rw [effectiveAttributes, hl]; rfl,
    hb.inherits_attributes hl, fun line line' hline hperm => ?_⟩, fun hnode => ?_,
    fun super hsuper => hb.substitutes htype hl hsuper⟩
  · obtain rfl := Except.ok.inj (hl.symm.trans hline)
    rw [inheritAttributes_eq, inheritAttributes_eq]
    exact (hb.agree_attributes hl).merge_perm (hperm.map _)
  · have hnodes : ∀ link ∈ (sub, d) :: above, link.2.category = .node :=
      fun link hlink => (hb.grounded.lineage_registered htype hl link hlink).2.trans hnode
    refine ⟨_, by rw [effectivePorts, hl, ok_bind]; exact inheritPorts_eq hnodes,
      hb.inherits_ports hl hnodes, fun line line' hline hperm => ?_⟩
    obtain rfl := Except.ok.inj (hl.symm.trans hline)
    rw [inheritPorts_eq fun link hlink => hnodes link (hperm.mem_iff.1 hlink)]
    exact congrArg _ ((hb.agree_ports hl).merge_perm (hperm.map _))

def furnaces : Schematic :=
  (new "furnaces").run
    [.portType "Fluid" {},
      .nodeType "Vessel" { attributes := .ofList [("volume", BaseType.int)],
                           ports := .ofList [("in", ⟨5⟩)] },
      .nodeType "Furnace" { attributes := .ofList [("heat", BaseType.real)],
                            ports := .ofList [("in", ⟨5⟩), ("out", ⟨5⟩)], supertype := some ⟨6⟩ }]

def vessel (type : TypeId) : Node :=
  ⟨type, .ofList [("volume", .int 40)], .ofList [("in", ⟨⟨5⟩, ∅⟩)]⟩

theorem inherits_and_substitutes_furnaces : furnaces.Reachable ∧
    furnaces.typeDefinition ⟨7⟩ = .ok ⟨some ⟨7⟩, .node
      { attributes := .ofList [("heat", BaseType.real)],
        ports := .ofList [("in", ⟨5⟩), ("out", ⟨5⟩)], supertype := some ⟨6⟩ }⟩ ∧
    (∃ attributes, furnaces.effectiveAttributes ⟨7⟩ = .ok attributes ∧
      furnaces.Inherits Shape.attributes furnaces.effectiveAttributes [⟨7⟩, ⟨6⟩] attributes) ∧
    (∃ r, furnaces.addNode "v" (vessel ⟨6⟩) = .ok r) ∧
    ∃ r, furnaces.addNode "f" (vessel ⟨7⟩) = .ok r := by
  have h : furnaces.Reachable := ⟨_, _, rfl⟩
  have hd : furnaces.typeDefinition ⟨7⟩ = .ok ⟨some ⟨7⟩, .node
      { attributes := .ofList [("heat", BaseType.real)],
        ports := .ofList [("in", ⟨5⟩), ("out", ⟨5⟩)], supertype := some ⟨6⟩ }⟩ := rfl
  have hv : ∃ r, furnaces.addNode "v" (vessel ⟨6⟩) = .ok r := ⟨_, rfl⟩
  have hnew : ∀ id, furnaces.nodeId "f" ≠ .ok id := fun id hid => nomatch hid
  obtain ⟨chain, hchain, ⟨attributes, ha, hinherits, -⟩, -, hsubstitutes⟩ :=
    h.inherits_and_substitutes hd
  obtain rfl : [⟨7⟩, ⟨6⟩] = chain := Except.ok.inj hchain
  refine ⟨h, hd, ⟨attributes, ha, hinherits⟩, hv, ?_⟩
  exact (hsubstitutes ⟨6⟩ (by decide)).node _ "v" "f" rfl hv hnew

end Schematic

end Schematics

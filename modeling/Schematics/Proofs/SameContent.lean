import Schematics.Proofs.Rendering

namespace Schematics

theorem mapM_congr {ε α β : Type} {f g : α → Except ε β} {l : List α} (h : ∀ a ∈ l, f a = g a) :
    l.mapM f = l.mapM g := by
  induction l with
  | nil => rfl
  | cons a rest ih =>
    obtain ⟨ha, hrest⟩ := List.forall_mem_cons.1 h
    rw [List.mapM_cons, List.mapM_cons, ha, ih hrest]

namespace Schematic

variable {s s' : Schematic}

structure Link where
  type : TypeId
  attributes : Attributes
  source : Except Fault String
  target : Except Fault String

def link (s : Schematic) (k : Connection) : Link :=
  ⟨k.type, k.attributes, s.endpointText k.source, s.endpointText k.target⟩

structure SameContent (s s' : Schematic) : Prop where
  name : s'.name = s.name
  types : s'.ledger.types = s.ledger.types
  nodes : s'.nodesByName = s.nodesByName
  connections : s'.connectionsByName.map s'.link = s.connectionsByName.map s.link
  constraints : s'.constraintsByName = s.constraintsByName

def linkLine (typeName : TypeId → Except Fault String) (name : String) (l : Link) :
    Except Fault String := do
  let t ← typeName l.type
  let source ← l.source
  let target ← l.target
  pure (line s!"  {name}: {t} {source} -> {target} {braced l.attributes}")

def linkJson (typeName : TypeId → Except Fault String) (l : Link) : Except Fault Json := do
  let t ← typeName l.type
  let source ← l.source
  let target ← l.target
  pure (.object
    [("type", .string t), ("from", .string source), ("to", .string target),
      ("attributes", attributesJson l.attributes)])

theorem connectionLines_eq (s : Schematic) :
    s.connectionsByName.entries.mapM (fun e => s.connectionLine e.1 e.2) =
      (s.connectionsByName.map s.link).entries.mapM fun e => linkLine s.typeName e.1 e.2 := by
  rw [NameMap.map, List.mapM_map]
  rfl

theorem named_connectionJson_eq (s : Schematic) :
    named s.connectionJson s.connectionsByName =
      named (linkJson s.typeName) (s.connectionsByName.map s.link) := by
  rw [named, named, NameMap.map, List.mapM_map]
  rfl

namespace SameContent

theorem typeName_eq (h : s.SameContent s') (hs : s.Consistent) (hs' : s'.Consistent) :
    s'.typeName = s.typeName := by
  funext id
  rw [hs.typeName_eq_found, hs'.typeName_eq_found, h.types]

theorem describe_eq (h : s.SameContent s') (hs : s.Consistent) (hs' : s'.Consistent) :
    s'.describe = s.describe := by
  funext id
  rw [describe, describe, h.typeName_eq hs hs']

theorem keepsTypes (h : s.SameContent s') (hs : s.Consistent) (hs' : s'.Consistent) :
    s.KeepsTypes s' := by
  refine ⟨fun id d hd => ?_⟩
  rw [hs.type?_eq_some_iff_row] at hd
  rw [hs'.type?_eq_some_iff_row, h.types]
  exact hd

theorem typeList_eq (h : s.SameContent s') (hs : s.Consistent) (hs' : s'.Consistent) :
    s'.typeList = s.typeList := by
  rw [hs.typeList_eq, hs'.typeList_eq, Ledger.typeList, Ledger.typeList, h.types]

theorem shapeText_eq (h : s.SameContent s') (hs : s.Consistent) (hs' : s'.Consistent) :
    s'.shapeText = s.shapeText := by
  funext shape
  unfold shapeText
  rw [h.describe_eq hs hs']

theorem memberLines_eq (h : s.SameContent s') (hs : s.Consistent) (hs' : s'.Consistent) :
    s'.memberLines = s.memberLines := by
  funext label members
  rw [memberLines, memberLines, h.describe_eq hs hs']

theorem typeLines_eq (h : s.SameContent s') (hs : s.Built) (hs' : s'.Built) {id : TypeId}
    {name : String} {d : TypeDef} (ht : (id, name, d) ∈ s.typeList) :
    s'.typeLines id name d = s.typeLines id name d := by
  have hkeeps := h.keepsTypes hs.consistent hs'.consistent
  have hshape := h.shapeText_eq hs.consistent hs'.consistent
  have hmembers := h.memberLines_eq hs.consistent hs'.consistent
  rw [hs.consistent.typeList_eq, mem_typeList] at ht
  obtain ⟨shape, hrow, rfl⟩ := ht
  have hd : s.type? id = some ⟨some id, shape⟩ :=
    hs.consistent.type?_eq_some_iff_row.2 ⟨name, hrow, rfl⟩
  obtain ⟨attributes, ha⟩ := hs.grounded.exists_effectiveAttributes hd
  have ha' := hkeeps.effectiveAttributes hs.grounded hs'.grounded ha
  unfold typeLines
  rw [ha, ha', hshape, hmembers]
  cases hown : shape.ports? with
  | none => rfl
  | some own =>
    obtain ⟨ports, hp⟩ := hs.grounded.exists_effectivePorts hd (exists_ports_iff.1 ⟨own, hown⟩)
    rw [hp, hkeeps.effectivePorts hs.grounded hs'.grounded hp]

theorem listing_eq (h : s.SameContent s') (hs : s.Built) (hs' : s'.Built) :
    s'.listing = s.listing := by
  have hname := h.typeName_eq hs.consistent hs'.consistent
  have htypes : s.typeList.mapM (fun t => s'.typeLines t.1 t.2.1 t.2.2) =
      s.typeList.mapM fun t => s.typeLines t.1 t.2.1 t.2.2 :=
    mapM_congr fun t ht => h.typeLines_eq hs hs' ht
  have hnodes : s'.nodeLines = s.nodeLines := by
    funext name n
    rw [nodeLines, nodeLines, hname]
  have hconstraints : s'.constraintLine = s.constraintLine := by
    funext name k
    rw [constraintLine, constraintLine, hname]
  rw [listing, listing, connectionLines_eq, connectionLines_eq, h.name, h.nodes, h.connections,
    h.constraints, h.typeList_eq hs.consistent hs'.consistent, hname, htypes, hnodes, hconstraints]

theorem listingJson_eq (h : s.SameContent s') (hs : s.Built) (hs' : s'.Built) :
    s'.listingJson = s.listingJson := by
  have hname := h.typeName_eq hs.consistent hs'.consistent
  have htypes : s'.typeJson = s.typeJson := by
    funext id name d
    rw [typeJson, typeJson, h.shapeText_eq hs.consistent hs'.consistent]
  have hnodes : s'.nodeJson = s.nodeJson := by
    funext n
    rw [nodeJson, nodeJson, hname]
  have hconstraints : s'.constraintJson = s.constraintJson := by
    funext k
    rw [constraintJson, constraintJson, hname]
  rw [listingJson, listingJson, named_connectionJson_eq, named_connectionJson_eq, h.name, h.nodes,
    h.connections, h.constraints, h.typeList_eq hs.consistent hs'.consistent, hname, htypes, hnodes,
    hconstraints]

end SameContent

theorem Consistent.node_eq_found (h : s.Consistent) (name : String) :
    s.node name = Ledger.found .node name (s.nodesByName.get? name) := by
  have hask : s.node name = _ := h.ask_eq (.node name)
  have hnodup : (s.ledger.nodes.map Prod.fst).Nodup := h.nodes.nodup h.names
  rw [hask, Ledger.ask, ← NameMap.get?_ofList hnodup]
  rfl

theorem Consistent.constraint_eq_found (h : s.Consistent) (name : String) :
    s.constraint name = Ledger.found .constraint name (s.constraintsByName.get? name) := by
  have hask : s.constraint name = _ := h.ask_eq (.constraint name)
  have hnodup : (s.ledger.constraints.map Prod.fst).Nodup := h.constraints.nodup h.names
  rw [hask, Ledger.ask, ← NameMap.get?_ofList hnodup]
  rfl

end Schematic

end Schematics

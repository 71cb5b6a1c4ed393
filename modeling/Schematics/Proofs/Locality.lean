import Schematics.Proofs.Permanence
import Schematics.Proofs.Verification

namespace Schematics

universe u

variable {κ : Kind} {α β : Type u}

def Item.name : Item → String
  | .type name _ | .node name _ | .connection name _ | .constraint name _ => name

def Item.IsTypeOf (c : Category) : Item → Prop
  | .type _ shape => shape.category = c
  | .node _ _ | .connection _ _ | .constraint _ _ => False

def Query.Concerns {α : Type} (i : Item) (made : Issued) : Query α → Prop
  | .typeId name | .typeIn _ name => i.kind = .type ∧ i.name = name
  | .typeName id | .typeDefinition id => made = ⟨.type, id⟩
  | .node name | .nodeId name => i.kind = .node ∧ i.name = name
  | .nodeById id | .nodeName id => made = ⟨.node, id⟩
  | .connection name | .connectionId name => i.kind = .connection ∧ i.name = name
  | .connectionById id | .connectionName id => made = ⟨.connection, id⟩
  | .constraint name | .constraintId name => i.kind = .constraint ∧ i.name = name
  | .constraintById id | .constraintName id => made = ⟨.constraint, id⟩
  | .types | .typeCount => i.kind = .type
  | .typesIn c => i.IsTypeOf c
  | .nodes | .nodeCount => i.kind = .node
  | .connections | .connectionCount => i.kind = .connection
  | .constraints | .constraintCount => i.kind = .constraint

def Operation.Concerns {α : Type} (i : Item) (made : Issued) : Operation α → Prop
  | .query q => q.Concerns i made
  | .supertypeChain id | .effectiveAttributes id | .effectivePorts id | .describe id
  | .readValue (some id) _ _ => made = ⟨.type, id⟩
  | .readValue none _ _ => False
  | .resolvePort r => made = ⟨.node, r.node⟩
  | .resolveEndpoint text delimiter =>
    i.kind = .node ∧ ∃ port, Endpoint.parse text delimiter = .ok ⟨i.name, port⟩
  | .verify => i.kind = .node ∨ i.kind = .constraint
  | .register _ => True

theorem NameMap.ofList_append_singleton (l : List (String × α)) (name : String) (a : α) :
    NameMap.ofList (l ++ [(name, a)]) = (NameMap.ofList l).insert name a :=
  List.foldl_append

namespace Ledger

section

variable {rows : List (String × α)} {name other : String} {a : α}

theorem row?_append_self : row? (rows ++ [(name, a)]) (.ofSlot rows.length : Handle κ) =
    some (name, a) := by
  rw [row?_ofSlot, List.getElem?_append_right (Nat.le_refl _), Nat.sub_self, List.getElem?_cons_zero]

theorem row?_append_of_ne {id : Handle κ} (h : .ofSlot rows.length ≠ id) :
    row? (rows ++ [(name, a)]) id = row? rows id := by
  cases hslot : id.slot? with
  | none => simp [row?, hslot]
  | some slot =>
    obtain rfl := Handle.slot?_eq_some_iff.1 hslot
    have hne : slot ≠ rows.length := fun heq => h (by rw [heq])
    rw [row?_ofSlot, row?_ofSlot]
    obtain hlt | hlt := Nat.lt_or_gt_of_ne hne
    · exact List.getElem?_append_left hlt
    · rw [List.getElem?_eq_none (Nat.le_of_lt hlt), List.getElem?_eq_none]
      rwa [List.length_append, List.length_singleton]

theorem handle?_append_of_ne (h : other ≠ name) :
    (handle? (rows ++ [(other, a)]) name : Option (Handle κ)) = handle? rows name := by
  simp [handle?, List.findIdx?_append, h]

theorem lookup_append_of_ne (h : other ≠ name) :
    (rows ++ [(other, a)]).lookup name = rows.lookup name := by
  rw [List.lookup_append, List.lookup_cons, beq_false_of_ne (Ne.symm h), List.lookup_nil,
    Option.or_none]

variable {space : Namespace} {text : String}

theorem found_row_self {f : String × α → β} :
    found space text ((row? (rows ++ [(name, a)]) (.ofSlot rows.length : Handle κ)).map f) =
      .ok (f (name, a)) := by
  rw [row?_append_self]
  rfl

theorem found_handle_self (h : ((rows ++ [(name, a)]).map Prod.fst).Nodup) :
    found space text (handle? (rows ++ [(name, a)]) name : Option (Handle κ)) =
      .ok (.ofSlot rows.length) :=
  found_eq_ok_iff.2 ((handle?_eq_some_iff h).2 ⟨a, row?_append_self⟩)

theorem found_lookup_self (h : ((rows ++ [(name, a)]).map Prod.fst).Nodup) :
    found space text ((rows ++ [(name, a)]).lookup name) = .ok a :=
  found_eq_ok_iff.2 ((lookup_eq_some_iff (κ := .type) h).2 ⟨_, row?_append_self⟩)

theorem found_row_of_ne {id : Handle κ} (h : .ofSlot rows.length ≠ id) {f : String × α → β} :
    found space text ((row? (rows ++ [(name, a)]) id).map f) =
      found space text ((row? rows id).map f) := by
  rw [row?_append_of_ne h]

theorem found_handle_of_ne (h : other ≠ name) :
    found space text (handle? (rows ++ [(other, a)]) name : Option (Handle κ)) =
      found space text (handle? rows name) := by
  rw [handle?_append_of_ne h]

theorem found_lookup_of_ne (h : other ≠ name) :
    found space text ((rows ++ [(other, a)]).lookup name) = found space text (rows.lookup name) := by
  rw [lookup_append_of_ne h]

end

variable {l : Ledger}

theorem typeList_record (l : Ledger) (name : String) (shape : Shape) :
    (l.record (.type name shape)).typeList =
      l.typeList ++ [(.ofSlot l.types.length, name, ⟨some (.ofSlot l.types.length), shape⟩)] := by
  simp [typeList, record, List.zipIdx_append]

theorem typesIn_record_self (l : Ledger) (name : String) (shape : Shape) :
    (l.record (.type name shape)).typesIn shape.category = (l.typesIn shape.category).insert name
      (.ofSlot l.types.length, ⟨some (.ofSlot l.types.length), shape⟩) := by
  have hentry : ([(.ofSlot l.types.length, name, ⟨some (.ofSlot l.types.length), shape⟩)] :
      List (TypeId × String × TypeDef)).filter (fun t => t.2.2.category = shape.category) =
        [(.ofSlot l.types.length, name, ⟨some (.ofSlot l.types.length), shape⟩)] :=
    List.filter_cons_of_pos (decide_eq_true rfl)
  rw [typesIn, typeList_record, List.filter_append, hentry, List.map_append]
  exact NameMap.ofList_append_singleton _ _ _

theorem typesIn_record_of_ne {name : String} {shape : Shape} {c : Category}
    (h : shape.category ≠ c) : (l.record (.type name shape)).typesIn c = l.typesIn c := by
  rw [typesIn, typeList_record, List.filter_append, List.map_append]
  simp [typesIn, TypeDef.category, h]

theorem typeIn?_record_self {name : String} {shape : Shape}
    (h : ((l.types ++ [(name, shape)]).map Prod.fst).Nodup) :
    (l.record (.type name shape)).typeIn? shape.category name =
      some (.ofSlot l.types.length, ⟨some (.ofSlot l.types.length), shape⟩) := by
  have hrow : row? (l.record (.type name shape)).types (.ofSlot l.types.length : TypeId) =
      some (name, shape) := row?_append_self
  have hid : handle? (l.record (.type name shape)).types name =
      some (.ofSlot l.types.length : TypeId) := (handle?_eq_some_iff h).2 ⟨shape, hrow⟩
  rw [typeIn?, hid, Option.bind_some, hrow, Option.filter_some, if_pos (decide_eq_true rfl)]
  rfl

theorem typeIn?_record_of_ne {name other : String} (h : name ≠ other) (shape : Shape) (c : Category) :
    (l.record (.type name shape)).typeIn? c other = l.typeIn? c other := by
  have hhandle : (handle? (l.record (.type name shape)).types other : Option TypeId) =
      handle? l.types other := handle?_append_of_ne h
  rw [typeIn?, typeIn?, hhandle]
  cases hid : (handle? l.types other : Option TypeId) with
  | none => rfl
  | some id =>
    obtain ⟨slot, hslot, rfl⟩ := Option.map_eq_some_iff.1 hid
    have hlt : slot < l.types.length := (List.findIdx?_eq_some_iff_getElem.1 hslot).1
    have hne : (.ofSlot l.types.length : TypeId) ≠ .ofSlot slot := fun he => by
      have hsame := congrArg Handle.slot? he
      simp only [Handle.slot?_ofSlot, Option.some.injEq] at hsame
      omega
    have hrow : row? (l.record (.type name shape)).types (.ofSlot slot : TypeId) =
        row? l.types (.ofSlot slot) := row?_append_of_ne hne
    rw [Option.bind_some, Option.bind_some, hrow]

variable {α : Type} {q : Query α}

theorem ask_record_type {name : String} {shape : Shape}
    (h : ¬q.Concerns (.type name shape) (l.nextFor (.type name shape))) :
    (l.record (.type name shape)).ask q = l.ask q := by
  cases q with
  | typeId other => exact found_handle_of_ne fun he => h ⟨rfl, he⟩
  | typeName id | typeDefinition id => exact found_row_of_ne fun he => h (congrArg _ he)
  | typeIn c other => exact congrArg (found _ _) (typeIn?_record_of_ne (fun he => h ⟨rfl, he⟩) shape c)
  | typesIn c => exact congrArg Except.ok (typesIn_record_of_ne h)
  | types | typeCount => exact absurd rfl h
  | _ => rfl

theorem ask_record_node {name : String} {n : Node}
    (h : ¬q.Concerns (.node name n) (l.nextFor (.node name n))) :
    (l.record (.node name n)).ask q = l.ask q := by
  cases q with
  | node other => exact found_lookup_of_ne fun he => h ⟨rfl, he⟩
  | nodeId other => exact found_handle_of_ne fun he => h ⟨rfl, he⟩
  | nodeById id | nodeName id => exact found_row_of_ne fun he => h (congrArg _ he)
  | nodes | nodeCount => exact absurd rfl h
  | _ => rfl

theorem ask_record_connection {name : String} {k : Connection}
    (h : ¬q.Concerns (.connection name k) (l.nextFor (.connection name k))) :
    (l.record (.connection name k)).ask q = l.ask q := by
  cases q with
  | connection other => exact found_lookup_of_ne fun he => h ⟨rfl, he⟩
  | connectionId other => exact found_handle_of_ne fun he => h ⟨rfl, he⟩
  | connectionById id | connectionName id => exact found_row_of_ne fun he => h (congrArg _ he)
  | connections | connectionCount => exact absurd rfl h
  | _ => rfl

theorem ask_record_constraint {name : String} {k : Constraint}
    (h : ¬q.Concerns (.constraint name k) (l.nextFor (.constraint name k))) :
    (l.record (.constraint name k)).ask q = l.ask q := by
  cases q with
  | constraint other => exact found_lookup_of_ne fun he => h ⟨rfl, he⟩
  | constraintId other => exact found_handle_of_ne fun he => h ⟨rfl, he⟩
  | constraintById id | constraintName id => exact found_row_of_ne fun he => h (congrArg _ he)
  | constraints | constraintCount => exact absurd rfl h
  | _ => rfl

theorem ask_record {i : Item} (h : ¬q.Concerns i (l.nextFor i)) : (l.record i).ask q = l.ask q := by
  cases i with
  | type name shape => exact ask_record_type h
  | node name n => exact ask_record_node h
  | connection name k => exact ask_record_connection h
  | constraint name k => exact ask_record_constraint h

end Ledger

namespace AttributeValue

variable {s s' : Schematic}

-- Types that are registered mention registered types only, so that reading never leaves the types
-- on which the two schematics agree.
mutual

theorem read_eq_of_keepsTypes (h : s.KeepsTypes s') (hg : s.Grounded)
    (hnames : ∀ id d, s.type? id = some d → s'.describe id = s.describe id) (raw : Json)
    {expected : TypeId} {d : TypeDef} (hd : s.type? expected = some d) (name : String) :
    read s' expected name raw = read s expected name raw := by
  rw [read, read, Schematic.typeDefinition_of_type? hd,
    Schematic.typeDefinition_of_type? (h.types _ d hd), ok_bind, ok_bind]
  cases raw with
  | null | object fields | string _ | int _ | real _ | bool _ => rfl
  | array items =>
    cases he : d.shape.element? with
    | none => simp only [notArray, hnames expected d hd]
    | some element =>
      obtain ⟨-, d', hd', -⟩ := hg expected d hd element _ (.element he)
      simp only [readItems_eq_of_keepsTypes h hg hnames items hd' name 0]

theorem readItems_eq_of_keepsTypes (h : s.KeepsTypes s') (hg : s.Grounded)
    (hnames : ∀ id d, s.type? id = some d → s'.describe id = s.describe id) (items : List Json)
    {element : TypeId} {d : TypeDef} (hd : s.type? element = some d) (name : String) (index : Nat) :
    readItems s' element name index items = readItems s element name index items := by
  cases items with
  | nil => rfl
  | cons raw rest =>
    rw [readItems, readItems, read_eq_of_keepsTypes h hg hnames raw hd,
      readItems_eq_of_keepsTypes h hg hnames rest hd]

end

end AttributeValue

namespace Schematic

variable {s s' : Schematic} {i : Item} {made : Issued}

inductive Finds (s : Schematic) : Item → Issued → Prop
  | type {name : String} {shape : Shape} {id : TypeId} (hid : s.typeId name = .ok id)
    (hname : s.typeName id = .ok name) (hd : s.typeDefinition id = .ok ⟨some id, shape⟩)
    (hc : s.lookup shape.category name = .ok (id, ⟨some id, shape⟩)) :
    Finds s (.type name shape) ⟨.type, id⟩
  | node {name : String} {n : Node} {id : NodeId} (hid : s.nodeId name = .ok id)
    (hname : s.nodeName id = .ok name) (hn : s.nodeById id = .ok n) (hv : s.node name = .ok n) :
    Finds s (.node name n) ⟨.node, id⟩
  | connection {name : String} {k : Connection} {id : ConnectionId}
    (hid : s.connectionId name = .ok id) (hname : s.connectionName id = .ok name)
    (hk : s.connectionById id = .ok k) (hv : s.connection name = .ok k) :
    Finds s (.connection name k) ⟨.connection, id⟩
  | constraint {name : String} {k : Constraint} {id : ConstraintId}
    (hid : s.constraintId name = .ok id) (hname : s.constraintName id = .ok name)
    (hk : s.constraintById id = .ok k) (hv : s.constraint name = .ok k) :
    Finds s (.constraint name k) ⟨.constraint, id⟩

inductive Enters (s s' : Schematic) : Item → Issued → Prop
  | type {name : String} {shape : Shape} {id : TypeId}
    (hl : s'.typeList = s.typeList ++ [(id, name, ⟨some id, shape⟩)])
    (hc : s'.typesIn shape.category =
      (s.typesIn shape.category).insert name (id, ⟨some id, shape⟩)) :
    Enters s s' (.type name shape) ⟨.type, id⟩
  | node {name : String} {n : Node} {id : NodeId}
    (hl : s'.nodesByName = s.nodesByName.insert name n) : Enters s s' (.node name n) ⟨.node, id⟩
  | connection {name : String} {k : Connection} {id : ConnectionId}
    (hl : s'.connectionsByName = s.connectionsByName.insert name k) :
    Enters s s' (.connection name k) ⟨.connection, id⟩
  | constraint {name : String} {k : Constraint} {id : ConstraintId}
    (hl : s'.constraintsByName = s.constraintsByName.insert name k) :
    Enters s s' (.constraint name k) ⟨.constraint, id⟩

/-- The second schematic is the first with one more item, as far as anything tells them apart. -/
structure Adds (s s' : Schematic) (i : Item) (made : Issued) : Prop where
  found : s'.Finds i made
  entered : s.Enters s' i made
  counted : s'.count i.kind = s.count i.kind + 1
  others : ∀ {α : Type} (o : Operation α), ¬o.Concerns i made → s'.perform o = s.perform o

theorem Holds.nextFor_ne {j : Issued} (h : s.Holds j) (i : Item) : s.nextFor i ≠ j := by
  rintro rfl
  exact Nat.lt_irrefl _ (h.precedes_nextFor i rfl)

theorem Consistent.holds_of_nodeId (h : s.Consistent) {name : String} {id : NodeId}
    (hid : s.nodeId name = .ok id) : s.Holds ⟨.node, id⟩ := by
  obtain ⟨n, hrow⟩ := h.nodeId_eq_ok_iff.1 hid
  exact ⟨n, (nodeById_eq_ok_iff h).2 ⟨name, hrow⟩⟩

section

variable {α : Type} (h : s.Built) (hi : s.check i = .ok ())

include h hi

theorem Built.ask_record_eq (q : Query α) : (s.record i).ask q = (s.ledger.record i).ask q := by
  rw [(h.record hi).consistent.ask_eq, h.consistent.ledger_record]

theorem Built.ask_record_eq_ok (q : Query α) {a : α} (hq : (s.ledger.record i).ask q = .ok a) :
    (s.record i).ask q = .ok a := (h.ask_record_eq hi q).trans hq

theorem Built.ask_record {q : Query α} (hq : ¬q.Concerns i (s.nextFor i)) :
    (s.record i).ask q = s.ask q := by
  rw [nextFor_ledger] at hq
  rw [h.ask_record_eq hi, h.consistent.ask_eq, Ledger.ask_record hq]

theorem Built.finds_record : (s.record i).Finds i (s.nextFor i) := by
  have hc := (h.record hi).consistent
  have hl := h.consistent.ledger_record i
  rw [nextFor_ledger]
  cases i with
  | type name shape =>
    have hnodup := hc.nodup_types
    rw [hl] at hnodup
    let id : TypeId := .ofSlot s.ledger.types.length
    apply Finds.type
    · exact h.ask_record_eq_ok hi (.typeId name) (Ledger.found_handle_self hnodup)
    · exact h.ask_record_eq_ok hi (.typeName id) Ledger.found_row_self
    · exact h.ask_record_eq_ok hi (.typeDefinition id) Ledger.found_row_self
    · apply h.ask_record_eq_ok hi (.typeIn shape.category name)
      exact Ledger.found_eq_ok_iff.2 (Ledger.typeIn?_record_self hnodup)
  | node name n =>
    have hnodup : ((s.record (.node name n)).ledger.nodes.map Prod.fst).Nodup :=
      hc.nodes.nodup hc.names
    rw [hl] at hnodup
    let id : NodeId := .ofSlot s.ledger.nodes.length
    apply Finds.node
    · exact h.ask_record_eq_ok hi (.nodeId name) (Ledger.found_handle_self hnodup)
    · exact h.ask_record_eq_ok hi (.nodeName id) Ledger.found_row_self
    · exact h.ask_record_eq_ok hi (.nodeById id) Ledger.found_row_self
    · exact h.ask_record_eq_ok hi (.node name) (Ledger.found_lookup_self hnodup)
  | connection name k =>
    have hnodup : ((s.record (.connection name k)).ledger.connections.map Prod.fst).Nodup :=
      hc.connections.nodup hc.names
    rw [hl] at hnodup
    let id : ConnectionId := .ofSlot s.ledger.connections.length
    apply Finds.connection
    · exact h.ask_record_eq_ok hi (.connectionId name) (Ledger.found_handle_self hnodup)
    · exact h.ask_record_eq_ok hi (.connectionName id) Ledger.found_row_self
    · exact h.ask_record_eq_ok hi (.connectionById id) Ledger.found_row_self
    · exact h.ask_record_eq_ok hi (.connection name) (Ledger.found_lookup_self hnodup)
  | constraint name k =>
    have hnodup : ((s.record (.constraint name k)).ledger.constraints.map Prod.fst).Nodup :=
      hc.constraints.nodup hc.names
    rw [hl] at hnodup
    let id : ConstraintId := .ofSlot s.ledger.constraints.length
    apply Finds.constraint
    · exact h.ask_record_eq_ok hi (.constraintId name) (Ledger.found_handle_self hnodup)
    · exact h.ask_record_eq_ok hi (.constraintName id) Ledger.found_row_self
    · exact h.ask_record_eq_ok hi (.constraintById id) Ledger.found_row_self
    · exact h.ask_record_eq_ok hi (.constraint name) (Ledger.found_lookup_self hnodup)

theorem Built.enters_record : s.Enters (s.record i) i (s.nextFor i) := by
  have hc := h.consistent
  have hc' := (h.record hi).consistent
  have hl := hc.ledger_record i
  rw [nextFor_ledger]
  cases i with
  | type name shape =>
    refine .type ?_ ?_
    · rw [hc'.typeList_eq, hl, hc.typeList_eq]
      exact Ledger.typeList_record _ _ _
    · rw [hc'.typesIn_eq, hl, hc.typesIn_eq]
      exact Ledger.typesIn_record_self _ _ _
  | node name n =>
    have hrows : (s.record (.node name n)).nodesByName = .ofList (s.ledger.nodes ++ [(name, n)]) :=
      congrArg (fun l : Ledger => NameMap.ofList l.nodes) hl
    exact .node (hrows.trans (NameMap.ofList_append_singleton _ _ _))
  | connection name k =>
    have hrows : (s.record (.connection name k)).connectionsByName =
        .ofList (s.ledger.connections ++ [(name, k)]) :=
      congrArg (fun l : Ledger => NameMap.ofList l.connections) hl
    exact .connection (hrows.trans (NameMap.ofList_append_singleton _ _ _))
  | constraint name k =>
    have hrows : (s.record (.constraint name k)).constraintsByName =
        .ofList (s.ledger.constraints ++ [(name, k)]) :=
      congrArg (fun l : Ledger => NameMap.ofList l.constraints) hl
    exact .constraint (hrows.trans (NameMap.ofList_append_singleton _ _ _))

theorem Built.typeDefinition_record {id : TypeId} (hid : s.nextFor i ≠ ⟨.type, id⟩) :
    (s.record i).typeDefinition id = s.typeDefinition id :=
  h.ask_record hi (q := .typeDefinition id) hid

theorem Built.describe_record {id : TypeId} (hid : s.nextFor i ≠ ⟨.type, id⟩) :
    (s.record i).describe id = s.describe id := by
  have hname : (s.record i).typeName id = s.typeName id := h.ask_record hi (q := .typeName id) hid
  rw [describe, describe, hname]

theorem Built.lineage_record {id : TypeId} (hid : s.nextFor i ≠ ⟨.type, id⟩) :
    (s.record i).lineage id = s.lineage id := by
  cases hd : s.typeDefinition id with
  | error f =>
    rw [lineage, lineage, h.typeDefinition_record hi hid, hd]
    rfl
  | ok d =>
    obtain ⟨above, hab⟩ := h.grounded.exists_above (typeDefinition_eq_ok_iff.1 hd)
    have hkeeps := (s.grows_record i).toKeepsTypes
    rw [hab.lineage, hkeeps.lineage h.grounded (h.record hi).grounded hab.lineage]

theorem Built.readDeclared_record {expected : TypeId} (hid : s.nextFor i ≠ ⟨.type, expected⟩)
    (name : String) (raw : Json) : AttributeValue.readDeclared (s.record i) (some expected) name raw =
      AttributeValue.readDeclared s (some expected) name raw := by
  have hmade {id : TypeId} {d : TypeDef} (hd : s.type? id = some d) : s.nextFor i ≠ ⟨.type, id⟩ :=
    Holds.nextFor_ne (j := ⟨.type, id⟩) ⟨d, typeDefinition_of_type? hd⟩ i
  simp only [AttributeValue.readDeclared]
  cases hd : s.typeDefinition expected with
  | error f =>
    rw [AttributeValue.read, AttributeValue.read, h.typeDefinition_record hi hid, hd]
    rfl
  | ok d =>
    exact AttributeValue.read_eq_of_keepsTypes (s.grows_record i).toKeepsTypes h.grounded
      (fun id d hd => h.describe_record hi (hmade hd)) raw (typeDefinition_eq_ok_iff.1 hd) name

theorem Built.verify_record (hn : i.kind ≠ .node) (hk : i.kind ≠ .constraint) :
    (s.record i).verify = s.verify := by
  have hl := h.consistent.ledger_record i
  have hnodes : (s.record i).nodes.listed (s.record i).names = s.nodes.listed s.names := by
    refine (congrArg Ledger.nodes hl).trans ?_
    cases i with
    | node name n => exact absurd rfl hn
    | _ => rfl
  have hconstraints :
      (s.record i).constraints.listed (s.record i).names = s.constraints.listed s.names := by
    refine (congrArg Ledger.constraints hl).trans ?_
    cases i with
    | constraint name k => exact absurd rfl hk
    | _ => rfl
  simp only [verify, h.defect?_eq, (h.record hi).defect?_eq, instanceDefect?_eq_listed, hnodes,
    hconstraints]

theorem Built.resolveEndpoint_record {text : String} {delimiter : Char}
    (ho : ¬(i.kind = .node ∧ ∃ port, Endpoint.parse text delimiter = .ok ⟨i.name, port⟩)) :
    (s.record i).resolveEndpoint text delimiter = s.resolveEndpoint text delimiter := by
  rw [resolveEndpoint, resolveEndpoint]
  cases he : Endpoint.parse text delimiter with
  | error f => rfl
  | ok e =>
    have hsame : (s.record i).nodeId e.node = s.nodeId e.node := by
      refine h.ask_record hi (q := .nodeId e.node) fun hq => ho ⟨hq.1, e.port, ?_⟩
      rw [he, hq.2]
    rw [ok_bind, ok_bind, hsame]
    cases hid : s.nodeId e.node with
    | error f => rfl
    | ok id =>
      have hn : (s.record i).nodeById id = s.nodeById id :=
        h.ask_record hi (q := .nodeById id) ((h.consistent.holds_of_nodeId hid).nextFor_ne i)
      rw [ok_bind, ok_bind, hn]

theorem Built.perform_record {o : Operation α} (ho : ¬o.Concerns i (s.nextFor i)) :
    (s.record i).perform o = s.perform o := by
  cases o with
  | query q => exact h.ask_record hi ho
  | supertypeChain id => exact congrArg (List.map Prod.fst <$> ·) (h.lineage_record hi ho)
  | effectiveAttributes id => exact congrArg (inheritAttributes <$> ·) (h.lineage_record hi ho)
  | effectivePorts id => exact congrArg (· >>= inheritPorts) (h.lineage_record hi ho)
  | describe id => exact congrArg Except.ok (h.describe_record hi ho)
  | resolvePort r =>
    exact congrArg (· >>= fun n => portOf n r.port) (h.ask_record hi (q := .nodeById r.node) ho)
  | resolveEndpoint text delimiter => exact h.resolveEndpoint_record hi ho
  | readValue expected name raw =>
    cases expected with
    | none => rfl
    | some t => exact h.readDeclared_record hi ho name raw
  | verify => exact h.verify_record hi (fun hn => ho (.inl hn)) fun hk => ho (.inr hk)
  | register r => exact absurd trivial ho

theorem Built.adds_record : s.Adds (s.record i) i (s.nextFor i) where
  found := h.finds_record hi
  entered := h.enters_record hi
  counted := s.count_record i
  others := fun _ ho => h.perform_record hi ho

end

theorem Built.adds_of_register (h : s.Built) {r : Registration}
    (hr : s.register r = .ok (made, s')) : s.Adds s' r.item made := by
  obtain ⟨-, hi, rfl, rfl⟩ := register_eq_ok_iff.1 hr
  exact h.adds_record hi

end Schematic

end Schematics

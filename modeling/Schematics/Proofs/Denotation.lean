import Schematics.Proofs.Admission
import Schematics.Proofs.Defects
import Schematics.Proofs.Spelling

namespace Schematics

inductive Denotes (doc : Sections) : String → Json → Value → Prop
  | scalar {name text : String} {shape : Shape} {raw : Json} {v : Value}
    (hn : BaseType.Called name shape) (hraw : raw.HasText text) (h : shape.Writes text v) :
    Denotes doc name raw v
  | array {name element : String} {body : Fields} {items : List Json} {values : List Value}
    {id elementId : TypeId} (hn : (name, body) ∈ doc .userDefinedTypes)
    (he : body.lookup "elementType" = some (.string element)) (hi : doc.typeId? name = some id)
    (hj : doc.typeId? element = some elementId) (hl : items.length = values.length)
    (h : ∀ raw v, (raw, v) ∈ items.zip values → Denotes doc element raw v) :
    Denotes doc name (.array items) (.array id elementId values)

section Shapes

variable (resolves : Category → Json → TypeId → Prop)

structure SpellsSignature (c : Category) (body : Fields) (g : Signature) : Prop where
  attributes : Spells (fun _ => resolves .userDefined) (given "attributes" body) g.attributes
  supertype : Option.Rel (resolves c) (body.lookup "supertype") g.supertype

structure SpellsNodeSignature (body : Fields) (g : NodeSignature) : Prop
    extends SpellsSignature resolves .node body g.toSignature where
  ports : Spells (fun _ => resolves .port) (given "portTypes" body) g.ports

def SpellsShape (body : Fields) : Category → Shape → Prop
  | .userDefined, shape => ∃ j id, body.lookup "elementType" = some j ∧
    resolves .userDefined j id ∧ shape = .array id
  | .port, shape => ∃ g, SpellsSignature resolves .port body g ∧ shape = .port g
  | .node, shape => ∃ g, SpellsNodeSignature resolves body g ∧ shape = .node g
  | .connection, shape => ∃ g, SpellsSignature resolves .connection body g ∧ shape = .connection g
  | .constraint, shape => ∃ g, SpellsSignature resolves .constraint body g ∧ shape = .constraint g

end Shapes

namespace Sections

variable (doc : Sections)

def SpellsType (c : Category) (j : Json) (id : TypeId) : Prop :=
  ∃ t, j = .string t ∧ doc.Numbers c t id

def SpellsValues (c : Category) (name : String) : Fields → Attributes → Prop :=
  Spells fun member raw v => ∃ t,
    Offers "attributes" (doc c.stage) name member t ∧ Denotes doc t raw v

def SpellsPort (name : String) (portAttrs : Fields) (port : String) (p : Port) : Prop :=
  ∃ t, Offers "portTypes" (doc .nodeTypes) name port t ∧ doc.Numbers .port t p.type ∧
    doc.SpellsValues .port t (given port portAttrs) p.attributes

structure SpellsPorts (name : String) (portAttrs : Fields) (ports : NameMap Port) : Prop where
  sorted : ports.Sorted
  complete : ∀ port t, Offers "portTypes" (doc .nodeTypes) name port t → ∃ p, ports.get? port = some p
  spelled : ∀ port p, ports.get? port = some p → doc.SpellsPort name portAttrs port p

structure SpellsInstance (c : Category) (name : String) (body : Fields) (id : TypeId)
    (values : Attributes) : Prop where
  type : body.lookup "type" = some (.string name)
  id : doc.Numbers c name id
  attributes : doc.SpellsValues c name (given "attributes" body) values

structure SpellsNode (name : String) (body : Fields) (n : Node) : Prop
    extends SpellsInstance doc .node name body n.type n.attributes where
  ports : doc.SpellsPorts name (given "portAttrs" body) n.ports

def SpellsEnd (delimiter : Char) (key : String) (body : Fields) (r : PortRef) : Prop :=
  ∃ e, doc.ProperEndpoint delimiter key body e ∧ doc.nodeId? e.node = some r.node ∧ r.port = e.port

structure SpellsConnection (delimiter : Char) (name : String) (body : Fields) (c : Connection) : Prop
    extends SpellsInstance doc .connection name body c.type c.attributes where
  source : doc.SpellsEnd delimiter "from" body c.source
  target : doc.SpellsEnd delimiter "to" body c.target
  apart : c.source ≠ c.target

def SpellsConstraint (name : String) (body : Fields) (c : Constraint) : Prop :=
  doc.SpellsInstance .constraint name body c.type c.attributes

inductive SpellsItem (delimiter : Char) (stage : Stage) (name : String) (body : Fields) : Item → Prop
  | type {c : Category} {shape : Shape} (hs : stage.category? = some c)
    (h : SpellsShape doc.SpellsType body c shape) :
    SpellsItem delimiter stage name body (.type name shape)
  | node {t : String} {n : Node} (hs : stage = .nodes) (h : doc.SpellsNode t body n) :
    SpellsItem delimiter stage name body (.node name n)
  | connection {t : String} {c : Connection} (hs : stage = .connections)
    (h : doc.SpellsConnection delimiter t body c) :
    SpellsItem delimiter stage name body (.connection name c)
  | constraint {t : String} {c : Constraint} (hs : stage = .constraints)
    (h : doc.SpellsConstraint t body c) : SpellsItem delimiter stage name body (.constraint name c)

end Sections

section Shapes

variable {resolves resolves' : Category → Json → TypeId → Prop} {body : Fields} {c : Category}
  {shape : Shape}

theorem SpellsShape.category (h : SpellsShape resolves body c shape) : shape.category = c := by
  cases c with
  | userDefined =>
    obtain ⟨_, _, -, -, rfl⟩ := h
    rfl
  | port | node | connection | constraint =>
    obtain ⟨_, -, rfl⟩ := h
    rfl

theorem SpellsShape.signature (h : SpellsShape resolves body c shape) (hc : c ≠ .userDefined) :
    ∃ g, shape.signature? = some g ∧ SpellsSignature resolves c body g := by
  cases c with
  | userDefined => exact absurd rfl hc
  | node =>
    obtain ⟨g, hg, rfl⟩ := h
    exact ⟨_, rfl, hg.toSpellsSignature⟩
  | port | connection | constraint =>
    obtain ⟨g, hg, rfl⟩ := h
    exact ⟨g, rfl, hg⟩

theorem SpellsShape.attributes (h : SpellsShape resolves body c shape) (hc : c ≠ .userDefined) :
    Spells (fun _ => resolves .userDefined) (given "attributes" body) shape.attributes := by
  obtain ⟨g, hg, hspells⟩ := h.signature hc
  rw [Shape.attributes, hg]
  exact hspells.attributes

theorem SpellsShape.supertype (h : SpellsShape resolves body c shape) (hc : c ≠ .userDefined) :
    Option.Rel (resolves c) (body.lookup "supertype") shape.supertype := by
  obtain ⟨g, hg, hspells⟩ := h.signature hc
  rw [Shape.supertype, hg]
  exact hspells.supertype

theorem SpellsShape.ports (h : SpellsShape resolves body .node shape) :
    Spells (fun _ => resolves .port) (given "portTypes" body) (shape.ports?.getD ∅) := by
  obtain ⟨g, hg, rfl⟩ := h
  exact hg.ports

theorem SpellsSignature.mono {g : Signature} (h : SpellsSignature resolves c body g)
    (hmono : ∀ c j id, resolves c j id → resolves' c j id) : SpellsSignature resolves' c body g where
  attributes := h.attributes.mono fun _ => hmono _
  supertype := rel_mono h.supertype (hmono c)

theorem SpellsShape.mono (h : SpellsShape resolves body c shape)
    (hmono : ∀ c j id, resolves c j id → resolves' c j id) : SpellsShape resolves' body c shape := by
  cases c with
  | userDefined =>
    obtain ⟨j, id, hj, hid, rfl⟩ := h
    exact ⟨j, id, hj, hmono _ j id hid, rfl⟩
  | node =>
    obtain ⟨g, hg, rfl⟩ := h
    exact ⟨g, ⟨hg.toSpellsSignature.mono hmono, hg.ports.mono fun _ => hmono _⟩, rfl⟩
  | port | connection | constraint =>
    obtain ⟨g, hg, rfl⟩ := h
    exact ⟨g, hg.mono hmono, rfl⟩

end Shapes

variable {doc : Sections}

theorem name_eq_of_findIdx? {κ : Kind} {names : List String} {name other : String} {id : Handle κ}
    (h : (names.findIdx? fun n => n = name).map .ofSlot = some id)
    (ho : (names.findIdx? fun n => n = other).map .ofSlot = some id) : name = other := by
  obtain ⟨i, hi, rfl⟩ := Option.map_eq_some_iff.1 h
  obtain ⟨j, hj, hij⟩ := Option.map_eq_some_iff.1 ho
  have hslot := congrArg Handle.slot? hij
  simp only [Handle.slot?_ofSlot, Option.some.injEq] at hslot
  subst hslot
  obtain ⟨_, hname, -⟩ := List.findIdx?_eq_some_iff_getElem.1 hi
  obtain ⟨_, hother, -⟩ := List.findIdx?_eq_some_iff_getElem.1 hj
  simp only [decide_eq_true_eq] at hname hother
  exact hname.symm.trans hother

namespace Sections

theorem typeId?_injective {name other : String} {id : TypeId} (h : doc.typeId? name = some id)
    (ho : doc.typeId? other = some id) : name = other := name_eq_of_findIdx? h ho

theorem exists_typeId? {name : String} (h : name ∈ doc.typeNames) :
    ∃ id, doc.typeId? name = some id := by
  obtain ⟨i, hi⟩ := Option.isSome_iff_exists.1
    (List.findIdx?_isSome (p := fun other => decide (other = name)) ▸
      List.any_eq_true.2 ⟨name, h, decide_eq_true rfl⟩)
  exact ⟨.ofSlot i, by rw [typeId?, hi]; rfl⟩

theorem mem_typeEntries {c : Category} {e : String × Fields} :
    (c, e) ∈ doc.typeEntries ↔ e ∈ doc c.stage := by
  simp only [typeEntries, List.mem_flatMap, List.mem_map, Prod.mk.injEq]
  constructor
  · rintro ⟨_, -, _, he, rfl, rfl⟩
    exact he
  · intro he
    exact ⟨c, by cases c <;> simp [Category.all], e, he, rfl, rfl⟩

theorem Names.mem {c : Category} {name : String} (h : doc.Names c name) : name ∈ doc.typeNames := by
  obtain ⟨-, hbase⟩ | hentry := h
  · exact List.mem_append_left _ hbase
  · obtain ⟨e, he, rfl⟩ := List.mem_map.1 hentry
    exact List.mem_append_right _ (List.mem_map.2 ⟨(c, e), mem_typeEntries.2 he, rfl⟩)

theorem Names.exists_id {c : Category} {name : String} (h : doc.Names c name) :
    ∃ id, doc.Numbers c name id := by
  obtain ⟨id, hid⟩ := exists_typeId? h.mem
  exact ⟨id, h, hid⟩

end Sections

namespace Denotes

theorem type?_eq {name : String} {raw : Json} {v : Value} (h : Denotes doc name raw v) :
    v.type? = doc.typeId? name := by
  cases h with
  | scalar hn _ h => cases hn <;> cases h <;> rfl
  | array _ _ hi => exact hi.symm

theorem array_iff {name : String} {items : List Json} {v : Value} :
    Denotes doc name (.array items) v ↔ ∃ body element id elementId values,
      (name, body) ∈ doc .userDefinedTypes ∧ body.lookup "elementType" = some (.string element) ∧
        doc.typeId? name = some id ∧ doc.typeId? element = some elementId ∧
          List.Forall₂ (Denotes doc element) items values ∧ v = .array id elementId values := by
  constructor
  · intro h
    cases h with
    | scalar _ hraw => exact nomatch hraw.isScalar
    | array hn he hi hj hl h =>
      exact ⟨_, _, _, _, _, hn, he, hi, hj, List.forall₂_iff_zip.2 ⟨hl, fun hz => h _ _ hz⟩, rfl⟩
  · rintro ⟨body, element, id, elementId, values, hn, he, hi, hj, h, rfl⟩
    exact .array hn he hi hj h.length_eq fun _ _ hz => List.forall₂_zip h hz

theorem defect?_eq_none {name : String} {raw : Json} {v : Value} (h : Denotes doc name raw v) :
    v.defect? = none := by
  induction h with
  | scalar _ _ h => cases h <;> rfl
  | @array _ _ _ items values _ _ _ _ _ hj hl h ih =>
    refine itemDefect?_eq_none_iff.2 fun v hv => ?_
    have hitems := List.forall₂_iff_zip.2 ⟨hl, fun hz => (⟨h _ _ hz, ih _ _ hz⟩ : _ ∧ _)⟩
    obtain ⟨raw, -, hd, hnone⟩ := exists_of_forall₂_right hitems hv
    exact ⟨hd.type?_eq.trans hj, hnone⟩

end Denotes

theorem Denotes.conforms {name : String} {raw : Json} {v : Value} (h : Denotes doc name raw v) :
    Conforms (doc .userDefinedTypes) name raw := by
  induction h with
  | scalar hn hraw h => exact .scalar hn hraw (Shape.exists_writes_iff.1 ⟨_, h⟩)
  | array hn he _ _ hl h ih =>
    apply Conforms.array hn he
    intro j hj
    have hitems := List.forall₂_iff_zip.2 ⟨hl, fun hz => ih _ _ hz⟩
    obtain ⟨_, -, hconforms⟩ := exists_of_forall₂_left hitems hj
    exact hconforms

theorem Conforms.exists_denotes (hdoc : ∀ e ∈ doc .userDefinedTypes, ∀ element,
      e.2.lookup "elementType" = some (.string element) → element ∈ doc.typeNames)
    {name : String} {raw : Json} (h : Conforms (doc .userDefinedTypes) name raw) :
    ∃ v, Denotes doc name raw v := by
  induction h with
  | scalar hn hraw h =>
    obtain ⟨v, hv⟩ := Shape.exists_writes_iff.2 h
    exact ⟨v, .scalar hn hraw hv⟩
  | @array name element body items hn he _ ih =>
    obtain ⟨values, hvalues⟩ := exists_forall₂_iff.2 ih
    have hnames : doc.Names .userDefined name := .inr (List.mem_map.2 ⟨_, hn, rfl⟩)
    obtain ⟨id, -, hid⟩ := hnames.exists_id
    obtain ⟨elementId, helement⟩ := Sections.exists_typeId? (hdoc _ hn element he)
    exact ⟨_, Denotes.array_iff.2 ⟨_, _, _, _, _, hn, he, hid, helement, hvalues, rfl⟩⟩

namespace Sections

theorem SpellsValues.defect?_eq_none {c : Category} {name : String} {values : Fields}
    {m : Attributes} (h : doc.SpellsValues c name values m) : ∀ e ∈ m.entries, e.2.defect? = none := by
  rintro ⟨member, v⟩ hv
  obtain ⟨raw, -, t, -, hd⟩ := h.of_entry hv
  exact hd.defect?_eq_none

theorem SpellsNode.defect?_eq_none {name : String} {body : Fields} {n : Node}
    (h : doc.SpellsNode name body n) : n.defect? = none := by
  refine Node.defect?_eq_none_iff.2 ⟨h.attributes.defect?_eq_none, fun ⟨port, p⟩ hp => ?_⟩
  obtain ⟨t, -, -, hv⟩ := h.ports.spelled port p (h.ports.sorted.get?_eq_some_iff.2 hp)
  exact Port.defect?_eq_none_iff.2 hv.defect?_eq_none

theorem SpellsConnection.defect?_eq_none {delimiter : Char} {name : String} {body : Fields}
    {c : Connection} (h : doc.SpellsConnection delimiter name body c) : c.defect? = none :=
  Connection.defect?_eq_none_iff.2 ⟨h.apart, h.attributes.defect?_eq_none⟩

theorem SpellsConstraint.defect?_eq_none {name : String} {body : Fields} {c : Constraint}
    (h : doc.SpellsConstraint name body c) : c.defect? = none :=
  Constraint.defect?_eq_none_iff.2 h.attributes.defect?_eq_none

end Sections

end Schematics

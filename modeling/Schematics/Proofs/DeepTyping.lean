import Schematics.Proofs.Integrity

/-!
Values in depth. Of an array only the outermost label is compared with what is declared; its items
are compared with the element that the array itself names. So a value that passes both looks has the
shape of its type through and through exactly when its arrays name what is registered.
-/

namespace Schematics

namespace Schematic

variable {s : Schematic}

/-- A value has, at every depth, the shape that a type is registered with. -/
inductive HasShape (s : Schematic) : TypeId → Value → Prop
  | bool {t : TypeId} {d : TypeDef} {b : Bool} (hd : s.typeDefinition t = .ok d)
    (hs : d.shape = .bool) : HasShape s t (.bool b)
  | int {t : TypeId} {d : TypeDef} {i : Int64} (hd : s.typeDefinition t = .ok d)
    (hs : d.shape = .int) : HasShape s t (.int i)
  | string {t : TypeId} {d : TypeDef} {text : String} (hd : s.typeDefinition t = .ok d)
    (hs : d.shape = .string) : HasShape s t (.string text)
  | real {t : TypeId} {d : TypeDef} {x : Float} (hd : s.typeDefinition t = .ok d)
    (hs : d.shape = .real) : HasShape s t (.real x)
  | array {t element : TypeId} {d : TypeDef} {items : List Value} (hd : s.typeDefinition t = .ok d)
    (hs : d.shape = .array element) (h : ∀ v ∈ items, HasShape s element v) :
    HasShape s t (.array t element items)

/-- Scalars, and arrays that each name a registered array type and the element of that type. -/
inductive Labelled (s : Schematic) : Value → Prop
  | bool (b : Bool) : Labelled s (.bool b)
  | int (i : Int64) : Labelled s (.int i)
  | string (text : String) : Labelled s (.string text)
  | real (x : Float) : Labelled s (.real x)
  | array {t element : TypeId} {d : TypeDef} {items : List Value} (hd : s.typeDefinition t = .ok d)
    (hs : d.shape = .array element) (h : ∀ v ∈ items, Labelled s v) :
    Labelled s (.array t element items)

inductive Stores (s : Schematic) : TypeId → String → Value → Prop
  | node {id : NodeId} {n : Node} {name : String} {v : Value} (hn : s.nodeById id = .ok n)
    (hv : (name, v) ∈ n.attributes.entries) : Stores s n.type name v
  | port {id : NodeId} {n : Node} {port name : String} {p : Port} {v : Value}
    (hn : s.nodeById id = .ok n) (hp : (port, p) ∈ n.ports.entries)
    (hv : (name, v) ∈ p.attributes.entries) : Stores s p.type name v
  | connection {id : ConnectionId} {k : Connection} {name : String} {v : Value}
    (hk : s.connectionById id = .ok k) (hv : (name, v) ∈ k.attributes.entries) :
    Stores s k.type name v
  | constraint {id : ConstraintId} {k : Constraint} {name : String} {v : Value}
    (hk : s.constraintById id = .ok k) (hv : (name, v) ∈ k.attributes.entries) :
    Stores s k.type name v

theorem Reachable.baseType (h : s.Reachable) {i : Nat} {name : String} {shape : Shape}
    (hi : BaseType.all[i]? = some (name, shape)) :
    s.typeDefinition ⟨i + 1⟩ = .ok ⟨some ⟨i + 1⟩, shape⟩ := by
  obtain ⟨title, rs, rfl⟩ := h
  apply typeDefinition_of_type?
  apply ((new title).grows_run rs).types
  match i, hi with
  | 0, rfl => rfl
  | 1, rfl => rfl
  | 2, rfl => rfl
  | 3, rfl => rfl

theorem HasShape.labelled {t : TypeId} {v : Value} (h : s.HasShape t v) : s.Labelled v := by
  induction h with
  | bool => exact .bool _
  | int => exact .int _
  | string => exact .string _
  | real => exact .real _
  | array hd hs _ ih => exact .array hd hs ih

theorem Labelled.hasShape (h : s.Reachable) {v : Value} (hv : s.Labelled v) {t : TypeId}
    (ht : v.type? = some t) (hd : v.defect? = none) : s.HasShape t v := by
  induction hv generalizing t with
  | bool b =>
    obtain rfl := Option.some.inj ht
    exact .bool (h.baseType (i := 0) rfl) rfl
  | int i =>
    obtain rfl := Option.some.inj ht
    exact .int (h.baseType (i := 1) rfl) rfl
  | string text =>
    obtain rfl := Option.some.inj ht
    exact .string (h.baseType (i := 2) rfl) rfl
  | real x =>
    obtain rfl := Option.some.inj ht
    exact .real (h.baseType (i := 3) rfl) rfl
  | array hdef hs _ ih =>
    obtain rfl := Option.some.inj ht
    refine .array hdef hs fun v hv => ?_
    obtain ⟨htype, hnone⟩ := itemDefect?_eq_none_iff.1 hd v hv
    exact ih v hv htype hnone

theorem Labelled.hasShape_iff (h : s.Reachable) {v : Value} {t : TypeId} (ht : v.type? = some t)
    (hd : v.defect? = none) : s.HasShape t v ↔ s.Labelled v :=
  ⟨HasShape.labelled, fun hv => hv.hasShape h ht hd⟩

theorem Stores.declared (hi : s.Intact) {owner : TypeId} {name : String} {v : Value}
    (h : s.Stores owner name v) : ∃ declared t, s.effectiveAttributes owner = .ok declared ∧
      declared.get? name = some t ∧ v.type? = some t := by
  have hfits {owner : TypeId} {values : Attributes} (hf : s.Fits owner values)
      (hv : (name, v) ∈ values.entries) : ∃ declared t, s.effectiveAttributes owner = .ok declared ∧
        declared.get? name = some t ∧ v.type? = some t := by
    obtain ⟨declared, hdeclared, hvalues⟩ := hf
    obtain ⟨t, ht, htype⟩ := hvalues _ hv
    exact ⟨declared, t, hdeclared, ht, htype⟩
  cases h with
  | node hn hv => exact hfits (hi.nodes _ _ hn).attributes hv
  | port hn hp hv =>
    obtain ⟨ports, -, hports⟩ := (hi.nodes _ _ hn).ports
    exact hfits (hports _ hp).2 hv
  | connection hk hv => exact hfits (hi.connections _ _ hk).attributes hv
  | constraint hk hv => exact hfits (hi.constraints _ _ hk).attributes hv

theorem Stores.defect?_eq_none (hs : s.verify = .ok ()) {owner : TypeId} {name : String} {v : Value}
    (h : s.Stores owner name v) : v.defect? = none := by
  obtain ⟨hnodes, hconnections, hconstraints⟩ := verify_eq_ok_iff.1 hs
  have hstored {κ : Kind} {α : Type} {t : InstanceTable κ α} {space : Namespace} {id : Handle κ}
      {a : α} (ha : Named.value <$> instanceEntry t space id = .ok a) :
      ∃ symbol, (⟨symbol, a⟩ : Named α) ∈ t.items.values := by
    obtain ⟨symbol, he⟩ := value_eq_ok_iff.1 ha
    exact ⟨symbol, Arena.mem_values_iff.2 ⟨id, he⟩⟩
  cases h with
  | node hn hv =>
    obtain ⟨symbol, he⟩ := hstored hn
    exact (Node.defect?_eq_none_iff.1 (hnodes _ he)).1 _ hv
  | port hn hp hv =>
    obtain ⟨symbol, he⟩ := hstored hn
    exact Port.defect?_eq_none_iff.1 ((Node.defect?_eq_none_iff.1 (hnodes _ he)).2 _ hp) _ hv
  | connection hk hv =>
    obtain ⟨symbol, he⟩ := hstored hk
    exact (Connection.defect?_eq_none_iff.1 (hconnections _ he)).2 _ hv
  | constraint hk hv =>
    obtain ⟨symbol, he⟩ := hstored hk
    exact Constraint.defect?_eq_none_iff.1 (hconstraints _ he) _ hv

/--
In a schematic that passes its check every value is of its declared type by its outermost label and
sound in itself. It has the shape of that type at every depth exactly when its arrays are labelled as
registered.
-/
theorem Reachable.verified_hasShape_iff (h : s.Reachable) (hs : s.verify = .ok ()) {owner : TypeId}
    {name : String} {v : Value} (hv : s.Stores owner name v) :
    ∃ declared t, s.effectiveAttributes owner = .ok declared ∧ declared.get? name = some t ∧
      v.type? = some t ∧ v.defect? = none ∧ (s.HasShape t v ↔ s.Labelled v) := by
  obtain ⟨declared, t, hdeclared, ht, htype⟩ := hv.declared h.built.intact
  have hnone := hv.defect?_eq_none hs
  exact ⟨declared, t, hdeclared, ht, htype, hnone, Labelled.hasShape_iff h htype hnone⟩

def silos : Schematic :=
  (new "silos").run
    [.userDefinedType "Row" (.array BaseType.int),
      .nodeType "Tank" { attributes := .ofList [("levels", ⟨5⟩)] },
      .node "t" ⟨⟨6⟩, .ofList [("levels", .array ⟨5⟩ BaseType.string [.string "high"])], ∅⟩,
      .node "u" ⟨⟨6⟩, .ofList [("levels", .array ⟨5⟩ BaseType.int [.int 4])], ∅⟩]

theorem silos_stores_mislabelled : silos.Reachable ∧ silos.verify = .ok () ∧
    silos.Stores ⟨6⟩ "levels" (.array ⟨5⟩ BaseType.string [.string "high"]) ∧
    silos.effectiveAttributes ⟨6⟩ = .ok (.ofList [("levels", ⟨5⟩)]) ∧
    ¬silos.HasShape ⟨5⟩ (.array ⟨5⟩ BaseType.string [.string "high"]) := by
  have hn : silos.nodeById ⟨0⟩ =
      .ok ⟨⟨6⟩, .ofList [("levels", .array ⟨5⟩ BaseType.string [.string "high"])], ∅⟩ := rfl
  refine ⟨⟨_, _, rfl⟩, rfl, .node hn List.mem_cons_self, rfl, fun h => ?_⟩
  cases h with
  | array hd hs =>
    have hrow : silos.typeDefinition ⟨5⟩ = .ok ⟨some ⟨5⟩, .array BaseType.int⟩ := rfl
    rw [hrow, Except.ok.injEq] at hd
    subst hd
    exact absurd hs (by decide)

theorem verified_hasShape_iff_silos : silos.Reachable ∧ silos.verify = .ok () ∧
    silos.Stores ⟨6⟩ "levels" (.array ⟨5⟩ BaseType.int [.int 4]) ∧
    silos.HasShape ⟨5⟩ (.array ⟨5⟩ BaseType.int [.int 4]) := by
  have h : silos.Reachable := ⟨_, _, rfl⟩
  have hs : silos.verify = .ok () := rfl
  have hn : silos.nodeById ⟨1⟩ =
      .ok ⟨⟨6⟩, .ofList [("levels", .array ⟨5⟩ BaseType.int [.int 4])], ∅⟩ := rfl
  have hv : silos.Stores ⟨6⟩ "levels" (.array ⟨5⟩ BaseType.int [.int 4]) :=
    .node hn List.mem_cons_self
  have hrow : silos.typeDefinition ⟨5⟩ = .ok ⟨some ⟨5⟩, .array BaseType.int⟩ := rfl
  obtain ⟨declared, t, -, -, htype, -, hiff⟩ := Reachable.verified_hasShape_iff h hs hv
  obtain rfl := Option.some.inj htype
  refine ⟨h, hs, hv, hiff.2 (.array hrow rfl fun v hv => ?_)⟩
  obtain rfl := List.mem_singleton.1 hv
  exact .int 4

end Schematic

end Schematics

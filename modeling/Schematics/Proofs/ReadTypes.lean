import Schematics.Proofs.DeepTyping
import Schematics.Proofs.TypedReading

/-!
What is read for a type is a value of that type when the type is a base type, or an array of such at
any depth. Scalars carry no handle: what is read for a scalar type of another name is a value of the
base type with the same shape.
-/

namespace Schematics

variable {s : Schematic} {t : TypeId} {d : TypeDef} {shape : Shape} {name text : String}
  {raw : Json} {v : Value}

def Shape.base? : Shape → Option TypeId
  | .bool => some BaseType.bool
  | .int => some BaseType.int
  | .string => some BaseType.string
  | .real => some BaseType.real
  | _ => none

theorem Shape.mem_handles_of_base? {b : TypeId} (hb : shape.base? = some b) :
    b ∈ BaseType.handles := by
  cases shape with
  | bool | int | string | real =>
    obtain rfl := Option.some.inj hb
    decide
  | array _ | port _ | node _ | connection _ | constraint _ => exact nomatch hb

theorem Shape.Writes.type? (h : shape.Writes text v) : v.type? = shape.base? := by cases h <;> rfl

theorem Shape.Writes.defect? (h : shape.Writes text v) : v.defect? = none := by cases h <;> rfl

namespace Schematic

/-- The base types, and the arrays that are made of them alone. -/
inductive Native (s : Schematic) : TypeId → Prop
  | base {t : TypeId} (h : t ∈ BaseType.handles) : Native s t
  | array {t element : TypeId} {d : TypeDef} (hd : s.typeDefinition t = .ok d)
    (hs : d.shape = .array element) (h : Native s element) : Native s t

def Declared (s : Schematic) (owner : TypeId) (attr : String) (t : TypeId) : Prop :=
  ∃ declared, s.effectiveAttributes owner = .ok declared ∧ declared.get? attr = some t

structure Admits (s : Schematic) (t : TypeId) (v : Value) : Prop where
  node : ∀ (n : Node) name attr, s.Declared n.type attr t → (∃ r, s.addNode name n = .ok r) →
    ∃ r, s.addNode name { n with attributes := n.attributes.insert attr v } = .ok r
  port : ∀ (n : Node) (p : Port) name port attr, n.ports.get? port = some p →
    s.Declared p.type attr t → (∃ r, s.addNode name n = .ok r) → ∃ r, s.addNode name
      { n with ports := n.ports.insert port { p with attributes := p.attributes.insert attr v } } =
        .ok r
  connection : ∀ (k : Connection) name attr, s.Declared k.type attr t →
    (∃ r, s.addConnection name k = .ok r) →
      ∃ r, s.addConnection name { k with attributes := k.attributes.insert attr v } = .ok r
  constraint : ∀ (k : Constraint) name attr, s.Declared k.type attr t →
    (∃ r, s.addConstraint name k = .ok r) →
      ∃ r, s.addConstraint name { k with attributes := k.attributes.insert attr v } = .ok r

theorem checkAttributes_insert {owner : TypeId} {values : Attributes} {attr : String}
    (ha : s.Declared owner attr t) (hv : v.type? = some t)
    (h : s.checkAttributes owner values = .ok ()) :
    s.checkAttributes owner (values.insert attr v) = .ok () := by
  obtain ⟨declared, hdeclared, hattr⟩ := ha
  obtain ⟨declared', hdeclared', hvalues⟩ := checkAttributes_eq_ok_iff.1 h
  obtain rfl := Except.ok.inj (hdeclared.symm.trans hdeclared')
  refine checkAttributes_eq_ok_iff.2 ⟨declared, hdeclared, fun e he => ?_⟩
  obtain rfl | he := NameMap.mem_place he
  · exact ⟨t, hattr, hv⟩
  · exact hvalues e he

theorem admits_of_type? (s : Schematic) (hv : v.type? = some t) (hd : v.defect? = none) :
    s.Admits t v := by
  constructor
  · rintro n name attr ha ⟨r, hr⟩
    obtain ⟨hcheck, -⟩ := addNode_eq_ok_iff.1 hr
    obtain ⟨hnew, hc, hattributes, hports⟩ := checkNode_eq_ok_iff.1 hcheck
    exact ⟨_, addNode_eq_ok_iff.2 ⟨checkNode_eq_ok_iff.2
      ⟨hnew, hc, checkAttributes_insert ha hv hattributes, hports⟩, rfl, rfl⟩⟩
  · rintro n p name port attr hp ha ⟨r, hr⟩
    obtain ⟨hcheck, -⟩ := addNode_eq_ok_iff.1 hr
    obtain ⟨hnew, hc, hattributes, declared, hdeclared, hports⟩ := checkNode_eq_ok_iff.1 hcheck
    refine ⟨_, addNode_eq_ok_iff.2 ⟨checkNode_eq_ok_iff.2
      ⟨hnew, hc, hattributes, declared, hdeclared, ?_⟩, rfl, rfl⟩⟩
    rw [checkPorts_eq_ok_iff] at hports ⊢
    intro e he
    obtain rfl | he := NameMap.mem_place he
    · obtain ⟨htype, hvalues⟩ := hports (port, p) (mem_of_lookup_eq_some hp)
      exact ⟨htype, checkAttributes_insert ha hv hvalues⟩
    · exact hports e he
  · rintro k name attr ha ⟨r, hr⟩
    obtain ⟨hcheck, -⟩ := addConnection_eq_ok_iff.1 hr
    obtain ⟨hnew, hc, hattributes, hsource, htarget, hdefect⟩ := checkConnection_eq_ok_iff.1 hcheck
    refine ⟨_, addConnection_eq_ok_iff.2 ⟨checkConnection_eq_ok_iff.2
      ⟨hnew, hc, checkAttributes_insert ha hv hattributes, hsource, htarget, ?_⟩, rfl, rfl⟩⟩
    rw [Connection.defect?_eq_none_iff] at hdefect ⊢
    refine ⟨hdefect.1, fun e he => ?_⟩
    obtain rfl | he := NameMap.mem_place he
    · exact hd
    · exact hdefect.2 e he
  · rintro k name attr ha ⟨r, hr⟩
    obtain ⟨hcheck, -⟩ := addConstraint_eq_ok_iff.1 hr
    obtain ⟨hnew, hc, hattributes⟩ := checkConstraint_eq_ok_iff.1 hcheck
    exact ⟨_, addConstraint_eq_ok_iff.2 ⟨checkConstraint_eq_ok_iff.2
      ⟨hnew, hc, checkAttributes_insert ha hv hattributes⟩, rfl, rfl⟩⟩

theorem Reachable.base?_eq (h : s.Reachable) (ht : t ∈ BaseType.handles)
    (hd : s.typeDefinition t = .ok d) : d.shape.base? = some t := by
  have hshape {i : Nat} {name : String} {shape : Shape} (hi : BaseType.all[i]? = some (name, shape))
      (hd : s.typeDefinition ⟨i + 1⟩ = .ok d) : d.shape = shape := by
    obtain rfl := Except.ok.inj ((h.baseType hi).symm.trans hd)
    rfl
  simp only [BaseType.handles, List.mem_cons, List.not_mem_nil, or_false] at ht
  obtain rfl | rfl | rfl | rfl := ht
  · rw [hshape (i := 0) rfl hd]
    rfl
  · rw [hshape (i := 1) rfl hd]
    rfl
  · rw [hshape (i := 2) rfl hd]
    rfl
  · rw [hshape (i := 3) rfl hd]
    rfl

end Schematic

namespace AttributeValue

theorem exists_read_of_base? {b : TypeId} (hd : s.typeDefinition t = .ok d)
    (hb : d.shape.base? = some b) :
    ∃ raw, ∀ name, ∃ v, read s t name raw = .ok v ∧ v.type? = some b := by
  have hread {text : String} (h : d.shape.Takes text) (name : String) :
      ∃ v, read s t name (.string text) = .ok v ∧ v.type? = some b := by
    obtain ⟨v, hv⟩ := exists_readScalar_iff.2 h
    exact ⟨v, (read_scalar_eq_ok_iff rfl).2 ⟨d, hd, hv⟩, (readScalar_eq_ok_iff.1 hv).type?.trans hb⟩
  cases hshape : d.shape with
  | bool =>
    have htakes : Shape.bool.Takes "true" := .inl rfl
    exact ⟨_, hread (hshape ▸ htakes)⟩
  | int =>
    have htakes : Shape.int.Takes "0" := Decimal.isSome_readInt64?_iff.1 rfl
    exact ⟨_, hread (hshape ▸ htakes)⟩
  | string =>
    have htakes : Shape.string.Takes "" := trivial
    exact ⟨_, hread (hshape ▸ htakes)⟩
  | real =>
    have htakes : Shape.real.Takes "0" := Decimal.isSome_readReal?_iff.1 rfl
    exact ⟨_, hread (hshape ▸ htakes)⟩
  | array _ | port _ | node _ | connection _ | constraint _ =>
    rw [hshape] at hb
    exact nomatch hb

end AttributeValue

namespace Schematic

theorem Native.type?_of_writes (h : s.Reachable) (ht : s.Native t) (hv : s.Writes t raw v) :
    v.type? = some t ∧ v.defect? = none := by
  induction ht generalizing raw v with
  | base ht =>
    cases hv with
    | scalar hd _ hv => exact ⟨hv.type?.trans (h.base?_eq ht hd), hv.defect?⟩
    | array hd hs =>
      have hbase := h.base?_eq ht hd
      rw [hs] at hbase
      exact nomatch hbase
  | array hd hs _ ih =>
    cases hv with
    | scalar hd' _ hv =>
      obtain rfl := Except.ok.inj (hd.symm.trans hd')
      rw [hs] at hv
      exact nomatch hv
    | array hd' hs' hl hitems =>
      obtain rfl := Except.ok.inj (hd.symm.trans hd')
      obtain rfl := Shape.array.inj (hs.symm.trans hs')
      refine ⟨rfl, itemDefect?_eq_none_iff.2 fun v hv => ?_⟩
      rw [← List.map_snd_zip hl.ge] at hv
      obtain ⟨⟨raw, _⟩, hmem, rfl⟩ := List.mem_map.1 hv
      exact ih (hitems raw _ hmem)

theorem Reachable.exists_read_of_not_native (h : s.Reachable) (hd : s.type? t = some d)
    (hc : d.category = .userDefined) (ht : ¬s.Native t) : ∃ raw, ∀ name, ∃ v,
      AttributeValue.read s t name raw = .ok v ∧ ¬(v.type? = some t ∧ v.defect? = none) := by
  induction hn : t.raw using Nat.strongRecOn generalizing t d with
  | ind n ih =>
    have hdefinition := typeDefinition_of_type? hd
    have hscalar {b : TypeId} (hb : d.shape.base? = some b) : ∃ raw, ∀ name, ∃ v,
        AttributeValue.read s t name raw = .ok v ∧ ¬(v.type? = some t ∧ v.defect? = none) := by
      obtain ⟨raw, hraw⟩ := AttributeValue.exists_read_of_base? hdefinition hb
      refine ⟨raw, fun name => ?_⟩
      obtain ⟨v, hv, htype⟩ := hraw name
      refine ⟨v, hv, fun hright => ht (.base ?_)⟩
      obtain rfl := Option.some.inj (htype.symm.trans hright.1)
      exact Shape.mem_handles_of_base? hb
    cases hshape : d.shape with
    | port _ | node _ | connection _ | constraint _ =>
      rw [TypeDef.category, hshape] at hc
      cases hc
    | array element =>
      obtain ⟨hlt, e, he, hce⟩ := h.built.grounded t d hd element _ (.element (by rw [hshape]; rfl))
      obtain ⟨raw, hraw⟩ := ih element.raw (hn ▸ hlt) he hce
        (fun hnative => ht (.array hdefinition hshape hnative)) rfl
      refine ⟨.array [raw], fun name => ?_⟩
      obtain ⟨v, hv, hwrong⟩ := hraw s!"{name}[{0}]"
      refine ⟨.array t element [v], AttributeValue.read_array_eq_ok_iff.2 ⟨d, hdefinition, element,
        hshape, [v], ?_, rfl⟩, fun hright => hwrong ?_⟩
      · exact AttributeValue.readItems_cons_eq_ok_iff.2 ⟨v, hv, [], rfl, rfl⟩
      · exact itemDefect?_eq_none_iff.1 hright.2 v (List.mem_singleton_self v)
    | bool | int | string | real => exact hscalar (by rw [hshape]; rfl)

/--
A user-defined type has the values that are read for it as values of its own, sound in themselves and
admitted wherever the type is declared, exactly when it is made of base types alone.
-/
theorem Reachable.reads_own_iff (h : s.Reachable) (hd : s.typeDefinition t = .ok d)
    (hc : d.category = .userDefined) :
    (∀ name raw v, AttributeValue.readDeclared s (some t) name raw = .ok v →
      v.type? = some t ∧ Defect.check v.defect? = .ok () ∧ ∀ rs, (s.run rs).Admits t v) ↔
        s.Native t := by
  constructor
  · intro hown
    by_contra ht
    obtain ⟨raw, hraw⟩ := h.exists_read_of_not_native (typeDefinition_eq_ok_iff.1 hd) hc ht
    obtain ⟨v, hv, hwrong⟩ := hraw ""
    obtain ⟨htype, hsound, -⟩ := hown "" raw v hv
    exact hwrong ⟨htype, Defect.check_eq_ok_iff.1 hsound⟩
  · intro ht name raw v hv
    obtain ⟨htype, hsound⟩ := ht.type?_of_writes h ((AttributeValue.read_eq_ok_iff s t name raw).1 hv)
    exact ⟨htype, Defect.check_eq_ok_iff.2 hsound, fun rs => (s.run rs).admits_of_type? htype hsound⟩

def gauges : Schematic :=
  (new "gauges").run
    [.userDefinedType "Metres" .int,
      .constraintType "Limit" { attributes := .ofList [("at", ⟨5⟩)] },
      .userDefinedType "Row" (.array BaseType.real),
      .userDefinedType "Grid" (.array ⟨7⟩)]

theorem gauges_reads_other : gauges.Reachable ∧
    gauges.typeDefinition ⟨5⟩ = .ok ⟨some ⟨5⟩, .int⟩ ∧
    AttributeValue.readDeclared gauges (some ⟨5⟩) "at" (.string "3") = .ok (.int 3) ∧
    (Value.int 3).type? ≠ some ⟨5⟩ ∧
    gauges.addConstraint "k" ⟨⟨6⟩, .ofList [("at", .int 3)]⟩ =
      .error (.typeMismatch "attribute `at`" "Metres" "Int") :=
  ⟨⟨_, _, rfl⟩, rfl, rfl, by decide, rfl⟩

theorem reads_own_iff_gauges : gauges.Reachable ∧
    gauges.typeDefinition ⟨8⟩ = .ok ⟨some ⟨8⟩, .array ⟨7⟩⟩ ∧
    AttributeValue.readDeclared gauges (some ⟨8⟩) "marks" (.array [.array []]) =
      .ok (.array ⟨8⟩ ⟨7⟩ [.array ⟨7⟩ BaseType.real []]) ∧
    ∀ rs, (gauges.run rs).Admits ⟨8⟩ (.array ⟨8⟩ ⟨7⟩ [.array ⟨7⟩ BaseType.real []]) := by
  have h : gauges.Reachable := ⟨_, _, rfl⟩
  have hrow : gauges.typeDefinition ⟨7⟩ = .ok ⟨some ⟨7⟩, .array BaseType.real⟩ := rfl
  have hgrid : gauges.typeDefinition ⟨8⟩ = .ok ⟨some ⟨8⟩, .array ⟨7⟩⟩ := rfl
  have hnative : gauges.Native ⟨8⟩ := .array hgrid rfl (.array hrow rfl (.base (by decide)))
  have hread : AttributeValue.readDeclared gauges (some ⟨8⟩) "marks" (.array [.array []]) =
      .ok (.array ⟨8⟩ ⟨7⟩ [.array ⟨7⟩ BaseType.real []]) := rfl
  obtain ⟨-, -, hadmits⟩ := (h.reads_own_iff hgrid rfl).2 hnative _ _ _ hread
  exact ⟨h, hgrid, hread, hadmits⟩

end Schematic

end Schematics

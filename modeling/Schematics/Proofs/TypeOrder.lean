import Schematics.Proofs.TypeChecks

/-!
Whatever a type mentions was registered before it, so that every lineage ends. The invariant is that
each mentioned handle is smaller than the handle of the type that mentions it; climbing from a type
then takes fewer links than there are types, and none of the failures on the way can occur.
-/

namespace Schematics

namespace Schematic

variable {s : Schematic}

def Grounded (s : Schematic) : Prop :=
  ∀ id d, s.type? id = some d → ∀ t c, d.shape.Mentions t c →
    t.raw < id.raw ∧ ∃ d', s.type? t = some d' ∧ d'.category = c

theorem raw_le_size {id : TypeId} {d : TypeDef} (h : s.type? id = some d) :
    0 < id.raw ∧ id.raw ≤ s.types.size := by
  obtain ⟨symbol, he⟩ := type?_eq_some_iff.1 h
  obtain ⟨i, rfl, hi⟩ := Arena.get?_eq_some_iff.1 he
  obtain ⟨hlt, -⟩ := Array.getElem?_eq_some_iff.1 hi
  simp only [Handle.ofSlot, Kind.first, Arena.size]
  omega

theorem next_raw (s : Schematic) : s.types.next.raw = s.types.size + 1 := rfl

theorem type?_recordType {name : String} {shape : Shape} {id : TypeId} {d : TypeDef} :
    (s.recordType name shape).type? id = some d ↔
      s.type? id = some d ∨ (id = s.types.next ∧ d = ⟨some s.types.next, shape⟩) := by
  have halloc (symbol : Symbol) :
      (s.recordType name shape).types.get? id = some ⟨symbol, d⟩ ↔
        s.types.get? id = some ⟨symbol, d⟩ ∨ (id = s.types.next ∧
          (⟨symbol, d⟩ : Named TypeDef) = ⟨(s.names.intern name).1, ⟨some s.types.next, shape⟩⟩) :=
    Arena.get?_alloc_eq_some_iff
  simp only [type?_eq_some_iff, halloc, Named.mk.injEq]
  constructor
  · rintro ⟨symbol, h | ⟨rfl, -, rfl⟩⟩
    · exact .inl ⟨symbol, h⟩
    · exact .inr ⟨rfl, rfl⟩
  · rintro (⟨symbol, h⟩ | ⟨rfl, rfl⟩)
    · exact ⟨symbol, .inl h⟩
    · exact ⟨_, .inr ⟨rfl, rfl, rfl⟩⟩

theorem Grounded.recordType (h : s.Grounded) {name : String} {shape : Shape}
    (hc : s.checkType name shape = .ok ()) : (s.recordType name shape).Grounded := by
  intro id d hd t c hm
  obtain hd | ⟨rfl, rfl⟩ := type?_recordType.1 hd
  · obtain ⟨hlt, d', hd', hc'⟩ := h id d hd t c hm
    exact ⟨hlt, d', type?_recordType.2 (.inl hd'), hc'⟩
  · obtain ⟨d', hd', hc'⟩ := requireCategory_eq_ok_iff.1 ((checkType_eq_ok_iff.1 hc).2.1 t c hm)
    have hle := (raw_le_size hd').2
    rw [next_raw]
    exact ⟨by omega, d', type?_recordType.2 (.inl hd'), hc'⟩

theorem Built.grounded (h : s.Built) : s.Grounded := by
  induction h with
  | blank name =>
    intro id d hd
    simp [type?, Arena.get?_empty] at hd
  | @record s i _ hi ih =>
    cases i with
    | type name shape => exact ih.recordType hi
    | node name n => exact ih
    | connection name c => exact ih
    | constraint name c => exact ih

theorem Grounded.supertype_induction (h : s.Grounded) {p : TypeId → TypeDef → Prop}
    (step : ∀ id d, s.type? id = some d → (∀ parent, d.shape.supertype = some parent →
      ∃ d', s.type? parent = some d' ∧ d'.category = d.category ∧ p parent d') → p id d)
    {id : TypeId} {d : TypeDef} (hd : s.type? id = some d) : p id d := by
  induction hn : id.raw using Nat.strongRecOn generalizing id d with
  | ind n ih =>
    apply step id d hd
    intro parent hp
    obtain ⟨hlt, d', hd', hc⟩ := h id d hd parent _ (.supertype hp)
    exact ⟨d', hd', hc, ih parent.raw (hn ▸ hlt) hd' rfl⟩

theorem typeDefinition_of_type? {id : TypeId} {d : TypeDef} (h : s.type? id = some d) :
    s.typeDefinition id = .ok d := typeDefinition_eq_ok_iff.2 h

theorem lineage_of_type? {id : TypeId} {d : TypeDef} (h : s.type? id = some d) :
    s.lineage id =
      ((id, d) :: ·) <$> s.climb id d.category s.types.size d.shape.supertype := by
  rw [lineage, typeDefinition_of_type? h]
  rfl

theorem Grounded.climb_eq_lineage (h : s.Grounded) (start : TypeId) {c : Category} {next : TypeId}
    {d : TypeDef} (hd : s.type? next = some d) (hc : d.category = c) {links : Nat}
    (hlinks : next.raw ≤ links) : s.climb start c links (some next) = s.lineage next := by
  induction hn : next.raw using Nat.strongRecOn generalizing start next d links with
  | ind n ih =>
    obtain ⟨symbol, he⟩ := type?_eq_some_iff.1 hd
    have hpos := (raw_le_size hd).1
    have hsize := (raw_le_size hd).2
    obtain ⟨links, rfl⟩ : ∃ k, links = k + 1 := ⟨links - 1, by omega⟩
    rw [lineage_of_type? hd, climb]
    simp only [he, hc, if_true]
    cases hp : d.shape.supertype with
    | none => simp only [climb]
    | some parent =>
      obtain ⟨hlt, d', hd', hc'⟩ := h next d hd parent _ (.supertype hp)
      have hcategory : d'.category = c := hc' ▸ hc
      rw [ih parent.raw (hn ▸ hlt) start hd' hcategory (by omega) rfl,
        ih parent.raw (hn ▸ hlt) next hd' hcategory (by omega) rfl]

theorem Grounded.lineage_eq (h : s.Grounded) {id : TypeId} {d : TypeDef}
    (hd : s.type? id = some d) : s.lineage id =
      ((id, d) :: ·) <$> d.shape.supertype.elim (.ok []) s.lineage := by
  rw [lineage_of_type? hd]
  cases hp : d.shape.supertype with
  | none => simp only [climb, Option.elim_none]
  | some parent =>
    obtain ⟨hlt, d', hd', hc'⟩ := h id d hd parent _ (.supertype hp)
    have hsize := (raw_le_size hd).2
    have hcategory : d'.category = d.category := hc'
    rw [h.climb_eq_lineage id hd' hcategory (by omega), Option.elim_some]

structure Above (s : Schematic) (id : TypeId) (d : TypeDef) (above : List (TypeId × TypeDef)) :
    Prop where
  lineage : s.lineage id = .ok ((id, d) :: above)
  smaller : ∀ link ∈ above, link.1.raw < id.raw
  descending : above.Pairwise fun a b => b.1.raw < a.1.raw
  registered : ∀ link ∈ above, s.type? link.1 = some link.2 ∧ link.2.category = d.category

theorem Grounded.exists_above (h : s.Grounded) {id : TypeId} {d : TypeDef}
    (hd : s.type? id = some d) : ∃ above, s.Above id d above := by
  refine h.supertype_induction (p := fun id d => ∃ above, s.Above id d above) ?_ hd
  intro id d hd ih
  have hline := h.lineage_eq hd
  cases hp : d.shape.supertype with
  | none =>
    rw [hp] at hline
    exact ⟨[], hline, by simp, by simp, by simp⟩
  | some parent =>
    obtain ⟨d', hd', hc, above, hab⟩ := ih parent hp
    have hbelow := (h id d hd parent _ (.supertype hp)).1
    rw [hp, Option.elim_some, hab.lineage] at hline
    refine ⟨(parent, d') :: above, hline, ?_, List.pairwise_cons.2 ⟨hab.smaller, hab.descending⟩, ?_⟩
    · intro link hl
      obtain rfl | hl := List.mem_cons.1 hl
      · exact hbelow
      · exact Nat.lt_trans (hab.smaller link hl) hbelow
    · intro link hl
      obtain rfl | hl := List.mem_cons.1 hl
      · exact ⟨hd', hc⟩
      · exact ⟨(hab.registered link hl).1, (hab.registered link hl).2.trans hc⟩

theorem Grounded.effectiveAttributes_eq (h : s.Grounded) {id : TypeId} {d : TypeDef}
    (hd : s.type? id = some d) : s.effectiveAttributes id =
      (·.override d.shape.attributes) <$> d.shape.supertype.elim (.ok ∅) s.effectiveAttributes := by
  rw [effectiveAttributes, h.lineage_eq hd]
  cases d.shape.supertype with
  | none => rfl
  | some parent =>
    simp only [Option.elim_some, effectiveAttributes]
    cases s.lineage parent <;> rfl

theorem Grounded.effectivePorts_eq (h : s.Grounded) {id : TypeId} {d : TypeDef}
    (hd : s.type? id = some d) {own : NameMap TypeId} (hown : d.shape.ports? = some own) :
    s.effectivePorts id =
      (·.override own) <$> d.shape.supertype.elim (.ok ∅) s.effectivePorts := by
  rw [effectivePorts, h.lineage_eq hd]
  cases d.shape.supertype with
  | none =>
    change inheritPorts [(id, d)] = .ok (NameMap.override ∅ own)
    simp [inheritPorts, hown, bind, Except.bind]
  | some parent =>
    simp only [Option.elim_some, effectivePorts]
    cases s.lineage parent with
    | error e => rfl
    | ok line =>
      change inheritPorts ((id, d) :: line) = (·.override own) <$> inheritPorts line
      rw [inheritPorts, hown]
      cases inheritPorts line <;> rfl

theorem exists_ports_iff {shape : Shape} :
    (∃ own, shape.ports? = some own) ↔ shape.category = .node := by
  cases shape <;> simp [Shape.ports?, Shape.category]

theorem Grounded.exists_effectiveAttributes (h : s.Grounded) {id : TypeId} {d : TypeDef}
    (hd : s.type? id = some d) : ∃ m, s.effectiveAttributes id = .ok m := by
  obtain ⟨above, hab⟩ := h.exists_above hd
  exact ⟨_, by rw [effectiveAttributes, hab.lineage]; rfl⟩

theorem Grounded.exists_effectivePorts (h : s.Grounded) {id : TypeId} {d : TypeDef}
    (hd : s.type? id = some d) (hc : d.category = .node) : ∃ m, s.effectivePorts id = .ok m := by
  revert hc
  refine h.supertype_induction
    (p := fun id d => d.category = .node → ∃ m, s.effectivePorts id = .ok m) ?_ hd
  intro id d hd ih hc
  obtain ⟨own, hown⟩ := exists_ports_iff.2 hc
  rw [h.effectivePorts_eq hd hown]
  cases hp : d.shape.supertype with
  | none => exact ⟨_, rfl⟩
  | some parent =>
    obtain ⟨d', -, hc', hports⟩ := ih parent hp
    obtain ⟨m, hm⟩ := hports (hc'.trans hc)
    exact ⟨_, by rw [Option.elim_some, hm]; rfl⟩

end Schematic

end Schematics

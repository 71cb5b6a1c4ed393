import Schematics.Proofs.Indexes

namespace Schematics

inductive Shape.Mentions (shape : Shape) : TypeId → Category → Prop where
  | element {t : TypeId} (h : shape.element? = some t) : Mentions shape t .userDefined
  | declared {name : String} {t : TypeId} (h : (name, t) ∈ shape.attributes.entries) :
    Mentions shape t .userDefined
  | port {ports : NameMap TypeId} {name : String} {t : TypeId} (hp : shape.ports? = some ports)
    (h : (name, t) ∈ ports.entries) : Mentions shape t .port
  | supertype {t : TypeId} (h : shape.supertype = some t) : Mentions shape t shape.category

def Compatible (declared inherited : NameMap TypeId) : Prop :=
  ∀ e ∈ declared.entries, ∀ t, inherited.get? e.1 = some t → t = e.2

namespace Schematic

variable {s : Schematic}

def type? (s : Schematic) (id : TypeId) : Option TypeDef := (s.types.get? id).map Named.value

theorem type?_eq_some_iff {id : TypeId} {d : TypeDef} :
    s.type? id = some d ↔ ∃ symbol, s.types.get? id = some ⟨symbol, d⟩ := by
  rw [type?, Option.map_eq_some_iff]
  exact ⟨fun ⟨⟨symbol, _⟩, he, hd⟩ => ⟨symbol, hd ▸ he⟩, fun ⟨symbol, hd⟩ => ⟨_, hd, rfl⟩⟩

theorem typeDefinition_eq_ok_iff {id : TypeId} {d : TypeDef} :
    s.typeDefinition id = .ok d ↔ s.type? id = some d := by
  rw [typeDefinition, map_eq_ok_iff]
  unfold typeEntry type?
  cases s.types.get? id <;> simp

theorem requireCategory_eq_ok_iff {c : Category} {id : TypeId} :
    s.requireCategory c id = .ok () ↔ ∃ d, s.type? id = some d ∧ d.category = c := by
  unfold requireCategory type?
  cases s.types.get? id with
  | none => simp
  | some e => by_cases hc : e.value.category = c <;> simp [hc]

theorem checkMembers_eq_ok_iff {c : Category} {members : NameMap TypeId} :
    s.checkMembers c members = .ok () ↔
      ∀ e ∈ members.entries, s.requireCategory c e.2 = .ok () := forM_eq_ok_iff

theorem checkRedeclared_eq_ok_iff {owner what : String} {declared inherited : NameMap TypeId} :
    s.checkRedeclared owner what declared inherited = .ok () ↔ Compatible declared inherited := by
  unfold checkRedeclared Compatible
  rw [forM_eq_ok_iff]
  apply forall₂_congr
  intro e _
  cases inherited.get? e.1 with
  | none => simp
  | some parent => by_cases hp : parent = e.2 <;> simp [hp]

structure Extends (s : Schematic) (shape : Shape) (parent : TypeId) : Prop where
  category : s.requireCategory shape.category parent = .ok ()
  attributes : ∃ inherited, s.effectiveAttributes parent = .ok inherited ∧
    Compatible shape.attributes inherited
  ports : ∀ ports, shape.ports? = some ports → ∃ inherited,
    s.effectivePorts parent = .ok inherited ∧ Compatible ports inherited

theorem checkInherited_eq_ok_iff {name : String} {shape : Shape} {parent : TypeId} :
    s.checkInherited name shape parent = .ok () ↔ s.Extends shape parent := by
  cases hp : shape.ports? with
  | none =>
    simp only [checkInherited, hp, bind_eq_ok_iff, exists_unit_iff, checkRedeclared_eq_ok_iff]
    constructor
    · rintro ⟨hc, inherited, ha, hm, -⟩
      exact ⟨hc, ⟨inherited, ha, hm⟩, fun ports hports => by simp [hp] at hports⟩
    · rintro ⟨hc, ⟨inherited, ha, hm⟩, -⟩
      exact ⟨hc, inherited, ha, hm, rfl⟩
  | some ports =>
    simp only [checkInherited, hp, bind_eq_ok_iff, exists_unit_iff, checkRedeclared_eq_ok_iff]
    constructor
    · rintro ⟨hc, inherited, ha, hm, inheritedPorts, hq, hn⟩
      refine ⟨hc, ⟨inherited, ha, hm⟩, fun own hown => ?_⟩
      rw [hp, Option.some.injEq] at hown
      exact hown ▸ ⟨inheritedPorts, hq, hn⟩
    · rintro ⟨hc, ⟨inherited, ha, hm⟩, hports⟩
      obtain ⟨inheritedPorts, hq, hn⟩ := hports ports hp
      exact ⟨hc, inherited, ha, hm, inheritedPorts, hq, hn⟩

theorem checkElement_eq_ok_iff {shape : Shape} : s.checkElement shape = .ok () ↔
    ∀ t, shape.element? = some t → s.requireCategory .userDefined t = .ok () := by
  unfold checkElement
  cases shape.element? <;> simp

theorem checkSupertype_eq_ok_iff {name : String} {shape : Shape} :
    s.checkSupertype name shape = .ok () ↔
      ∀ parent, shape.supertype = some parent → s.Extends shape parent := by
  unfold checkSupertype
  cases shape.supertype <;> simp [checkInherited_eq_ok_iff]

theorem forall_mentions_iff {shape : Shape} :
    (∀ t c, shape.Mentions t c → s.requireCategory c t = .ok ()) ↔
      s.checkElement shape = .ok () ∧ s.checkMembers .userDefined shape.attributes = .ok () ∧
        s.checkMembers .port (shape.ports?.getD ∅) = .ok () ∧
        ∀ parent, shape.supertype = some parent →
          s.requireCategory shape.category parent = .ok () := by
  rw [checkElement_eq_ok_iff, checkMembers_eq_ok_iff, checkMembers_eq_ok_iff]
  constructor
  · intro hm
    refine ⟨fun t h => hm t _ (.element h), fun e h => hm e.2 _ (.declared h), fun e h => ?_,
      fun t h => hm t _ (.supertype h)⟩
    cases hports : shape.ports? with
    | none => exact absurd (hports ▸ h) List.not_mem_nil
    | some ports => exact hm e.2 _ (.port hports (by rwa [hports] at h))
  · rintro ⟨he, ha, hp, hs⟩ t c hm
    cases hm with
    | element h => exact he t h
    | declared h => exact ha _ h
    | port hports h => exact hp _ (by rwa [hports])
    | supertype h => exact hs t h

theorem checkType_eq_ok_iff {name : String} {shape : Shape} :
    s.checkType name shape = .ok () ↔ s.find? s.typeNames name = none ∧
      (∀ t c, shape.Mentions t c → s.requireCategory c t = .ok ()) ∧
      ∀ parent, shape.supertype = some parent → s.Extends shape parent := by
  simp only [checkType, guard_eq_ok_iff, Option.not_isSome_iff_eq_none, bind_eq_ok_iff,
    exists_unit_iff, checkSupertype_eq_ok_iff, forall_mentions_iff]
  apply and_congr_right
  intro _
  constructor
  · rintro ⟨he, ha, hp, hs⟩
    exact ⟨⟨he, ha, hp, fun parent h => (hs parent h).category⟩, hs⟩
  · rintro ⟨⟨he, ha, hp, -⟩, hs⟩
    exact ⟨he, ha, hp, hs⟩

end Schematic

end Schematics

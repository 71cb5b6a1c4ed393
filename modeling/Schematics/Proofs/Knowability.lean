import Schematics.Proofs.Coherence
import Schematics.Value.Knowable

namespace Schematics

section

variable {items : List Value} {attributes : List (String × Value)} {ports : List (String × Port)}

theorem areElaborationKnowable_iff :
    areElaborationKnowable items = true ↔ ∀ v ∈ items, v.isElaborationKnowable = true := by
  induction items with
  | nil => simp [areElaborationKnowable]
  | cons v rest ih => rw [areElaborationKnowable, Bool.and_eq_true, ih, List.forall_mem_cons]

theorem attributesElaborationKnowable_iff : attributesElaborationKnowable attributes = true ↔
    ∀ e ∈ attributes, e.2.isElaborationKnowable = true := by
  induction attributes with
  | nil => simp [attributesElaborationKnowable]
  | cons e rest ih =>
    rw [attributesElaborationKnowable, Bool.and_eq_true, ih, List.forall_mem_cons]

theorem portsElaborationKnowable_iff : portsElaborationKnowable ports = true ↔
    ∀ p ∈ ports, ∀ e ∈ p.2.attributes.entries, e.2.isElaborationKnowable = true := by
  induction ports with
  | nil => simp [portsElaborationKnowable]
  | cons p rest ih =>
    rw [portsElaborationKnowable, Bool.and_eq_true, ih, attributesElaborationKnowable_iff,
      List.forall_mem_cons]

theorem areRuntimeKnowable_iff :
    areRuntimeKnowable items = true ↔ ∀ v ∈ items, v.isRuntimeKnowable = true := by
  induction items with
  | nil => simp [areRuntimeKnowable]
  | cons v rest ih => rw [areRuntimeKnowable, Bool.and_eq_true, ih, List.forall_mem_cons]

theorem attributesRuntimeKnowable_iff : attributesRuntimeKnowable attributes = true ↔
    ∀ e ∈ attributes, e.2.isRuntimeKnowable = true := by
  induction attributes with
  | nil => simp [attributesRuntimeKnowable]
  | cons e rest ih => rw [attributesRuntimeKnowable, Bool.and_eq_true, ih, List.forall_mem_cons]

theorem portsRuntimeKnowable_iff : portsRuntimeKnowable ports = true ↔
    ∀ p ∈ ports, ∀ e ∈ p.2.attributes.entries, e.2.isRuntimeKnowable = true := by
  induction ports with
  | nil => simp [portsRuntimeKnowable]
  | cons p rest ih =>
    rw [portsRuntimeKnowable, Bool.and_eq_true, ih, attributesRuntimeKnowable_iff,
      List.forall_mem_cons]

end

namespace Value

variable {v w part : Value}

inductive Static : Value → Prop
  | type (d : TypeDef) : Static (.type d)
  | constraint (k : Constraint) : Static (.constraint k)

/-- What stands immediately in a value that is not a constraint. -/
def Exposes (v w : Value) : Prop := v.Holds w ∧ ∀ k, v ≠ .constraint k

abbrev ExposesPart : Value → Value → Prop := Relation.ReflTransGen Exposes

theorem forall_exposed_item {t element : TypeId} {items : List Value} {p : Value → Prop} :
    (∀ w, (Value.array t element items).Exposes w → p w) ↔ ∀ w ∈ items, p w := by
  constructor
  · exact fun h w hw => h w ⟨.item hw, nofun⟩
  · rintro h w ⟨hw | _, -⟩
    exact h w hw

theorem forall_exposed_node {n : Node} {p : Value → Prop} :
    (∀ w, (Value.node n).Exposes w → p w) ↔ (∀ e ∈ n.attributes.entries, p e.2) ∧
      ∀ port ∈ n.ports.entries, ∀ e ∈ port.2.attributes.entries, p e.2 := by
  constructor
  · intro h
    exact ⟨fun e he => h e.2 ⟨.nodeAttribute he, nofun⟩,
      fun port hport e he => h e.2 ⟨.portAttribute hport he, nofun⟩⟩
  · rintro ⟨hattributes, hports⟩ w ⟨hw, -⟩
    cases hw with
    | nodeAttribute he => exact hattributes _ he
    | portAttribute hport he => exact hports _ hport _ he

theorem forall_exposed_connection {k : Connection} {p : Value → Prop} :
    (∀ w, (Value.connection k).Exposes w → p w) ↔ ∀ e ∈ k.attributes.entries, p e.2 := by
  constructor
  · exact fun h e he => h e.2 ⟨.connectionAttribute he, nofun⟩
  · rintro h w ⟨hw, -⟩
    cases hw with
    | connectionAttribute he => exact h _ he

theorem not_exposes_constraint {k : Constraint} : ¬(Value.constraint k).Exposes w :=
  fun h => h.2 k rfl

theorem isElaborationKnowable_iff :
    v.isElaborationKnowable = true ↔ ∀ w, v.Exposes w → w.isElaborationKnowable = true := by
  cases v with
  | array t element items =>
    rw [isElaborationKnowable, areElaborationKnowable_iff, forall_exposed_item]
  | node n =>
    rw [isElaborationKnowable, Bool.and_eq_true, attributesElaborationKnowable_iff,
      portsElaborationKnowable_iff, forall_exposed_node]
  | connection k =>
    rw [isElaborationKnowable, attributesElaborationKnowable_iff, forall_exposed_connection]
  | constraint k => exact iff_of_true rfl fun w hw => absurd hw not_exposes_constraint
  | bool _ | int _ | string _ | real _ | type _ => exact iff_of_true rfl fun w hw => nomatch hw.1

theorem isRuntimeKnowable_iff : v.isRuntimeKnowable = true ↔
    ¬v.Static ∧ ∀ w, v.Exposes w → w.isRuntimeKnowable = true := by
  cases v with
  | array t element items =>
    rw [isRuntimeKnowable, areRuntimeKnowable_iff, forall_exposed_item]
    exact (and_iff_right nofun).symm
  | node n =>
    rw [isRuntimeKnowable, Bool.and_eq_true, attributesRuntimeKnowable_iff,
      portsRuntimeKnowable_iff, forall_exposed_node]
    exact (and_iff_right nofun).symm
  | connection k =>
    rw [isRuntimeKnowable, attributesRuntimeKnowable_iff, forall_exposed_connection]
    exact (and_iff_right nofun).symm
  | type d => exact iff_of_false nofun fun h => h.1 (.type d)
  | constraint k => exact iff_of_false nofun fun h => h.1 (.constraint k)
  | bool _ | int _ | string _ | real _ =>
    exact iff_of_true rfl ⟨nofun, fun w hw => nomatch hw.1⟩

theorem ExposesPart.hasPart (h : v.ExposesPart part) : v.HasPart part :=
  Relation.ReflTransGen.mono (r := Exposes) (fun _ _ hw => hw.1) v part h

theorem exposesPart_or_constraint (h : v.HasPart part) :
    v.ExposesPart part ∨ ∃ k, v.ExposesPart (.constraint k) := by
  induction h with
  | refl => exact .inl .refl
  | @tail b c _ hc ih =>
    obtain hb | hk := ih
    · by_cases hconstraint : ∃ k, b = .constraint k
      · obtain ⟨k, rfl⟩ := hconstraint
        exact .inr ⟨k, hb⟩
      · exact .inl (hb.tail ⟨hc, fun k hk => hconstraint ⟨k, hk⟩⟩)
    · exact .inr hk

theorem forall_hasPart_iff : (∀ part, v.HasPart part → ¬part.Static) ↔
    ∀ part, v.ExposesPart part → ¬part.Static := by
  constructor
  · exact fun h part hpart => h part hpart.hasPart
  · intro h part hpart hstatic
    obtain hpart | ⟨k, hk⟩ := exposesPart_or_constraint hpart
    · exact h part hpart hstatic
    · exact h _ hk (.constraint k)

theorem elaborationKnowable (v : Value) : v.isElaborationKnowable = true := by
  induction v using holds_induction with
  | step v ih => exact isElaborationKnowable_iff.2 fun w hw => ih w hw.1

theorem isRuntimeKnowable_iff_exposed (v : Value) :
    v.isRuntimeKnowable = true ↔ ∀ part, v.ExposesPart part → ¬part.Static := by
  induction v using holds_induction with
  | step v ih =>
    rw [isRuntimeKnowable_iff]
    constructor
    · rintro ⟨hself, hheld⟩ part hpart
      obtain rfl | ⟨w, hw, hpart⟩ := hpart.cases_head
      · exact hself
      · exact (ih w hw.1).1 (hheld w hw) part hpart
    · intro h
      exact ⟨h v .refl, fun w hw => (ih w hw.1).2 fun part hpart => h part (hpart.head hw)⟩

/--
Every value, and every port, is known while the schematic is elaborated, so that none is known at
neither time. At run time a value is known exactly when nothing that it exposes is a type or a
constraint, itself included, which is to say that there is none among all its parts.
-/
theorem knowable_exactly :
    (∀ v : Value, v.isElaborationKnowable = true ∧
      (v.isRuntimeKnowable = true ↔ ∀ part, v.ExposesPart part → ¬part.Static) ∧
      (v.isRuntimeKnowable = true ↔ ∀ part, v.HasPart part → ¬part.Static)) ∧
    ∀ p : Port, p.isElaborationKnowable = true ∧ (p.isRuntimeKnowable = true ↔
      ∀ e ∈ p.attributes.entries, ∀ part, e.2.ExposesPart part → ¬part.Static) := by
  constructor
  · intro v
    exact ⟨elaborationKnowable v, isRuntimeKnowable_iff_exposed v,
      (isRuntimeKnowable_iff_exposed v).trans forall_hasPart_iff.symm⟩
  · intro p
    have helaboration : p.isElaborationKnowable = true ↔ _ := attributesElaborationKnowable_iff
    have hruntime : p.isRuntimeKnowable = true ↔ _ := attributesRuntimeKnowable_iff
    simp only [isRuntimeKnowable_iff_exposed] at hruntime
    exact ⟨helaboration.2 fun e _ => elaborationKnowable e.2, hruntime⟩

end Value

end Schematics

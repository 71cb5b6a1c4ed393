import Mathlib.Logic.Relation
import Schematics.Proofs.Defects

namespace Schematics

namespace Value

variable {v w : Value}

inductive Holds : Value → Value → Prop
  | item {t element : TypeId} {items : List Value} {v : Value} (h : v ∈ items) :
    Holds (.array t element items) v
  | nodeAttribute {n : Node} {e : String × Value} (h : e ∈ n.attributes.entries) :
    Holds (.node n) e.2
  | portAttribute {n : Node} {p : String × Port} {e : String × Value} (hp : p ∈ n.ports.entries)
    (h : e ∈ p.2.attributes.entries) : Holds (.node n) e.2
  | connectionAttribute {k : Connection} {e : String × Value} (h : e ∈ k.attributes.entries) :
    Holds (.connection k) e.2
  | constraintAttribute {k : Constraint} {e : String × Value} (h : e ∈ k.attributes.entries) :
    Holds (.constraint k) e.2

abbrev HasPart : Value → Value → Prop := Relation.ReflTransGen Holds

inductive Faulty : Value → Prop
  | array {t element : TypeId} {items : List Value} {v : Value} (hv : v ∈ items)
    (h : v.type? ≠ some element) : Faulty (.array t element items)
  | connection {k : Connection} (h : k.source = k.target) : Faulty (.connection k)

def Coherent (v : Value) : Prop := ∀ part, v.HasPart part → ¬part.Faulty

theorem sizeOf_lt_of_entry {m : Attributes} {e : String × Value} (h : e ∈ m.entries) :
    sizeOf e.2 < sizeOf m := by
  obtain ⟨entries⟩ := m
  obtain ⟨name, v⟩ := e
  have hlt := List.sizeOf_lt_of_mem h
  simp only [NameMap.mk.sizeOf_spec, Prod.mk.sizeOf_spec] at hlt ⊢
  omega

theorem Holds.sizeOf_lt (h : v.Holds w) : sizeOf w < sizeOf v := by
  cases h with
  | item h =>
    have hlt := List.sizeOf_lt_of_mem h
    simp only [array.sizeOf_spec]
    omega
  | @nodeAttribute n e h =>
    obtain ⟨type, attributes, ports⟩ := n
    have hlt : sizeOf e.2 < sizeOf attributes := sizeOf_lt_of_entry h
    simp only [node.sizeOf_spec, NodeOf.mk.sizeOf_spec]
    omega
  | @portAttribute n p e hp h =>
    obtain ⟨type, attributes, ⟨ports⟩⟩ := n
    obtain ⟨name, portType, portAttributes⟩ := p
    have hlt : sizeOf e.2 < sizeOf portAttributes := sizeOf_lt_of_entry h
    have hport := List.sizeOf_lt_of_mem hp
    simp only [node.sizeOf_spec, NodeOf.mk.sizeOf_spec, NameMap.mk.sizeOf_spec,
      Prod.mk.sizeOf_spec, PortOf.mk.sizeOf_spec] at hport ⊢
    omega
  | @connectionAttribute k e h =>
    obtain ⟨type, source, target, attributes⟩ := k
    have hlt : sizeOf e.2 < sizeOf attributes := sizeOf_lt_of_entry h
    simp only [connection.sizeOf_spec, ConnectionOf.mk.sizeOf_spec]
    omega
  | @constraintAttribute k e h =>
    obtain ⟨type, attributes⟩ := k
    have hlt : sizeOf e.2 < sizeOf attributes := sizeOf_lt_of_entry h
    simp only [constraint.sizeOf_spec, ConstraintOf.mk.sizeOf_spec]
    omega

theorem holds_induction {p : Value → Prop} (step : ∀ v, (∀ w, v.Holds w → p w) → p v) (v : Value) :
    p v := by
  induction hn : sizeOf v using Nat.strongRecOn generalizing v with
  | ind n ih => exact step v fun w hw => ih (sizeOf w) (hn ▸ hw.sizeOf_lt) w rfl

theorem coherent_iff : v.Coherent ↔ ¬v.Faulty ∧ ∀ w, v.Holds w → w.Coherent := by
  constructor
  · intro h
    exact ⟨h v .refl, fun w hw part hpart => h part (hpart.head hw)⟩
  · rintro ⟨hself, hheld⟩ part hpart
    obtain rfl | ⟨w, hw, hpart⟩ := hpart.cases_head
    · exact hself
    · exact hheld w hw part hpart

theorem defect?_eq_none_iff : v.defect? = none ↔ ¬v.Faulty ∧ ∀ w, v.Holds w → w.defect? = none := by
  cases v with
  | array t element items =>
    have hitems : (Value.array t element items).defect? = none ↔ _ := itemDefect?_eq_none_iff
    rw [hitems]
    constructor
    · intro h
      constructor
      · rintro (⟨hw, htype⟩ | _)
        exact htype (h _ hw).1
      · rintro w (hw | _)
        exact (h w hw).2
    · rintro ⟨hself, hheld⟩ w hw
      exact ⟨by_contra fun htype => hself (.array hw htype), hheld w (.item hw)⟩
  | node n =>
    have hnode : (Value.node n).defect? = none ↔ _ := Node.defect?_eq_none_iff
    simp only [hnode, Port.defect?_eq_none_iff]
    constructor
    · rintro ⟨hattributes, hports⟩
      refine ⟨nofun, fun w hw => ?_⟩
      cases hw with
      | nodeAttribute he => exact hattributes _ he
      | portAttribute hp he => exact hports _ hp _ he
    · rintro ⟨-, hheld⟩
      exact ⟨fun e he => hheld _ (.nodeAttribute he), fun p hp e he => hheld _ (.portAttribute hp he)⟩
  | connection k =>
    have hconnection : (Value.connection k).defect? = none ↔ _ := Connection.defect?_eq_none_iff
    rw [hconnection]
    constructor
    · rintro ⟨hends, hattributes⟩
      constructor
      · rintro (_ | h)
        exact hends h
      · rintro w (_ | _ | _ | he)
        exact hattributes _ he
    · rintro ⟨hself, hheld⟩
      exact ⟨fun h => hself (.connection h), fun e he => hheld _ (.connectionAttribute he)⟩
  | constraint k =>
    have hconstraint : (Value.constraint k).defect? = none ↔ _ := Constraint.defect?_eq_none_iff
    rw [hconstraint]
    constructor
    · intro hattributes
      refine ⟨nofun, ?_⟩
      rintro w (_ | _ | _ | _ | he)
      exact hattributes _ he
    · rintro ⟨-, hheld⟩ e he
      exact hheld _ (.constraintAttribute he)
  | bool _ | int _ | string _ | real _ | type _ => exact iff_of_true rfl ⟨nofun, nofun⟩

theorem defect?_eq_none_iff_coherent (v : Value) : v.defect? = none ↔ v.Coherent := by
  induction v using holds_induction with
  | step v ih =>
    rw [defect?_eq_none_iff, coherent_iff]
    exact and_congr_right fun _ => forall₂_congr ih

end Value

end Schematics

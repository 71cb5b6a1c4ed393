import Schematics.Proofs.Growth
import Schematics.Proofs.NameMaps

/-!
What a type inherits is what the types of its lineage declare. A new type is compared with all that
its supertype has; so no two types of a lineage differ on a member, and the order in which their
members are put together leaves no trace.
-/

namespace Schematics

namespace NameMap

universe u

variable {α : Type u} {own m n : NameMap α} {maps maps' : List (NameMap α)} {name : String} {a : α}

def Says (m : NameMap α) (name : String) (a : α) : Prop := (ofList m.entries).get? name = some a

def merge (maps : List (NameMap α)) : NameMap α :=
  maps.foldr (fun own inherited => inherited.override own) ∅

def Agree (maps : List (NameMap α)) : Prop :=
  ∀ m ∈ maps, ∀ n ∈ maps, ∀ name a b, m.Says name a → n.Says name b → a = b

theorem Says.mem (h : m.Says name a) : (name, a) ∈ m.entries := mem_ofList (mem_of_lookup_eq_some h)

theorem get?_override (m n : NameMap α) (name : String) :
    (m.override n).get? name = ((ofList n.entries).get? name).or (m.get? name) := by
  rw [override, ofList, get?_insertAll, get?_insertAll, get?_empty, Option.or_none]

theorem merge_cons (own : NameMap α) (maps : List (NameMap α)) :
    merge (own :: maps) = (merge maps).override own := rfl

theorem sorted_merge (maps : List (NameMap α)) : (merge maps).Sorted := by
  induction maps with
  | nil => exact sorted_empty
  | cons own rest ih => exact ih.override

theorem Agree.mono (h : Agree maps) (hsub : ∀ m ∈ maps', m ∈ maps) : Agree maps' :=
  fun m hm n hn => h m (hsub m hm) n (hsub n hn)

theorem Agree.get?_merge_iff (h : Agree maps) :
    (merge maps).get? name = some a ↔ ∃ m ∈ maps, m.Says name a := by
  induction maps with
  | nil => exact ⟨fun ha => (nomatch ha), fun ⟨_, hm, _⟩ => absurd hm List.not_mem_nil⟩
  | cons own rest ih =>
    have hrest := ih (h.mono fun m hm => List.mem_cons_of_mem own hm)
    rw [merge_cons, get?_override, Option.or_eq_some_iff, hrest]
    constructor
    · rintro (ha | ⟨-, m, hm, ha⟩)
      · exact ⟨own, List.mem_cons_self, ha⟩
      · exact ⟨m, List.mem_cons_of_mem own hm, ha⟩
    · rintro ⟨m, hm, ha⟩
      obtain rfl | hmem := List.mem_cons.1 hm
      · exact .inl ha
      · cases hown : (ofList own.entries).get? name with
        | none => exact .inr ⟨rfl, m, hmem, ha⟩
        | some b => exact .inl (congrArg some (h own List.mem_cons_self m hm name b a hown ha))

theorem Agree.cons (h : Agree maps)
    (hown : ∀ e ∈ own.entries, ∀ b, (merge maps).get? e.1 = some b → b = e.2) :
    Agree (own :: maps) := by
  have hrest {m : NameMap α} (hm : m ∈ maps) {name : String} {a b : α} (ha : own.Says name a)
      (hb : m.Says name b) : b = a := hown _ ha.mem b (h.get?_merge_iff.2 ⟨m, hm, hb⟩)
  intro m hm n hn name a b ha hb
  obtain rfl | hmaps := List.mem_cons.1 hm <;> obtain rfl | hmaps' := List.mem_cons.1 hn
  · exact Option.some.inj (ha.symm.trans hb)
  · exact (hrest hmaps' ha hb).symm
  · exact hrest hmaps hb ha
  · exact h m hmaps n hmaps' name a b ha hb

theorem Agree.merge_perm (h : Agree maps) (hp : maps'.Perm maps) : merge maps' = merge maps := by
  have h' : Agree maps' := h.mono fun m hm => hp.mem_iff.1 hm
  apply (sorted_merge maps').eq_of_get? (sorted_merge maps)
  intro name
  apply Option.ext
  intro a
  simp only [h.get?_merge_iff, h'.get?_merge_iff, hp.mem_iff]

end NameMap

namespace Shape

def ownPorts (shape : Shape) : NameMap TypeId := shape.ports?.getD ∅

end Shape

namespace Schematic

variable {s s' : Schematic} {id : TypeId} {d : TypeDef} {line line' : List (TypeId × TypeDef)}

theorem inheritAttributes_eq (line : List (TypeId × TypeDef)) :
    inheritAttributes line = .merge (line.map fun link => link.2.shape.attributes) := by
  rw [inheritAttributes, NameMap.merge, List.foldr_map]

theorem inheritPorts_eq (h : ∀ link ∈ line, link.2.category = .node) :
    inheritPorts line = .ok (.merge (line.map fun link => link.2.shape.ownPorts)) := by
  induction line with
  | nil => rfl
  | cons link above ih =>
    rw [List.forall_mem_cons] at h
    obtain ⟨own, hown⟩ := exists_ports_iff.2 h.1
    obtain ⟨id, d⟩ := link
    rw [inheritPorts, ih h.2, ok_bind, hown, List.map_cons, NameMap.merge_cons, Shape.ownPorts, hown]
    rfl

theorem KeepsTypes.extends (h : s.KeepsTypes s') (hs : s.Grounded) (hs' : s'.Grounded)
    {shape : Shape} {parent : TypeId} (he : s.Extends shape parent) : s'.Extends shape parent where
  category := by
    obtain ⟨d, hd, hc⟩ := requireCategory_eq_ok_iff.1 he.category
    exact requireCategory_eq_ok_iff.2 ⟨d, h.types parent d hd, hc⟩
  attributes := by
    obtain ⟨inherited, hi, hcompatible⟩ := he.attributes
    exact ⟨inherited, h.effectiveAttributes hs hs' hi, hcompatible⟩
  ports own hown := by
    obtain ⟨inherited, hi, hcompatible⟩ := he.ports own hown
    exact ⟨inherited, h.effectivePorts hs hs' hi, hcompatible⟩

theorem Built.extends (h : s.Built) (hd : s.type? id = some d) {parent : TypeId}
    (hp : d.shape.supertype = some parent) : s.Extends d.shape parent := by
  induction h generalizing id d parent with
  | blank name => simp [type?, Arena.get?_empty] at hd
  | @record s i hs hi ih =>
    have hkeeps := (s.grows_record i).toKeepsTypes
    have hg' := (hs.record hi).grounded
    cases i with
    | type name shape =>
      obtain hd | ⟨rfl, rfl⟩ := type?_recordType.1 hd
      · exact hkeeps.extends hs.grounded hg' (ih hd hp)
      · exact hkeeps.extends hs.grounded hg' ((checkType_eq_ok_iff.1 hi).2.2 parent hp)
    | node name n => exact hkeeps.extends hs.grounded hg' (ih hd hp)
    | connection name k => exact hkeeps.extends hs.grounded hg' (ih hd hp)
    | constraint name k => exact hkeeps.extends hs.grounded hg' (ih hd hp)

theorem Grounded.lineage_suffix (h : s.Grounded) (hl : s.lineage id = .ok line) :
    ∀ link ∈ line, ∃ line', s.lineage link.1 = .ok line' ∧ line' <:+ line := by
  obtain ⟨d, hd⟩ := exists_type?_of_lineage hl
  refine h.supertype_induction (p := fun id _ => ∀ line, s.lineage id = .ok line → ∀ link ∈ line,
    ∃ line', s.lineage link.1 = .ok line' ∧ line' <:+ line) ?_ hd line hl
  intro id d hd ih line hl link hlink
  have hline := hl
  rw [h.lineage_eq hd] at hline
  obtain ⟨above, habove, rfl⟩ := map_eq_ok_iff.1 hline
  obtain rfl | hlink := List.mem_cons.1 hlink
  · exact ⟨_, hl, List.suffix_refl _⟩
  · cases hp : d.shape.supertype with
    | none =>
      rw [hp] at habove
      obtain rfl := Except.ok.inj habove
      exact absurd hlink List.not_mem_nil
    | some parent =>
      rw [hp] at habove
      obtain ⟨_, -, -, hparent⟩ := ih parent hp
      obtain ⟨line', hl', hsuffix⟩ := hparent above habove link hlink
      exact ⟨line', hl', hsuffix.trans (List.suffix_cons _ above)⟩

theorem Grounded.agree_of_compatible (h : s.Grounded) {own : Shape → NameMap TypeId}
    (hown : ∀ id d parent above, s.type? id = some d → d.shape.supertype = some parent →
      s.lineage parent = .ok above →
        Compatible (own d.shape) (.merge (above.map fun link => own link.2.shape)))
    (hl : s.lineage id = .ok line) : NameMap.Agree (line.map fun link => own link.2.shape) := by
  obtain ⟨d, hd⟩ := exists_type?_of_lineage hl
  -- A type was compared with what its supertype comes to, not with each type above: by induction
  -- these agree among themselves, and what they come to then speaks for all of them.
  refine h.supertype_induction (p := fun id _ => ∀ line, s.lineage id = .ok line →
    NameMap.Agree (line.map fun link => own link.2.shape)) ?_ hd line hl
  intro id d hd ih line hl
  rw [h.lineage_eq hd] at hl
  obtain ⟨above, habove, rfl⟩ := map_eq_ok_iff.1 hl
  cases hp : d.shape.supertype with
  | none =>
    rw [hp] at habove
    obtain rfl := Except.ok.inj habove
    exact .cons (fun _ hm => absurd hm List.not_mem_nil) fun _ _ _ hb => nomatch hb
  | some parent =>
    rw [hp] at habove
    obtain ⟨_, -, -, hparent⟩ := ih parent hp
    exact .cons (hparent above habove) (hown id d parent above hd hp habove)

theorem Grounded.lineage_registered (h : s.Grounded) (hd : s.type? id = some d)
    (hl : s.lineage id = .ok line) :
    ∀ link ∈ line, s.type? link.1 = some link.2 ∧ link.2.category = d.category := by
  obtain ⟨above, habove⟩ := h.exists_above hd
  rw [habove.lineage] at hl
  obtain rfl := Except.ok.inj hl
  exact List.forall_mem_cons.2 ⟨⟨hd, rfl⟩, habove.registered⟩

theorem Built.agree_attributes (h : s.Built) (hl : s.lineage id = .ok line) :
    NameMap.Agree (line.map fun link => link.2.shape.attributes) := by
  refine h.grounded.agree_of_compatible (fun id d parent above hd hp habove => ?_) hl
  obtain ⟨inherited, hi, hcompatible⟩ := (h.extends hd hp).attributes
  rw [effectiveAttributes, habove] at hi
  obtain rfl := Except.ok.inj hi
  exact inheritAttributes_eq above ▸ hcompatible

theorem Built.agree_ports (h : s.Built) (hl : s.lineage id = .ok line) :
    NameMap.Agree (line.map fun link => link.2.shape.ownPorts) := by
  refine h.grounded.agree_of_compatible (fun id d parent above hd hp habove => ?_) hl
  cases hown : d.shape.ports? with
  | none =>
    rw [Shape.ownPorts, hown]
    exact fun e he => absurd he List.not_mem_nil
  | some own =>
    obtain ⟨inherited, hi, hcompatible⟩ := (h.extends hd hp).ports own hown
    obtain ⟨-, d', hd', hc'⟩ := h.grounded id d hd parent _ (.supertype hp)
    have hnode : d'.category = .node := hc'.trans (exists_ports_iff.1 ⟨own, hown⟩)
    have hline := inheritPorts_eq fun link hlink =>
      (h.grounded.lineage_registered hd' habove link hlink).2.trans hnode
    rw [effectivePorts, habove, ok_bind, hline] at hi
    obtain rfl := Except.ok.inj hi
    rw [Shape.ownPorts, hown]
    exact hcompatible

end Schematic

end Schematics

import Schematics.Proofs.FieldReading

namespace Schematics

namespace Json

inductive Reordered : Json → Json → Prop
  | same (j : Json) : Reordered j j
  | array {items items' : List Json} (hl : items.length = items'.length)
    (h : ∀ j j', (j, j') ∈ items.zip items' → Reordered j j') :
    Reordered (.array items) (.array items')
  | object {fields fields' : List (String × Json)}
    (hn : (fields.map Prod.fst).Perm (fields'.map Prod.fst))
    (h : ∀ name j j', (name, j) ∈ fields → (name, j') ∈ fields' → Reordered j j') :
    Reordered (.object fields) (.object fields')

theorem Reordered.symm {j j' : Json} (h : Reordered j j') : Reordered j' j := by
  induction h with
  | same j => exact .same j
  | array hl _ ih =>
    have hitems : List.Forall₂ (fun j j' => Reordered j' j) _ _ :=
      List.forall₂_iff_zip.2 ⟨hl, fun hz => ih _ _ hz⟩
    exact .array hl.symm fun j j' hz => (List.forall₂_iff_zip.1 hitems.flip).2 hz
  | object hn _ ih => exact .object hn.symm fun name j j' hj hj' => ih name j' j hj' hj

theorem Reordered.eq_of_scalar {j j' : Json} (h : Reordered j j') (hj : j.isScalar = true) :
    j = j' := by
  cases h with
  | same => rfl
  | array => exact nomatch hj
  | object => exact nomatch hj

theorem Reordered.forall₂ {items : List Json} {j : Json} (h : Reordered (.array items) j) :
    ∃ items', j = .array items' ∧ List.Forall₂ Reordered items items' := by
  cases h with
  | same => exact ⟨items, rfl, List.forall₂_same.2 fun j _ => .same j⟩
  | array hl h => exact ⟨_, rfl, List.forall₂_iff_zip.2 ⟨hl, fun hz => h _ _ hz⟩⟩

structure Alike (j j' : Json) : Prop where
  reordered : Reordered j j'
  left : j.Distinct
  right : j'.Distinct

namespace Alike

variable {j j' : Json} {fields fields' : Fields}

theorem refl (h : j.Distinct) : Alike j j := ⟨.same j, h, h⟩

theorem symm (h : Alike j j') : Alike j' j := ⟨h.reordered.symm, h.right, h.left⟩

theorem forall₂ {items : List Json} (h : Alike (.array items) j) :
    ∃ items', j = .array items' ∧ List.Forall₂ Alike items items' := by
  obtain ⟨items', rfl, hitems⟩ := h.reordered.forall₂
  refine ⟨items', rfl, List.forall₂_iff_zip.2 ⟨hitems.length_eq, fun hz => ?_⟩⟩
  obtain ⟨hmem, hmem'⟩ := List.of_mem_zip hz
  exact ⟨List.forall₂_zip hitems hz, distinct_array_iff.1 h.left _ hmem,
    distinct_array_iff.1 h.right _ hmem'⟩

theorem names (h : Alike (.object fields) (.object fields')) :
    (fields.map Prod.fst).Perm (fields'.map Prod.fst) := by
  cases h.reordered with
  | same => exact .refl _
  | object hn => exact hn

theorem of_mem (h : Alike (.object fields) (.object fields')) {name : String} {j j' : Json}
    (hj : (name, j) ∈ fields) (hj' : (name, j') ∈ fields') : Alike j j' := by
  refine ⟨?_, (distinct_object_iff.1 h.left).2 _ hj, (distinct_object_iff.1 h.right).2 _ hj'⟩
  cases h.reordered with
  | same =>
    have heq := (lookup_eq_some_iff_mem h.left.names).2 hj
    rw [(lookup_eq_some_iff_mem h.left.names).2 hj', Option.some.injEq] at heq
    exact heq ▸ .same j
  | object _ h => exact h name j j' hj hj'

theorem exists_mem (h : Alike (.object fields) (.object fields')) {name : String} {j : Json}
    (hj : (name, j) ∈ fields) : ∃ j', (name, j') ∈ fields' ∧ Alike j j' := by
  have hname : name ∈ fields'.map Prod.fst := h.names.mem_iff.1 (List.mem_map.2 ⟨_, hj, rfl⟩)
  obtain ⟨⟨_, j'⟩, hj', rfl⟩ := List.mem_map.1 hname
  exact ⟨j', hj', h.of_mem hj hj'⟩

theorem lookup (h : Alike (.object fields) (.object fields')) (name : String) :
    Option.Rel Alike (fields.lookup name) (fields'.lookup name) := by
  cases hj : fields.lookup name with
  | some j =>
    obtain ⟨j', hj', halike⟩ := h.exists_mem (mem_of_lookup_eq_some hj)
    rw [(lookup_eq_some_iff_mem h.right.names).2 hj']
    exact .some halike
  | none =>
    refine rel_none_left.2 (Option.eq_none_iff_forall_ne_some.2 fun j' hj' => ?_)
    obtain ⟨j, hmem, -⟩ := h.symm.exists_mem (mem_of_lookup_eq_some hj')
    exact nomatch hj.symm.trans ((lookup_eq_some_iff_mem h.left.names).2 hmem)

theorem exists_object (h : Alike (.object fields) j) : ∃ fields', j = .object fields' := by
  cases h.reordered with
  | same => exact ⟨fields, rfl⟩
  | object => exact ⟨_, rfl⟩

theorem isObject (h : Alike j j') (hj : j.isObject = true) : j'.isObject = true := by
  cases j with
  | object fields =>
    obtain ⟨fields', rfl⟩ := h.exists_object
    rfl
  | null | bool _ | int _ | real _ | string _ | array _ => exact nomatch hj

theorem fieldsOf (h : Alike j j') : Alike (.object j.fieldsOf) (.object j'.fieldsOf) := by
  refine ⟨?_, h.left.fieldsOf, h.right.fieldsOf⟩
  cases h.reordered with
  | same => exact .same _
  | array => exact .same _
  | object hn hfields => exact .object hn hfields

theorem given (h : Alike (.object fields) (.object fields')) (key : String) :
    Alike (.object (given key fields)) (.object (given key fields')) := by
  have hrel := h.lookup key
  unfold Schematics.given
  cases hj : fields.lookup key with
  | none =>
    rw [hj, rel_none_left] at hrel
    rw [hrel]
    exact .refl (distinct_object_iff.2 ⟨List.nodup_nil, by simp⟩)
  | some j =>
    rw [hj, rel_some_left] at hrel
    obtain ⟨j', hj', halike⟩ := hrel
    rw [hj']
    exact halike.fieldsOf

theorem lookup_string (h : Alike (.object fields) (.object fields')) {key text : String}
    (ht : fields.lookup key = some (.string text)) : fields'.lookup key = some (.string text) := by
  have hrel := h.lookup key
  rw [ht, rel_some_left] at hrel
  obtain ⟨j', hj', halike⟩ := hrel
  rw [hj', ← halike.reordered.eq_of_scalar rfl]

theorem lookup_none (h : Alike (.object fields) (.object fields')) {key : String}
    (hk : fields.lookup key = none) : fields'.lookup key = none := by
  have hrel := h.lookup key
  rwa [hk, rel_none_left] at hrel

theorem objectOrAbsent (h : Alike (.object fields) (.object fields')) {key : String}
    (ho : ObjectOrAbsent key fields) : ObjectOrAbsent key fields' := by
  intro j' hj'
  have hrel := h.lookup key
  rw [hj', rel_some_right] at hrel
  obtain ⟨j, hj, halike⟩ := hrel
  exact halike.isObject (ho j hj)

end Alike

end Json

end Schematics

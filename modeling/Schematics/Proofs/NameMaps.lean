import Mathlib.Data.List.Nodup
import Mathlib.Data.List.Perm.Basic
import Schematics.NameMap

namespace Schematics

universe u v

variable {α : Type u} {β : Type v}

theorem lookup_eq_some_iff_mem {l : List (String × α)} (h : (l.map Prod.fst).Nodup) {name : String}
    {a : α} : l.lookup name = some a ↔ (name, a) ∈ l := by
  induction l with
  | nil => simp
  | cons e rest ih =>
    obtain ⟨other, b⟩ := e
    obtain ⟨hnew, hrest⟩ := List.nodup_cons.1 h
    by_cases hn : name = other
    · subst hn
      have hout : (name, a) ∉ rest := fun hm => hnew (List.mem_map.2 ⟨_, hm, rfl⟩)
      simp [hout, eq_comm]
    · have hne : (name == other) = false := by simp [hn]
      simp [List.lookup_cons, hne, ih hrest, hn]

theorem mem_of_lookup_eq_some {l : List (String × α)} {name : String} {a : α}
    (h : l.lookup name = some a) : (name, a) ∈ l := by
  obtain ⟨before, after, rfl, _⟩ := List.lookup_eq_some_iff.1 h
  simp

theorem lookup_perm {l l' : List (String × α)} (h : (l.map Prod.fst).Nodup) (hp : l.Perm l')
    (name : String) : l.lookup name = l'.lookup name := by
  have h' : (l'.map Prod.fst).Nodup := (hp.map Prod.fst).nodup_iff.1 h
  apply Option.ext
  intro a
  rw [lookup_eq_some_iff_mem h, lookup_eq_some_iff_mem h', hp.mem_iff]

theorem lookup_map (f : String → α → β) (l : List (String × α)) (name : String) :
    (l.map fun e => (e.1, f e.1 e.2)).lookup name = (l.lookup name).map (f name) := by
  induction l with
  | nil => rfl
  | cons e rest ih =>
    obtain ⟨other, a⟩ := e
    by_cases hn : name = other
    · simp [hn]
    · have hne : (name == other) = false := by simp [hn]
      simp [List.lookup_cons, hne, ih]

theorem lookup_filter (p : String → Bool) (l : List (String × α)) (name : String) :
    (l.filter fun e => p e.1).lookup name = if p name then l.lookup name else none := by
  induction l with
  | nil => simp
  | cons e rest ih =>
    obtain ⟨other, a⟩ := e
    by_cases hn : name = other
    · subst hn
      by_cases hp : p name
      · simp [hp]
      · rw [List.filter_cons_of_neg (by simpa using hp), ih, if_neg hp, if_neg hp]
    · have hne : (name == other) = false := by simp [hn]
      rw [List.lookup_cons, hne, ← ih, List.filter_cons]
      split
      · rw [List.lookup_cons, hne]
      · rfl

namespace NameMap

theorem Sorted.nodup {m : NameMap α} (h : m.Sorted) : (m.entries.map Prod.fst).Nodup := by
  rw [List.nodup_iff_pairwise_ne, List.pairwise_map]
  refine h.imp ?_
  intro a b hlt heq
  exact String.lt_irrefl _ (heq ▸ hlt)

theorem Sorted.get?_eq_some_iff {m : NameMap α} (h : m.Sorted) {name : String} {a : α} :
    m.get? name = some a ↔ (name, a) ∈ m.entries := lookup_eq_some_iff_mem h.nodup

theorem Sorted.eq_of_get? {m n : NameMap α} (hm : m.Sorted) (hn : n.Sorted)
    (h : ∀ name, m.get? name = n.get? name) : m = n := by
  obtain ⟨l⟩ := m
  obtain ⟨l'⟩ := n
  have hmem (e : String × α) : e ∈ l ↔ e ∈ l' := by
    obtain ⟨name, a⟩ := e
    rw [← hm.get?_eq_some_iff, ← hn.get?_eq_some_iff, h name]
  have hnodup : l.Nodup := List.Nodup.of_map Prod.fst hm.nodup
  have hnodup' : l'.Nodup := List.Nodup.of_map Prod.fst hn.nodup
  have hperm : l.Perm l' := (List.perm_ext_iff_of_nodup hnodup hnodup').2 hmem
  exact congrArg NameMap.mk (hperm.eq_of_pairwise
    (fun a b _ _ hab hba => absurd (String.lt_trans hab hba) (String.lt_irrefl _)) hm hn)

theorem sorted_empty : (∅ : NameMap α).Sorted := List.Pairwise.nil

theorem Sorted.override {m n : NameMap α} (h : m.Sorted) : (m.override n).Sorted :=
  h.insertAll n.entries

theorem get?_insertAll (m : NameMap α) (l : List (String × α)) (name : String) :
    (m.insertAll l).get? name = (l.reverse.lookup name).or (m.get? name) := by
  induction l generalizing m with
  | nil => simp [insertAll]
  | cons e rest ih =>
    obtain ⟨other, b⟩ := e
    have hfold : m.insertAll ((other, b) :: rest) = (m.insert other b).insertAll rest := rfl
    rw [hfold, ih, get?_insert, List.reverse_cons, List.lookup_append, List.lookup_cons,
      List.lookup_nil]
    cases rest.reverse.lookup name with
    | some a => simp
    | none =>
      by_cases hn : name = other
      · simp [hn]
      · have hne : (name == other) = false := by simp [hn]
        simp [hn, hne]

theorem mem_insertAll {m : NameMap α} {l : List (String × α)} {e : String × α}
    (h : e ∈ (m.insertAll l).entries) : e ∈ m.entries ∨ e ∈ l := by
  induction l generalizing m with
  | nil => exact .inl h
  | cons d rest ih =>
    obtain hm | hrest := ih h
    · obtain rfl | hm := mem_place hm
      · exact .inr List.mem_cons_self
      · exact .inl hm
    · exact .inr (List.mem_cons_of_mem _ hrest)

theorem mem_ofList {l : List (String × α)} {e : String × α} (h : e ∈ (ofList l).entries) : e ∈ l :=
  (mem_insertAll h).resolve_left List.not_mem_nil

theorem get?_insertAll_of_nodup (m : NameMap α) {l : List (String × α)}
    (h : (l.map Prod.fst).Nodup) (name : String) :
    (m.insertAll l).get? name = (l.lookup name).or (m.get? name) := by
  rw [get?_insertAll, lookup_perm h l.reverse_perm.symm]

theorem get?_ofList {l : List (String × α)} (h : (l.map Prod.fst).Nodup) (name : String) :
    (ofList l).get? name = l.lookup name := by
  rw [ofList, get?_insertAll_of_nodup _ h, get?_empty, Option.or_none]

theorem perm_ofList {l : List (String × α)} (h : (l.map Prod.fst).Nodup) :
    (ofList l).entries.Perm l := by
  have hsorted := sorted_ofList l
  refine (List.perm_ext_iff_of_nodup (.of_map Prod.fst hsorted.nodup) (.of_map Prod.fst h)).2 ?_
  rintro ⟨name, a⟩
  rw [← hsorted.get?_eq_some_iff, get?_ofList h, lookup_eq_some_iff_mem h]

theorem ofList_subset {l l' : List (String × α)} (h : (l'.map Prod.fst).Nodup) (hsub : l ⊆ l') :
    (ofList l).entries ⊆ (ofList l').entries := by
  intro e he
  exact (perm_ofList h).mem_iff.2 (hsub (mem_ofList he))

theorem Sorted.get?_override {m n : NameMap α} (h : n.Sorted) (name : String) :
    (m.override n).get? name = (n.get? name).or (m.get? name) :=
  get?_insertAll_of_nodup m h.nodup name

theorem get?_map (f : α → β) (m : NameMap α) (name : String) :
    (m.map f).get? name = (m.get? name).map f := lookup_map (fun _ => f) m.entries name

theorem map_id (m : NameMap α) : m.map id = m := by
  obtain ⟨entries⟩ := m
  simp [map]

theorem Sorted.map {m : NameMap α} (h : m.Sorted) (f : α → β) : (m.map f).Sorted :=
  List.pairwise_map.2 h

theorem ofList_eq_of_mem_iff {l l' : List (String × α)} (h : (l'.map Prod.fst).Nodup)
    (hmem : ∀ e, e ∈ l ↔ e ∈ l') : ofList l = ofList l' := by
  apply (sorted_ofList l).eq_of_get? (sorted_ofList l')
  intro name
  rw [get?_ofList h, ofList, get?_insertAll, get?_empty, Option.or_none]
  apply Option.ext
  intro a
  rw [lookup_eq_some_iff_mem h, ← hmem]
  constructor
  · intro ha
    exact List.mem_reverse.1 (mem_of_lookup_eq_some ha)
  · intro ha
    have hsome : (l.reverse.lookup name).isSome :=
      List.lookup_isSome_iff.2 ⟨(name, a), List.mem_reverse.2 ha, by simp⟩
    obtain ⟨b, hb⟩ := Option.isSome_iff_exists.1 hsome
    have hbmem : (name, b) ∈ l := List.mem_reverse.1 (mem_of_lookup_eq_some hb)
    have hab := (lookup_eq_some_iff_mem h).2 ((hmem _).1 ha)
    rw [(lookup_eq_some_iff_mem h).2 ((hmem _).1 hbmem), Option.some.injEq] at hab
    rw [hb, hab]

end NameMap

end Schematics

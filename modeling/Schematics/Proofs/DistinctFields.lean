import Mathlib.Data.List.Nodup
import Schematics.Json.Parser

namespace Schematics

universe u

namespace Json

mutual

def Distinct : Json → Prop
  | .array items => DistinctItems items
  | .object fields => (fields.map Prod.fst).Nodup ∧ DistinctFields fields
  | _ => True

def DistinctItems : List Json → Prop
  | [] => True
  | j :: rest => j.Distinct ∧ DistinctItems rest

def DistinctFields : List (String × Json) → Prop
  | [] => True
  | (_, j) :: rest => j.Distinct ∧ DistinctFields rest

end

theorem distinctFields_iff {fields : List (String × Json)} :
    DistinctFields fields ↔ ∀ f ∈ fields, f.2.Distinct := by
  induction fields with
  | nil => simp [DistinctFields]
  | cons f rest ih =>
    obtain ⟨name, j⟩ := f
    simp [DistinctFields, ih]

theorem distinct_array_iff {items : List Json} :
    (array items).Distinct ↔ ∀ j ∈ items, j.Distinct := by
  rw [Distinct]
  induction items with
  | nil => simp [DistinctItems]
  | cons j rest ih => simp [DistinctItems, ih]

theorem distinct_object_iff {fields : List (String × Json)} :
    (object fields).Distinct ↔ (fields.map Prod.fst).Nodup ∧ ∀ f ∈ fields, f.2.Distinct := by
  rw [Distinct, distinctFields_iff]

section Merging

variable {α : Type u} {fields : List (String × α)} {name : String} {a : α}

theorem mem_putField {e : String × α} (h : e ∈ putField fields name a) :
    e = (name, a) ∨ e ∈ fields := by
  induction fields with
  | nil => exact .inl (List.mem_singleton.1 h)
  | cons f rest ih =>
    obtain ⟨other, b⟩ := f
    by_cases ho : other = name
    · subst ho
      rw [putField, if_pos rfl] at h
      exact (List.mem_cons.1 h).imp id (List.mem_cons_of_mem _)
    · rw [putField, if_neg ho] at h
      obtain rfl | h := List.mem_cons.1 h
      · exact .inr List.mem_cons_self
      · exact (ih h).imp id (List.mem_cons_of_mem _)

theorem nodup_putField (h : (fields.map Prod.fst).Nodup) :
    ((putField fields name a).map Prod.fst).Nodup := by
  induction fields with
  | nil => simp [putField]
  | cons f rest ih =>
    obtain ⟨other, b⟩ := f
    obtain ⟨hnew, hrest⟩ := List.nodup_cons.1 h
    by_cases ho : other = name
    · rw [putField, if_pos ho]
      exact h
    · rw [putField, if_neg ho]
      refine List.nodup_cons.2 ⟨fun hm => ?_, ih hrest⟩
      obtain ⟨e, he, hname⟩ := List.mem_map.1 hm
      obtain rfl | he := mem_putField he
      · exact ho hname.symm
      · exact hnew (List.mem_map.2 ⟨e, he, hname⟩)

theorem mergeFields_spec {p : α → Prop} {fields start : List (String × α)}
    (hfields : ∀ f ∈ fields, p f.2) (hstart : (start.map Prod.fst).Nodup)
    (hp : ∀ f ∈ start, p f.2) :
    let merged := fields.foldl (fun merged f => putField merged f.1 f.2) start
    (merged.map Prod.fst).Nodup ∧ ∀ f ∈ merged, p f.2 := by
  induction fields generalizing start with
  | nil => exact ⟨hstart, hp⟩
  | cons f rest ih =>
    refine ih (fun e he => hfields e (List.mem_cons_of_mem _ he)) (nodup_putField hstart) ?_
    intro e he
    obtain rfl | he := mem_putField he
    · exact hfields f List.mem_cons_self
    · exact hp e he

end Merging

mutual

theorem distinct_collapse (j : Json) : j.collapse.Distinct := by
  cases j with
  | array items =>
    rw [collapse, Distinct]
    exact distinctItems_collapse items
  | object fields =>
    rw [collapse, distinct_object_iff]
    exact mergeFields_spec (distinct_collapseFields fields) List.nodup_nil (by simp)
  | null | bool _ | int _ | real _ | string _ => trivial

theorem distinctItems_collapse (items : List Json) : DistinctItems (collapseItems items) := by
  cases items with
  | nil => trivial
  | cons j rest => exact ⟨distinct_collapse j, distinctItems_collapse rest⟩

theorem distinct_collapseFields (fields : List (String × Json)) :
    ∀ f ∈ collapseFields fields, f.2.Distinct := by
  cases fields with
  | nil => simp [collapseFields]
  | cons f rest =>
    obtain ⟨name, j⟩ := f
    rw [collapseFields, List.forall_mem_cons]
    exact ⟨distinct_collapse j, distinct_collapseFields rest⟩

end

theorem distinct_of_parse {text : String} {j : Json} (h : parse text = .ok j) : j.Distinct := by
  unfold parse at h
  cases hs : spelled text with
  | error e =>
    rw [hs] at h
    exact nomatch h
  | ok tree =>
    rw [hs] at h
    exact Except.ok.inj h ▸ distinct_collapse tree

end Json

end Schematics

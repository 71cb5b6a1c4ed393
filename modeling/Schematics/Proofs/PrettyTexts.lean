import Schematics.Proofs.DistinctFields
import Schematics.Proofs.ParsedTexts

namespace Schematics

universe u

namespace Json

inductive Fits : Nat → Json → Prop
  | null {depth : Nat} : Fits depth .null
  | bool {depth : Nat} (b : Bool) : Fits depth (.bool b)
  | int {depth n : Nat} (h : n ≤ maxSignificand) : Fits depth (.int n)
  | string {depth : Nat} (s : String) : Fits depth (.string s)
  | array {depth : Nat} {items : List Json} (h : ∀ j ∈ items, Fits depth j) :
    Fits (depth + 1) (.array items)
  | object {depth : Nat} {fields : List (String × Json)} (h : ∀ f ∈ fields, Fits depth f.2) :
    Fits (depth + 1) (.object fields)

section Numbers

open Decimal

variable {digits rest : List Char}

end Numbers

variable {depth : Nat} {j : Json}

section Merging

variable {α : Type u} {fields start : List (String × α)} {name : String} {a : α}

theorem putField_new (h : name ∉ fields.map Prod.fst) :
    putField fields name a = fields ++ [(name, a)] := by
  induction fields with
  | nil => rfl
  | cons f rest ih =>
    rw [List.map_cons, List.mem_cons, not_or] at h
    rw [putField, if_neg (Ne.symm h.1), ih h.2, List.cons_append]

theorem foldl_putField (h : ((start ++ fields).map Prod.fst).Nodup) :
    fields.foldl (fun merged f => putField merged f.1 f.2) start = start ++ fields := by
  induction fields generalizing start with
  | nil => rw [List.foldl_nil, List.append_nil]
  | cons f rest ih =>
    have hnew : f.1 ∉ start.map Prod.fst := by
      rw [List.map_append, List.map_cons] at h
      exact fun hm => (List.nodup_append.1 h).2.2 _ hm _ List.mem_cons_self rfl
    rw [List.append_cons] at h ⊢
    rw [List.foldl_cons, putField_new hnew]
    exact ih h

theorem mergeFields_eq_self (h : (fields.map Prod.fst).Nodup) : mergeFields fields = fields := by
  have hnames : (([] ++ fields).map Prod.fst).Nodup := h
  exact foldl_putField hnames

end Merging

mutual

theorem collapse_eq_self {j : Json} (h : j.Distinct) : j.collapse = j := by
  cases j with
  | array items => rw [collapse, collapseItems_eq_self h]
  | object fields =>
    obtain ⟨hnames, hfields⟩ := h
    rw [collapse, collapseFields_eq_self hfields, mergeFields_eq_self hnames]
  | null | bool _ | int _ | real _ | string _ => rfl

theorem collapseItems_eq_self {items : List Json} (h : DistinctItems items) :
    collapseItems items = items := by
  cases items with
  | nil => rfl
  | cons j rest => rw [collapseItems, collapse_eq_self h.1, collapseItems_eq_self h.2]

theorem collapseFields_eq_self {fields : List (String × Json)} (h : DistinctFields fields) :
    collapseFields fields = fields := by
  cases fields with
  | nil => rfl
  | cons f rest =>
    obtain ⟨name, j⟩ := f
    rw [collapseFields, collapse_eq_self h.1, collapseFields_eq_self h.2]

end

end Json

end Schematics

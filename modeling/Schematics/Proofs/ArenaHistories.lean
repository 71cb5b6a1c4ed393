import Schematics.Proofs.Indexes
import Schematics.Proofs.SavedArenas

namespace Schematics

universe u

namespace Kind

variable {κ : Kind} {i : Nat}

-- Between slots and words: the sum may wrap around, the difference is checked.

def wordOf (κ : Kind) (i : Nat) : UInt32 := .ofNat i + .ofNat κ.first

def indexOf? (κ : Kind) (w : UInt32) : Option Nat :=
  if .ofNat κ.first ≤ w then some (w - .ofNat κ.first).toNat else none

theorem first_le_one (κ : Kind) : κ.first ≤ 1 := by
  cases κ <;> decide

theorem toNat_first (κ : Kind) : (UInt32.ofNat κ.first).toNat = κ.first := by
  cases κ <;> rfl

theorem toNat_wordOf (h : i < 2 ^ 32 - 1) : (κ.wordOf i).toNat = i + κ.first := by
  have hfirst := κ.first_le_one
  rw [wordOf, UInt32.toNat_add, toNat_first, UInt32.toNat_ofNat']
  omega

theorem indexOf?_eq_slot? (w : UInt32) : κ.indexOf? w = (⟨w.toNat⟩ : Handle κ).slot? := by
  have hiff : .ofNat κ.first ≤ w ↔ κ.first ≤ w.toNat := by
    rw [UInt32.le_iff_toNat_le, toNat_first]
  unfold indexOf? Handle.slot?
  by_cases hle : κ.first ≤ w.toNat
  · rw [if_pos (hiff.2 hle), if_pos hle, UInt32.toNat_sub_of_le _ _ (hiff.2 hle), toNat_first]
  · rw [if_neg (mt hiff.1 hle), if_neg hle]

theorem indexOf?_wordOf (h : i < 2 ^ 32 - 1) : κ.indexOf? (κ.wordOf i) = some i := by
  rw [indexOf?_eq_slot?, toNat_wordOf h]
  exact Handle.slot?_ofSlot i

theorem wordOf_of_indexOf? {w : UInt32} (h : κ.indexOf? w = some i) : κ.wordOf i = w := by
  rw [indexOf?_eq_slot?, Handle.slot?_eq_some_iff] at h
  have hw : w.toNat = i + κ.first := congrArg Handle.raw h
  rw [← UInt32.toNat_inj, wordOf, UInt32.toNat_add, toNat_first, UInt32.toNat_ofNat']
  have := w.toNat_lt
  omega

end Kind

namespace Arena

variable {κ : Kind} {α : Type u} {f : Codec α}

inductive Step (α : Type u) where
  | alloc (item : α)
  | reload

def Step.item? : Step α → Option α
  | .alloc item => some item
  | .reload => none

def perform (f : Codec α) (a : Arena κ α) : Step α → Option (Option (Handle κ) × Arena κ α)
  | .alloc item => some (some a.next, a.alloc item)
  | .reload => (loadWith? f (a.saveWith f)).map (none, ·)

def run (f : Codec α) (a : Arena κ α) : List (Step α) → Option (List (Handle κ) × Arena κ α)
  | [] => some ([], a)
  | step :: rest =>
    (a.perform f step).bind fun r =>
      (r.2.run f rest).map fun later => (r.1.toList ++ later.1, later.2)

def allocated (steps : List (Step α)) : List α := steps.filterMap Step.item?

theorem allocated_append (steps more : List (Step α)) :
    allocated (steps ++ more) = allocated steps ++ allocated more := List.filterMap_append

theorem perform_reload (hf : f.Faithful) (a : Arena κ α) :
    a.perform f .reload = some (none, a) := by
  rw [perform, loadWith?_saveWith hf]
  rfl

def ofItems (κ : Kind) (items : List α) : Arena κ α := ⟨items.toArray⟩

def handlesFrom (κ : Kind) (first n : Nat) : List (Handle κ) := (List.range' first n).map .ofSlot

theorem next_ofItems (items : List α) : (ofItems κ items).next = .ofSlot items.length := rfl

theorem alloc_ofItems (items : List α) (item : α) :
    (ofItems κ items).alloc item = ofItems κ (items ++ [item]) := by
  rw [alloc, ofItems, ofItems, List.push_toArray]

theorem get?_ofItems (items : List α) (i : Nat) :
    (ofItems κ items).get? (.ofSlot i) = items[i]? := by
  rw [get?_ofSlot]
  exact List.getElem?_toArray

theorem run_ofItems (items : List α) {steps : List (Step α)} (hf : .reload ∈ steps → f.Faithful) :
    (ofItems κ items).run f steps =
      some (handlesFrom κ items.length (allocated steps).length,
        ofItems κ (items ++ allocated steps)) := by
  induction steps generalizing items with
  | nil => simp [run, allocated, handlesFrom]
  | cons step rest ih =>
    have hrest : .reload ∈ rest → f.Faithful := fun h => hf (List.mem_cons_of_mem _ h)
    cases step with
    | alloc item =>
      have hitems : allocated (.alloc item :: rest) = item :: allocated rest := rfl
      rw [run, perform, Option.bind_some, alloc_ofItems, ih _ hrest, hitems, next_ofItems]
      simp [handlesFrom, List.range'_succ]
    | reload =>
      have hitems : allocated (.reload :: rest) = allocated rest := rfl
      rw [run, perform_reload (hf List.mem_cons_self), Option.bind_some, ih _ hrest, hitems]
      rfl

theorem mem_handlesFrom_iff {n : Nat} {h : Handle κ} :
    h ∈ handlesFrom κ 0 n ↔ κ.first ≤ h.raw ∧ h.raw < κ.first + n := by
  rw [handlesFrom, List.mem_map]
  constructor
  · rintro ⟨i, hi, rfl⟩
    rw [List.mem_range'_1] at hi
    simp only [Handle.ofSlot]
    omega
  · rintro ⟨hfirst, hlast⟩
    refine ⟨h.raw - κ.first, List.mem_range'_1.2 (by omega), ?_⟩
    rw [Handle.ofSlot, Nat.sub_add_cancel hfirst]

theorem map_raw_handlesFrom (κ : Kind) (n : Nat) :
    (handlesFrom κ 0 n).map Handle.raw = List.range' κ.first n := by
  rw [handlesFrom, List.map_map, ← Nat.add_zero κ.first, ← List.map_add_range']
  apply List.map_congr_left
  intro i _
  exact Nat.add_comm ..

structure Holds (a : Arena κ α) (handles : List (Handle κ)) (items : List α) : Prop where
  numbers : handles.map Handle.raw = List.range' κ.first items.length
  distinct : handles.Nodup
  next : a.next.raw = κ.first + items.length
  get : List.Forall₂ (fun h x => a.get? h = some x) handles items
  contains : ∀ h, a.contains h = true ↔ h ∈ handles
  foreign : ∀ h, h ∉ handles → a.get? h = none
  outside : ∀ h : Handle κ, h.raw < κ.first ∨ κ.first + items.length ≤ h.raw → a.get? h = none
  entries : a.entries = handles.zip items

theorem get?_ofItems_eq_none_iff {items : List α} {h : Handle κ} :
    (ofItems κ items).get? h = none ↔ h ∉ handlesFrom κ 0 items.length := by
  rw [mem_handlesFrom_iff]
  cases hs : h.slot? with
  | none =>
    have hraw : ¬κ.first ≤ h.raw := by
      intro hle
      rw [Handle.slot?, if_pos hle] at hs
      cases hs
    simp [get?, hs, hraw]
  | some i =>
    obtain rfl := Handle.slot?_eq_some_iff.1 hs
    rw [get?_ofItems, List.getElem?_eq_none_iff]
    simp only [Handle.ofSlot]
    omega

theorem holds_ofItems (items : List α) :
    (ofItems κ items).Holds (handlesFrom κ 0 items.length) items where
  numbers := map_raw_handlesFrom κ items.length
  distinct := by
    apply List.Nodup.of_map Handle.raw
    rw [map_raw_handlesFrom]
    exact List.nodup_range'
  next := Nat.add_comm ..
  get := by
    rw [handlesFrom, List.forall₂_map_left_iff, List.forall₂_iff_get]
    refine ⟨by simp, fun i hi hi' => ?_⟩
    simp [get?_ofItems]
  contains h := by
    rw [contains, ← not_iff_not, Bool.not_eq_true, Option.isSome_eq_false_iff,
      Option.isNone_iff_eq_none]
    exact get?_ofItems_eq_none_iff
  foreign h := get?_ofItems_eq_none_iff.2
  outside h hout := by
    rw [get?_ofItems_eq_none_iff, mem_handlesFrom_iff]
    omega
  entries := by
    have hzip := List.zip_swap items (List.range' 0 items.length)
    rw [entries, values, ofItems, List.zipIdx_eq_zip_range', handlesFrom, List.zip_map_left, ← hzip,
      List.map_map]
    rfl

theorem run_empty (κ : Kind) {steps : List (Step α)} (hf : .reload ∈ steps → f.Faithful) :
    run f (∅ : Arena κ α) steps =
      some (handlesFrom κ 0 (allocated steps).length, ofItems κ (allocated steps)) :=
  run_ofItems [] hf

theorem handlesFrom_append (κ : Kind) (m n : Nat) :
    handlesFrom κ 0 m ++ handlesFrom κ m n = handlesFrom κ 0 (m + n) := by
  have hslots : List.range' 0 m ++ List.range' (0 + m) n = List.range' 0 (m + n) :=
    List.range'_append_1
  rw [handlesFrom, handlesFrom, ← List.map_append, handlesFrom, ← hslots, Nat.zero_add]

theorem get?_ofItems_append {items : List α} {h : Handle κ}
    (hh : h ∈ handlesFrom κ 0 items.length) (more : List α) :
    (ofItems κ (items ++ more)).get? h = (ofItems κ items).get? h := by
  obtain ⟨i, hi, rfl⟩ := List.mem_map.1 hh
  rw [List.mem_range'_1] at hi
  rw [get?_ofItems, get?_ofItems, List.getElem?_append_left (by omega)]

/--
Between the first steps of a history and those `after` them: what was held then is held on under the
same handles, and the handle of what was stored next was announced.
-/
def HeldSince (f : Codec α) (before after : List (Step α)) (handles : List (Handle κ))
    (a : Arena κ α) : Prop :=
  ∃ earlier b, run f ∅ before = some (earlier, b) ∧ b.Holds earlier (allocated before) ∧
    earlier <+: handles ∧ (∀ h ∈ earlier, a.get? h = b.get? h) ∧
    ∀ item rest, after = .alloc item :: rest →
      handles[earlier.length]? = some b.next ∧ a.get? b.next = some item

theorem heldSince_of_run {before after : List (Step α)} {handles : List (Handle κ)}
    {a : Arena κ α} (hf : .reload ∈ before ++ after → f.Faithful)
    (h : run f ∅ (before ++ after) = some (handles, a)) : HeldSince f before after handles a := by
  have hearlier := run_empty κ fun h => hf (List.mem_append_left after h)
  rw [run_empty κ hf, allocated_append, List.length_append, ← handlesFrom_append] at h
  obtain ⟨rfl, rfl⟩ := Prod.mk.inj (Option.some.inj h)
  refine ⟨_, _, hearlier, holds_ofItems _, List.prefix_append _ _,
    fun h hh => get?_ofItems_append hh _, ?_⟩
  rintro item rest rfl
  have hitems : allocated (.alloc item :: rest) = item :: allocated rest := rfl
  rw [next_ofItems, get?_ofItems, hitems]
  constructor
  · simp [handlesFrom, List.range'_succ]
  · simp

structure InWords (a : Arena κ α) (handles : List (Handle κ)) (items : List α) : Prop where
  handles : handles = (List.range items.length).map fun k => ⟨(κ.wordOf k).toNat⟩
  next : a.next = ⟨(κ.wordOf items.length).toNat⟩
  get : ∀ w : UInt32, a.get? ⟨w.toNat⟩ = (κ.indexOf? w).bind (items[·]?)
  index : ∀ i, i < 2 ^ 32 - 1 → κ.indexOf? (κ.wordOf i) = some i
  slot : ∀ w i, κ.indexOf? w = some i → κ.wordOf i = w

theorem inWords_ofItems {items : List α} (hfew : items.length < 2 ^ 32 - 1) :
    (ofItems κ items).InWords (handlesFrom κ 0 items.length) items where
  handles := by
    rw [handlesFrom, ← List.range_eq_range']
    apply List.map_congr_left
    intro i hi
    rw [List.mem_range] at hi
    rw [Handle.ofSlot, Kind.toNat_wordOf (by omega)]
  next := by rw [next_ofItems, Handle.ofSlot, Kind.toNat_wordOf hfew]
  get w := by
    rw [Kind.indexOf?_eq_slot?, get?]
    congr
    funext i
    exact List.getElem?_toArray
  index i := Kind.indexOf?_wordOf
  slot w i := Kind.wordOf_of_indexOf?

theorem inWords {a : Arena κ α} (hfew : a.size < 2 ^ 32 - 1) :
    a.InWords (a.entries.map Prod.fst) a.values := by
  have hitems : ofItems κ a.values = a := by
    rw [ofItems, values, Array.toArray_toList]
  have hhandles : a.entries.map Prod.fst = handlesFrom κ 0 a.values.length := by
    have hholds : (ofItems κ a.values).Holds _ a.values := holds_ofItems a.values
    rw [← hitems, hholds.entries]
    apply List.map_fst_zip
    simp [handlesFrom]
  have hwords : (ofItems κ a.values).InWords (handlesFrom κ 0 a.values.length) a.values :=
    inWords_ofItems (by rwa [values, Array.length_toList])
  rwa [hhandles, ← hitems]

/--
An arena that starts empty, after any stores and reloads: the handles that were given out are
numbered without a gap from the first number of their kind, each was announced before its item was
stored and leads to that item ever after, no other number leads to anything, and the items are
listed with their handles in the order of storing.
-/
theorem run_handles_last (κ : Kind) (steps : List (Step α))
    (hf : .reload ∈ steps → f.Faithful)
    (hfew : (allocated steps).length < 2 ^ 32 - 1) :
    ∃ (handles : List (Handle κ)) (a : Arena κ α), run f ∅ steps = some (handles, a) ∧
      a.Holds handles (allocated steps) ∧ a.InWords handles (allocated steps) ∧
      ∀ before after, steps = before ++ after → HeldSince f before after handles a := by
  have hrun := run_empty κ hf
  refine ⟨_, _, hrun, holds_ofItems _, inWords_ofItems hfew, ?_⟩
  rintro before after rfl
  exact heldSince_of_run hf hrun

theorem run_handles_last_reloaded :
    (.reload ∈ [Step.alloc "pump", .reload, .alloc "a \"valve\""] → Codec.text.Faithful) ∧
    (allocated [.alloc "pump", .reload, .alloc "a \"valve\""]).length < 2 ^ 32 - 1 ∧
    ∃ (handles : List TypeId) (a : Arena .type String),
      run .text ∅ [.alloc "pump", .reload, .alloc "a \"valve\""] = some (handles, a) ∧
      handles = [⟨1⟩, ⟨2⟩] ∧ a.get? ⟨0⟩ = none ∧ a.get? ⟨2⟩ = some "a \"valve\"" := by
  obtain ⟨handles, a, hrun, -, hwords, -⟩ := run_handles_last .type
    [.alloc "pump", .reload, .alloc "a \"valve\""] (fun _ => Codec.text_faithful) (by decide)
  exact ⟨fun _ => Codec.text_faithful, by decide, handles, a, hrun, hwords.handles, hwords.get 0,
    hwords.get 2⟩

end Arena

namespace Schematic

structure InWords (s : Schematic) : Prop where
  types : s.types.InWords (s.types.entries.map Prod.fst) s.types.values
  nodes : s.nodes.items.InWords (s.nodes.items.entries.map Prod.fst) s.nodes.items.values
  connections : s.connections.items.InWords (s.connections.items.entries.map Prod.fst)
    s.connections.items.values
  constraints : s.constraints.items.InWords (s.constraints.items.entries.map Prod.fst)
    s.constraints.items.values

theorem inWords {s : Schematic} (htypes : s.types.size < 2 ^ 32 - 1)
    (hnodes : s.nodes.size < 2 ^ 32 - 1) (hconnections : s.connections.size < 2 ^ 32 - 1)
    (hconstraints : s.constraints.size < 2 ^ 32 - 1) : s.InWords where
  types := Arena.inWords htypes
  nodes := Arena.inWords hnodes
  connections := Arena.inWords hconnections
  constraints := Arena.inWords hconstraints

end Schematic

end Schematics

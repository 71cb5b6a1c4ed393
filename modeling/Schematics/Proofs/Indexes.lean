import Std.Data.TreeMap.Lemmas
import Schematics.Proofs.Registration

/-!
The indexes of a schematic lead to what is stored and to nothing else. One notion serves all of
them: an index over an arena holds, under the symbol of each item that it is for, the handle of that
item.
-/

namespace Schematics

universe u

variable {κ : Kind} {α : Type u}

instance : Std.TransOrd Symbol where
  eq_swap {a b} := Std.OrientedOrd.eq_swap (a := a.index) (b := b.index)
  isLE_trans {a b c} := Std.TransOrd.isLE_trans (a := a.index) (b := b.index) (c := c.index)

instance : Std.LawfulEqOrd Symbol where
  compare_self {a} := Std.ReflOrd.compare_self (a := a.index)
  eq_of_compare {a b} h := by
    obtain ⟨i⟩ := a
    obtain ⟨j⟩ := b
    exact congrArg Symbol.mk (Std.LawfulEqOrd.eq_of_compare h)

namespace Interner

def Consistent (t : Interner) : Prop :=
  ∀ name symbol, t.get? name = some symbol ↔ t.resolve? symbol = some name

variable {t : Interner}

theorem consistent_empty : empty.Consistent := by
  intro name symbol
  simp [empty, get?, resolve?]

theorem intern_of_known {name : String} {symbol : Symbol} (h : t.get? name = some symbol) :
    t.intern name = (symbol, t) := by
  simp only [intern, h]

theorem intern_of_new {name : String} (h : t.get? name = none) :
    t.intern name = (⟨t.size⟩, ⟨t.symbols.insert name ⟨t.size⟩, t.names.push name⟩) := by
  simp only [intern, h]

theorem Consistent.intern (h : t.Consistent) (name : String) : (t.intern name).2.Consistent := by
  cases hn : t.get? name with
  | some symbol =>
    rw [intern_of_known hn]
    exact h
  | none =>
    rw [intern_of_new hn]
    intro other symbol
    obtain ⟨i⟩ := symbol
    have hold := h other ⟨i⟩
    simp only [get?, resolve?] at hold hn ⊢
    rw [Std.TreeMap.getElem?_insert, Array.getElem?_push]
    by_cases ho : name = other
    · subst ho
      have hi : t.names[i]? ≠ some name := fun hi => by
        rw [hold.2 hi] at hn
        exact absurd hn (by simp)
      by_cases his : i = t.names.size <;> simp [his, size, hi, eq_comm]
    · have hc : compare name other ≠ .eq := fun hc => ho (Std.LawfulEqOrd.eq_of_compare hc)
      by_cases his : i = t.names.size
      · subst his
        simpa [hc, ho] using hold
      · simp [hc, his, hold]

theorem resolve?_intern (h : t.Consistent) (name : String) (symbol : Symbol) (other : String) :
    (t.intern name).2.resolve? symbol = some other ↔
      t.resolve? symbol = some other ∨ (symbol = (t.intern name).1 ∧ other = name) := by
  cases hn : t.get? name with
  | some known =>
    rw [intern_of_known hn]
    refine ⟨.inl, ?_⟩
    rintro (hs | ⟨rfl, rfl⟩)
    · exact hs
    · exact (h _ _).1 hn
  | none =>
    rw [intern_of_new hn]
    obtain ⟨i⟩ := symbol
    simp only [resolve?, size, Symbol.mk.injEq]
    rw [Array.getElem?_push]
    by_cases hi : i = t.names.size
    · subst hi
      simp [eq_comm]
    · simp [hi]

theorem resolve?_intern_of_some (h : t.Consistent) {symbol : Symbol} {other : String}
    (hs : t.resolve? symbol = some other) (name : String) :
    (t.intern name).2.resolve? symbol = some other :=
  (resolve?_intern h name symbol other).2 (.inl hs)

theorem resolve?_intern_self (h : t.Consistent) (name : String) :
    (t.intern name).2.resolve? (t.intern name).1 = some name :=
  (resolve?_intern h name _ _).2 (.inr ⟨rfl, rfl⟩)

end Interner

namespace Arena

theorem get?_eq_some_iff {a : Arena κ α} {h : Handle κ} {v : α} :
    a.get? h = some v ↔ ∃ i, h = .ofSlot i ∧ a.items[i]? = some v := by
  constructor
  · intro hv
    cases hs : h.slot? with
    | none => simp [get?, hs] at hv
    | some i =>
      obtain rfl := Handle.slot?_eq_some_iff.1 hs
      exact ⟨i, rfl, by rwa [get?_ofSlot] at hv⟩
  · rintro ⟨i, rfl, hv⟩
    rwa [get?_ofSlot]

theorem mem_values_iff {a : Arena κ α} {v : α} : v ∈ a.values ↔ ∃ h, a.get? h = some v := by
  rw [values, List.mem_iff_getElem?]
  constructor
  · rintro ⟨i, hi⟩
    exact ⟨.ofSlot i, get?_eq_some_iff.2 ⟨i, rfl, by simpa using hi⟩⟩
  · rintro ⟨h, hv⟩
    obtain ⟨i, -, hi⟩ := get?_eq_some_iff.1 hv
    exact ⟨i, by simpa using hi⟩

theorem get?_empty (h : Handle κ) : (∅ : Arena κ α).get? h = none := by
  cases hs : h.slot? with
  | none => simp [get?, hs]
  | some i =>
    rw [Handle.slot?_eq_some_iff.1 hs, get?_ofSlot]
    rfl

theorem get?_next (a : Arena κ α) : a.get? a.next = none := by
  simp [next, get?_ofSlot, size]

theorem get?_alloc_eq_some_iff {a : Arena κ α} {v w : α} {h : Handle κ} :
    (a.alloc v).get? h = some w ↔ a.get? h = some w ∨ (h = a.next ∧ w = v) := by
  by_cases hn : h = a.next
  · subst hn
    simp [get?_alloc_next, get?_next, eq_comm]
  · simp [get?_alloc_of_ne hn, hn]

end Arena

def Indexes (index : NameIndex κ) (items : Arena κ (Named α)) (p : α → Prop) : Prop :=
  ∀ symbol id, index[symbol]? = some id ↔ ∃ v, items.get? id = some ⟨symbol, v⟩ ∧ p v

namespace Indexes

variable {index : NameIndex κ} {items : Arena κ (Named α)} {p : α → Prop}

theorem empty (p : α → Prop) : Indexes (∅ : NameIndex κ) (∅ : Arena κ (Named α)) p := by
  intro symbol id
  simp [Arena.get?_empty]

theorem alloc (h : Indexes index items p) {symbol : Symbol} {v : α}
    (hnew : ∀ id w, items.get? id ≠ some ⟨symbol, w⟩) (hv : p v) :
    Indexes (index.insert symbol items.next) (items.alloc ⟨symbol, v⟩) p := by
  intro other id
  rw [Std.TreeMap.getElem?_insert]
  simp only [Arena.get?_alloc_eq_some_iff, Named.mk.injEq]
  by_cases ho : symbol = other
  · subst ho
    constructor
    · intro hid
      rw [if_pos Std.ReflCmp.compare_self, Option.some.injEq] at hid
      exact ⟨v, .inr ⟨hid.symm, rfl, rfl⟩, hv⟩
    · rintro ⟨w, hw | ⟨rfl, -, rfl⟩, hp⟩
      · exact absurd hw (hnew id w)
      · rw [if_pos Std.ReflCmp.compare_self]
  · have hc : compare symbol other ≠ .eq := fun hc => ho (Std.LawfulEqOrd.eq_of_compare hc)
    rw [if_neg hc, h other id]
    refine exists_congr fun w => and_congr_left fun _ => ?_
    exact ⟨.inl, fun hw => hw.resolve_right fun ⟨_, he, _⟩ => ho he.symm⟩

theorem alloc_other (h : Indexes index items p) (symbol : Symbol) {v : α} (hv : ¬p v) :
    Indexes index (items.alloc ⟨symbol, v⟩) p := by
  intro other id
  rw [h other id]
  simp only [Arena.get?_alloc_eq_some_iff, Named.mk.injEq]
  refine exists_congr fun w => and_congr_left fun hp => ?_
  refine ⟨.inl, fun hw => hw.resolve_right ?_⟩
  rintro ⟨-, -, rfl⟩
  exact hv hp

end Indexes

namespace InstanceTable

structure Consistent (names : Interner) (t : InstanceTable κ α) : Prop where
  named : ∀ id e, t.items.get? id = some e → ∃ name, names.resolve? e.symbol = some name
  indexed : Indexes t.byName t.items fun _ => True

variable {names : Interner} {t : InstanceTable κ α}

theorem consistent_empty (names : Interner) : ({} : InstanceTable κ α).Consistent names where
  named id e he := by simp [Arena.get?_empty] at he
  indexed := .empty _

theorem Consistent.intern (h : t.Consistent names) (hn : names.Consistent) (name : String) :
    t.Consistent (names.intern name).2 where
  named id e he := by
    obtain ⟨other, ho⟩ := h.named id e he
    exact ⟨other, Interner.resolve?_intern_of_some hn ho name⟩
  indexed := h.indexed

theorem Consistent.fresh (h : t.Consistent names) (hn : names.Consistent) {name : String}
    (hnew : (names.get? name).bind (t.byName[·]?) = none) (id : Handle κ) (v : α) :
    t.items.get? id ≠ some ⟨(names.intern name).1, v⟩ := by
  intro hv
  obtain ⟨other, ho⟩ := h.named id _ hv
  have hother : other = name := by
    have hold := Interner.resolve?_intern_of_some hn ho name
    rw [Interner.resolve?_intern_self hn name] at hold
    exact (Option.some.inj hold).symm
  have hfound : t.byName[(names.intern name).1]? = some id :=
    (h.indexed _ id).2 ⟨v, hv, trivial⟩
  rw [(hn name _).2 (hother ▸ ho), Option.bind_some, hfound] at hnew
  exact nomatch hnew

theorem Consistent.insert (h : t.Consistent names) (hn : names.Consistent) {name : String}
    (hnew : (names.get? name).bind (t.byName[·]?) = none) (v : α) :
    (t.insert (names.intern name).1 v).Consistent (names.intern name).2 where
  named id e he := by
    obtain he | ⟨-, rfl⟩ := Arena.get?_alloc_eq_some_iff.1 he
    · exact (h.intern hn name).named id e he
    · exact ⟨name, Interner.resolve?_intern_self hn name⟩
  indexed := h.indexed.alloc (h.fresh hn hnew) trivial

end InstanceTable

namespace Schematic

def typeTable (s : Schematic) : InstanceTable .type TypeDef := ⟨s.types, s.typeNames⟩

structure Consistent (s : Schematic) : Prop where
  names : s.names.Consistent
  types : s.typeTable.Consistent s.names
  ids : ∀ id e, s.types.get? id = some e → e.value.id = some id
  categories : ∀ c, Indexes (s.categories.of c) s.types (·.category = c)
  nodes : s.nodes.Consistent s.names
  connections : s.connections.Consistent s.names
  constraints : s.constraints.Consistent s.names

variable {s : Schematic}

theorem consistent_blank (name : String) : Consistent { name := name } where
  names := Interner.consistent_empty
  types := InstanceTable.consistent_empty _
  ids id e he := by simp [Arena.get?_empty] at he
  categories c := by cases c <;> exact Indexes.empty _
  nodes := InstanceTable.consistent_empty _
  connections := InstanceTable.consistent_empty _
  constraints := InstanceTable.consistent_empty _

theorem Consistent.recordType (h : s.Consistent) {name : String}
    (hnew : s.find? s.typeNames name = none) (shape : Shape) :
    (s.recordType name shape).Consistent where
  names := h.names.intern name
  types := h.types.insert h.names hnew _
  ids id e he := by
    obtain he | ⟨rfl, rfl⟩ := Arena.get?_alloc_eq_some_iff.1 he
    · exact h.ids id e he
    · rfl
  categories c := by
    have hfresh := h.types.fresh h.names hnew
    simp only [Schematic.recordType, CategoryIndexes.of_insert]
    by_cases hc : c = shape.category
    · subst hc
      rw [if_pos rfl]
      exact (h.categories _).alloc hfresh rfl
    · rw [if_neg hc]
      exact (h.categories c).alloc_other _ (Ne.symm hc)
  nodes := h.nodes.intern h.names name
  connections := h.connections.intern h.names name
  constraints := h.constraints.intern h.names name

theorem Consistent.recordNode (h : s.Consistent) {name : String}
    (hnew : s.find? s.nodes.byName name = none) (n : Node) : (s.recordNode name n).Consistent where
  names := h.names.intern name
  types := h.types.intern h.names name
  ids := h.ids
  categories := h.categories
  nodes := h.nodes.insert h.names hnew n
  connections := h.connections.intern h.names name
  constraints := h.constraints.intern h.names name

theorem Consistent.recordConnection (h : s.Consistent) {name : String}
    (hnew : s.find? s.connections.byName name = none) (c : Connection) :
    (s.recordConnection name c).Consistent where
  names := h.names.intern name
  types := h.types.intern h.names name
  ids := h.ids
  categories := h.categories
  nodes := h.nodes.intern h.names name
  connections := h.connections.insert h.names hnew c
  constraints := h.constraints.intern h.names name

theorem Consistent.recordConstraint (h : s.Consistent) {name : String}
    (hnew : s.find? s.constraints.byName name = none) (c : Constraint) :
    (s.recordConstraint name c).Consistent where
  names := h.names.intern name
  types := h.types.intern h.names name
  ids := h.ids
  categories := h.categories
  nodes := h.nodes.intern h.names name
  connections := h.connections.intern h.names name
  constraints := h.constraints.insert h.names hnew c

theorem Built.consistent (h : s.Built) : s.Consistent := by
  induction h with
  | blank name => exact consistent_blank name
  | @record s i _ hi ih =>
    cases i with
    | type name shape => exact ih.recordType (find?_of_checkType hi) shape
    | node name n => exact ih.recordNode (find?_of_checkNode hi) n
    | connection name c => exact ih.recordConnection (find?_of_checkConnection hi) c
    | constraint name c => exact ih.recordConstraint (find?_of_checkConstraint hi) c

end Schematic

end Schematics

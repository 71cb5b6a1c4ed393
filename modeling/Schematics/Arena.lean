import Schematics.Handle

namespace Schematics

universe u

variable {κ : Kind} {α : Type u}

structure Arena (κ : Kind) (α : Type u) where
  items : Array α
  deriving DecidableEq

namespace Arena

def empty : Arena κ α := ⟨#[]⟩

instance : EmptyCollection (Arena κ α) := ⟨empty⟩

def size (a : Arena κ α) : Nat := a.items.size

def next (a : Arena κ α) : Handle κ := .ofSlot a.size

def alloc (a : Arena κ α) (item : α) : Arena κ α := ⟨a.items.push item⟩

def get? (a : Arena κ α) (h : Handle κ) : Option α := h.slot?.bind (a.items[·]?)

def contains (a : Arena κ α) (h : Handle κ) : Bool := (a.get? h).isSome

def values (a : Arena κ α) : List α := a.items.toList

def entries (a : Arena κ α) : List (Handle κ × α) :=
  a.values.zipIdx.map fun e => (.ofSlot e.2, e.1)

theorem get?_ofSlot (a : Arena κ α) (i : Nat) : a.get? (.ofSlot i) = a.items[i]? := by
  simp [get?]

theorem get?_alloc_next (a : Arena κ α) (item : α) : (a.alloc item).get? a.next = some item := by
  simp [next, get?_ofSlot, alloc, size]

theorem get?_alloc_of_ne {a : Arena κ α} {h : Handle κ} (hne : h ≠ a.next) (item : α) :
    (a.alloc item).get? h = a.get? h := by
  cases hs : h.slot? with
  | none => simp [get?, hs]
  | some i =>
    obtain rfl := Handle.slot?_eq_some_iff.1 hs
    have hi : i ≠ a.items.size := fun hi => hne (by rw [hi]; rfl)
    rw [get?_ofSlot, get?_ofSlot, alloc, Array.getElem?_push, if_neg hi]

end Arena

end Schematics

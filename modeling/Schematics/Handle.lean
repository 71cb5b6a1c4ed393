namespace Schematics

inductive Kind where
  | type
  | node
  | connection
  | constraint
  deriving DecidableEq, Repr

def Kind.first : Kind → Nat
  | .type => 1
  | .node => 0
  | .connection => 0
  | .constraint => 0

structure Handle (κ : Kind) where
  raw : Nat
  deriving DecidableEq, Repr

abbrev TypeId := Handle .type

abbrev NodeId := Handle .node

abbrev ConnectionId := Handle .connection

abbrev ConstraintId := Handle .constraint

namespace Handle

variable {κ : Kind}

def ofSlot (i : Nat) : Handle κ := ⟨i + κ.first⟩

def slot? (h : Handle κ) : Option Nat :=
  if κ.first ≤ h.raw then some (h.raw - κ.first) else none

def text (h : Handle κ) : String := s!"#{h.raw}"

@[simp] theorem slot?_ofSlot (i : Nat) : (ofSlot i : Handle κ).slot? = some i := by
  simp [slot?, ofSlot]

theorem slot?_eq_some_iff {h : Handle κ} {i : Nat} : h.slot? = some i ↔ h = ofSlot i := by
  constructor
  · intro hs
    obtain ⟨raw⟩ := h
    by_cases hr : κ.first ≤ raw
    · simp only [slot?, hr, if_true, Option.some.injEq] at hs
      simp only [ofSlot, Handle.mk.injEq]
      omega
    · simp [slot?, hr] at hs
  · rintro rfl
    exact slot?_ofSlot i

end Handle

end Schematics

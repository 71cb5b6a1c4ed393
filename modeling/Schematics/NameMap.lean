/-!
Finite maps from names to values, listed in the order of their names (by code point). Reading a
name back gives what was last put there, and `insert` keeps the listing sorted.
-/

namespace Schematics

universe u v

variable {α : Type u} {β : Type v}

structure NameMap (α : Type u) where
  entries : List (String × α)
  deriving DecidableEq

namespace NameMap

def empty : NameMap α := ⟨[]⟩

instance : EmptyCollection (NameMap α) := ⟨empty⟩

instance : Inhabited (NameMap α) := ⟨empty⟩

def get? (m : NameMap α) (name : String) : Option α := m.entries.lookup name

def contains (m : NameMap α) (name : String) : Bool := (m.get? name).isSome

def isEmpty (m : NameMap α) : Bool := m.entries.isEmpty

def size (m : NameMap α) : Nat := m.entries.length

def place (name : String) (a : α) : List (String × α) → List (String × α)
  | [] => [(name, a)]
  | (other, b) :: rest =>
    if name < other then (name, a) :: (other, b) :: rest
    else if name = other then (name, a) :: rest
    else (other, b) :: place name a rest

def insert (m : NameMap α) (name : String) (a : α) : NameMap α := ⟨place name a m.entries⟩

def insertAll (m : NameMap α) (entries : List (String × α)) : NameMap α :=
  entries.foldl (fun m e => m.insert e.1 e.2) m

def ofList (entries : List (String × α)) : NameMap α := empty.insertAll entries

def override (inherited own : NameMap α) : NameMap α := inherited.insertAll own.entries

def map (f : α → β) (m : NameMap α) : NameMap β := ⟨m.entries.map fun e => (e.1, f e.2)⟩

def Sorted (m : NameMap α) : Prop := m.entries.Pairwise fun a b => a.1 < b.1

@[simp] theorem get?_empty (name : String) : (empty : NameMap α).get? name = none := rfl

theorem lookup_place_self (name : String) (a : α) (l : List (String × α)) :
    (place name a l).lookup name = some a := by
  induction l with
  | nil => simp [place]
  | cons e rest ih =>
    obtain ⟨other, b⟩ := e
    by_cases h₁ : name < other
    · simp [place, h₁]
    · by_cases h₂ : name = other
      · simp [place, h₂]
      · have h₃ : (name == other) = false := by simp [h₂]
        simp [place, h₁, h₂, List.lookup_cons, h₃, ih]

theorem lookup_place_of_ne {name other : String} (h : other ≠ name) (a : α)
    (l : List (String × α)) : (place name a l).lookup other = l.lookup other := by
  have hn : (other == name) = false := by simp [h]
  induction l with
  | nil => simp [place, List.lookup_cons, hn]
  | cons e rest ih =>
    obtain ⟨third, b⟩ := e
    by_cases h₁ : name < third
    · simp [place, h₁, List.lookup_cons, hn]
    · by_cases h₂ : name = third
      · subst h₂
        simp [place, List.lookup_cons, hn]
      · rw [place, if_neg h₁, if_neg h₂]
        simp only [List.lookup_cons, ih]

@[simp] theorem get?_insert_self (m : NameMap α) (name : String) (a : α) :
    (m.insert name a).get? name = some a := lookup_place_self name a m.entries

theorem get?_insert_of_ne {name other : String} (h : other ≠ name) (m : NameMap α) (a : α) :
    (m.insert name a).get? other = m.get? other := lookup_place_of_ne h a m.entries

theorem get?_insert (m : NameMap α) (name other : String) (a : α) :
    (m.insert name a).get? other = if other = name then some a else m.get? other := by
  by_cases h : other = name
  · simp [h]
  · simp [h, get?_insert_of_ne h]

theorem mem_place {name : String} {a : α} {l : List (String × α)} {e : String × α}
    (h : e ∈ place name a l) : e = (name, a) ∨ e ∈ l := by
  induction l with
  | nil => simpa [place] using h
  | cons d rest ih =>
    obtain ⟨other, b⟩ := d
    by_cases h₁ : name < other
    · simpa [place, h₁] using h
    · by_cases h₂ : name = other
      · rw [place, if_neg h₁, if_pos h₂] at h
        rcases List.mem_cons.1 h with h | h
        · exact .inl h
        · exact .inr (List.mem_cons_of_mem _ h)
      · rw [place, if_neg h₁, if_neg h₂] at h
        rcases List.mem_cons.1 h with h | h
        · exact .inr (h ▸ List.mem_cons_self)
        · exact (ih h).imp id (List.mem_cons_of_mem _)

theorem pairwise_place (name : String) (a : α) {l : List (String × α)}
    (h : l.Pairwise fun a b => a.1 < b.1) :
    (place name a l).Pairwise fun a b => a.1 < b.1 := by
  induction l with
  | nil => simp [place]
  | cons e rest ih =>
    obtain ⟨other, b⟩ := e
    obtain ⟨hfirst, hrest⟩ := List.pairwise_cons.1 h
    by_cases h₁ : name < other
    · rw [place, if_pos h₁]
      refine List.pairwise_cons.2 ⟨fun e he => ?_, h⟩
      rcases List.mem_cons.1 he with he | he
      · exact he ▸ h₁
      · exact String.lt_trans h₁ (hfirst e he)
    · by_cases h₂ : name = other
      · rw [place, if_neg h₁, if_pos h₂]
        exact List.pairwise_cons.2 ⟨fun e he => h₂ ▸ hfirst e he, hrest⟩
      · rw [place, if_neg h₁, if_neg h₂]
        refine List.pairwise_cons.2 ⟨fun e he => ?_, ih hrest⟩
        rcases mem_place he with he | he
        · subst he
          exact String.not_le.1 fun hle => h₂ (String.le_antisymm (String.not_lt.1 h₁) hle).symm
        · exact hfirst e he

theorem Sorted.insert {m : NameMap α} (h : m.Sorted) (name : String) (a : α) :
    (m.insert name a).Sorted := pairwise_place name a h

theorem Sorted.insertAll {m : NameMap α} (h : m.Sorted) (entries : List (String × α)) :
    (m.insertAll entries).Sorted := by
  induction entries generalizing m with
  | nil => exact h
  | cons e rest ih => exact ih (h.insert e.1 e.2)

theorem sorted_ofList (entries : List (String × α)) : (ofList entries).Sorted :=
  Sorted.insertAll List.Pairwise.nil entries

end NameMap

end Schematics

import Mathlib.Logic.Basic

namespace Schematics

universe u v

variable {ε : Type u} {α β : Type v}

@[simp] theorem pure_eq_ok (a : α) : (pure a : Except ε α) = .ok a := rfl

@[simp] theorem throw_eq_error (e : ε) : (throw e : Except ε α) = .error e := rfl

theorem ok_bind (a : α) (f : α → Except ε β) : (.ok a : Except ε α) >>= f = f a := rfl

theorem bind_eq_ok_iff {x : Except ε α} {f : α → Except ε β} {b : β} :
    x >>= f = .ok b ↔ ∃ a, x = .ok a ∧ f a = .ok b := by
  cases x <;> simp [bind, Except.bind]

theorem bind_eq_error_iff {x : Except ε α} {f : α → Except ε β} {e : ε} :
    x >>= f = .error e ↔ x = .error e ∨ ∃ a, x = .ok a ∧ f a = .error e := by
  cases x <;> simp [bind, Except.bind]

theorem exists_unit_iff {p : PUnit → Prop} : (∃ a, p a) ↔ p ⟨⟩ :=
  ⟨fun ⟨_, h⟩ => h, fun h => ⟨_, h⟩⟩

theorem map_eq_ok_iff {f : α → β} {x : Except ε α} {b : β} :
    f <$> x = .ok b ↔ ∃ a, x = .ok a ∧ f a = b := by
  cases x <;> simp [Functor.map, Except.map]

theorem map_eq_error_iff {f : α → β} {x : Except ε α} {e : ε} :
    f <$> x = .error e ↔ x = .error e := by
  cases x <;> simp [Functor.map, Except.map]

theorem mapError_eq_ok_iff {ε' : Type u} {f : ε → ε'} {x : Except ε α} {a : α} :
    x.mapError f = .ok a ↔ x = .ok a := by
  cases x with
  | ok b => exact (Except.ok.injEq ..).to_iff.trans (Except.ok.injEq ..).to_iff.symm
  | error cause => constructor <;> intro h <;> cases h

theorem mapError_eq_error_iff {ε' : Type u} {f : ε → ε'} {x : Except ε α} {e : ε'} :
    x.mapError f = .error e ↔ ∃ cause, x = .error cause ∧ f cause = e := by
  constructor
  · intro h
    cases x with
    | ok b => cases h
    | error cause => exact ⟨cause, rfl, Except.error.inj h⟩
  · rintro ⟨cause, rfl, rfl⟩
    rfl

theorem exists_ok_of_any {x : Except ε α} {p : α → Bool} (h : x.toOption.any p = true) :
    ∃ a, x = .ok a ∧ p a = true := by
  cases x with
  | ok a => exact ⟨a, rfl, h⟩
  | error e => exact nomatch h

theorem guard_eq_ok_iff {p : Prop} [Decidable p] {e : ε} {f : β → Except ε α} {x : Except ε α}
    {a : α} : (if p then throw e >>= f else x) = .ok a ↔ ¬p ∧ x = .ok a := by
  by_cases h : p <;> simp [h, bind_eq_ok_iff]

theorem forM_cons_eq (f : α → Except ε PUnit) (a : α) (rest : List α) :
    (a :: rest).forM f = f a >>= fun _ => rest.forM f := rfl

theorem forM_eq_ok_iff {l : List α} {f : α → Except ε PUnit} :
    l.forM f = .ok ⟨⟩ ↔ ∀ a ∈ l, f a = .ok ⟨⟩ := by
  induction l with
  | nil => exact ⟨fun _ a ha => absurd ha List.not_mem_nil, fun _ => rfl⟩
  | cons a rest ih =>
    rw [forM_cons_eq, bind_eq_ok_iff, exists_unit_iff, List.forall_mem_cons, ← ih]

theorem exists_of_forM_eq_error {l : List α} {f : α → Except ε PUnit} {e : ε}
    (h : l.forM f = .error e) : ∃ a ∈ l, f a = .error e := by
  induction l with
  | nil => exact nomatch h
  | cons a rest ih =>
    rw [forM_cons_eq, bind_eq_error_iff] at h
    obtain h | ⟨_, _, h⟩ := h
    · exact ⟨a, List.mem_cons_self, h⟩
    · obtain ⟨b, hb, hf⟩ := ih h
      exact ⟨b, List.mem_cons_of_mem _ hb, hf⟩

theorem foldlM_eq_error_iff {l : List α} {f : β → α → Except ε β} {b : β} {e : ε} :
    l.foldlM f b = .error e ↔ ∃ earlier a later b', l = earlier ++ a :: later ∧
      earlier.foldlM f b = .ok b' ∧ f b' a = .error e := by
  constructor
  · intro h
    induction l generalizing b with
    | nil => exact nomatch h
    | cons a rest ih =>
      rw [List.foldlM_cons, bind_eq_error_iff] at h
      obtain h | ⟨next, hnext, h⟩ := h
      · exact ⟨[], a, rest, b, rfl, rfl, h⟩
      · obtain ⟨earlier, c, later, b', rfl, hearlier, hc⟩ := ih h
        refine ⟨a :: earlier, c, later, b', rfl, ?_, hc⟩
        rw [List.foldlM_cons, hnext]
        exact hearlier
  · rintro ⟨earlier, a, later, b', rfl, hearlier, ha⟩
    rw [List.foldlM_append, bind_eq_error_iff]
    refine .inr ⟨b', hearlier, ?_⟩
    rw [List.foldlM_cons, bind_eq_error_iff]
    exact .inl ha

def FailsOnly (p : ε → Prop) (x : Except ε α) : Prop := ∀ e, x = .error e → p e

namespace FailsOnly

variable {p q : ε → Prop} {x : Except ε α}

theorem ok (a : α) : FailsOnly p (.ok a : Except ε α) := fun _ h => nomatch h

theorem of_ok {a : α} (h : x = .ok a) : FailsOnly p x := h ▸ .ok a

theorem error {e : ε} (h : p e) : FailsOnly p (.error e : Except ε α) :=
  fun _ he => Except.error.inj he ▸ h

theorem mono (hx : FailsOnly p x) (h : ∀ e, p e → q e) : FailsOnly q x := fun e he => h e (hx e he)

theorem bind {g : α → Except ε β} (hx : FailsOnly p x) (hg : ∀ a, x = .ok a → FailsOnly p (g a)) :
    FailsOnly p (x >>= g) := by
  intro e he
  obtain he | ⟨a, ha, he⟩ := bind_eq_error_iff.1 he
  · exact hx e he
  · exact hg a ha e he

theorem map (g : α → β) (hx : FailsOnly p x) : FailsOnly p (g <$> x) :=
  fun e he => hx e (map_eq_error_iff.1 he)

theorem forM {l : List α} {g : α → Except ε PUnit} (hg : ∀ a ∈ l, FailsOnly p (g a)) :
    FailsOnly p (l.forM g) := by
  intro e he
  obtain ⟨a, ha, he⟩ := exists_of_forM_eq_error he
  exact hg a ha e he

theorem foldlM {l : List α} {g : β → α → Except ε β} {b : β}
    (hg : ∀ b, ∀ a ∈ l, FailsOnly p (g b a)) : FailsOnly p (l.foldlM g b) := by
  intro e he
  obtain ⟨_, a, _, b', rfl, -, he⟩ := foldlM_eq_error_iff.1 he
  exact hg b' a (List.mem_append_right _ List.mem_cons_self) e he

theorem guard {c : Prop} [Decidable c] {e : ε} {g : β → Except ε α} (he : p e)
    (hx : FailsOnly p x) : FailsOnly p (if c then throw e >>= g else x) := by
  by_cases hc : c
  · rw [if_pos hc]
    exact .error he
  · rwa [if_neg hc]

end FailsOnly

end Schematics

import Schematics.Diagnostic

namespace Schematics

universe u v

structure Reported (ε : Type u) (α : Type v) where
  log : List Diagnostic
  result : Except ε α

namespace Reported

variable {ε : Type u} {α β : Type v}

def ofExcept (r : Except ε α) : Reported ε α := ⟨[], r⟩

def fail (e : ε) : Reported ε α := ⟨[], .error e⟩

def tell (d : Diagnostic) : Reported ε PUnit := ⟨[d], .ok ⟨⟩⟩

def bind (x : Reported ε α) (f : α → Reported ε β) : Reported ε β :=
  match x.result with
  | .ok a => ⟨x.log ++ (f a).log, (f a).result⟩
  | .error e => ⟨x.log, .error e⟩

instance : Monad (Reported ε) where
  pure a := ⟨[], .ok a⟩
  bind := bind

def mapError {ε' : Type u} (f : ε → ε') (x : Reported ε α) : Reported ε' α :=
  ⟨x.log, x.result.mapError f⟩

@[simp] theorem result_pure (a : α) : (pure a : Reported ε α).result = .ok a := rfl

theorem bind_ok {x : Reported ε α} {a : α} (h : x.result = .ok a) (f : α → Reported ε β) :
    x >>= f = ⟨x.log ++ (f a).log, (f a).result⟩ := by
  simp [Bind.bind, bind, h]

theorem bind_error {x : Reported ε α} {e : ε} (h : x.result = .error e) (f : α → Reported ε β) :
    x >>= f = ⟨x.log, .error e⟩ := by
  simp [Bind.bind, bind, h]

end Reported

end Schematics

import Std.Data.TreeMap

namespace Schematics

structure Symbol where
  index : Nat
  deriving DecidableEq, Repr

instance : Ord Symbol := ⟨fun a b => compare a.index b.index⟩

structure Interner where
  symbols : Std.TreeMap String Symbol
  names : Array String

namespace Interner

def empty : Interner := ⟨∅, #[]⟩

def size (t : Interner) : Nat := t.names.size

def get? (t : Interner) (name : String) : Option Symbol := t.symbols[name]?

def intern (t : Interner) (name : String) : Symbol × Interner :=
  match t.get? name with
  | some s => (s, t)
  | none => (⟨t.size⟩, ⟨t.symbols.insert name ⟨t.size⟩, t.names.push name⟩)

def resolve? (t : Interner) (s : Symbol) : Option String := t.names[s.index]?

end Interner

end Schematics

import Schematics.Schematic.Lookup

namespace Schematics

structure Endpoint where
  node : String
  port : String
  deriving DecidableEq, Repr

namespace Endpoint

def write (delimiter : Char) (e : Endpoint) : String := s!"{e.node}{delimiter}{e.port}"

def splitFirst? (delimiter : Char) : List Char → Option (List Char × List Char)
  | [] => none
  | c :: rest =>
    if c = delimiter then some ([], rest)
    else (splitFirst? delimiter rest).map fun e => (c :: e.1, e.2)

def parse (text : String) (delimiter : Char) : Except Fault Endpoint :=
  match splitFirst? delimiter text.toList with
  | some (n :: node, p :: port) => .ok ⟨.ofList (n :: node), .ofList (p :: port)⟩
  | _ =>
    .error (.malformed s!"endpoint `{text}` must have the form `node{delimiter}port`")

theorem splitFirst?_eq_some_iff {d : Char} {cs node port : List Char} :
    splitFirst? d cs = some (node, port) ↔ cs = node ++ d :: port ∧ d ∉ node := by
  induction cs generalizing node port with
  | nil => simp [splitFirst?]
  | cons c rest ih =>
    by_cases h : c = d
    · subst h
      cases node with
      | nil => simp [splitFirst?]
      | cons x node =>
        constructor
        · intro he
          simp [splitFirst?] at he
        · rintro ⟨hcs, hd⟩
          simp only [List.cons_append, List.cons.injEq] at hcs
          exact absurd (hcs.1 ▸ List.mem_cons_self) hd
    · cases node with
      | nil => simp [splitFirst?, h]
      | cons x node =>
        rw [splitFirst?, if_neg h, Option.map_eq_some_iff]
        constructor
        · rintro ⟨⟨before, after⟩, he, hx⟩
          obtain ⟨hrest, hd⟩ := ih.1 he
          simp only [Prod.mk.injEq, List.cons.injEq] at hx
          obtain ⟨⟨rfl, rfl⟩, rfl⟩ := hx
          exact ⟨by rw [hrest, List.cons_append], by
            simp only [List.mem_cons, not_or]; exact ⟨fun e => h e.symm, hd⟩⟩
        · rintro ⟨hcs, hd⟩
          simp only [List.cons_append, List.cons.injEq] at hcs
          obtain ⟨rfl, hrest⟩ := hcs
          simp only [List.mem_cons, not_or] at hd
          exact ⟨(node, port), ih.2 ⟨hrest, hd.2⟩, rfl⟩

end Endpoint

def Schematic.resolveEndpoint (s : Schematic) (text : String) (delimiter : Char) :
    Except Fault PortRef := do
  let e ← Endpoint.parse text delimiter
  let node ← s.nodeId e.node
  let _ ← portOf (← s.nodeById node) e.port
  pure ⟨node, e.port⟩

end Schematics

import Schematics.Proofs.Coherence
import Schematics.Proofs.Integrity
import Schematics.Proofs.LedgerRefinement

namespace Schematics

universe u v

variable {κ : Kind} {α : Type u} {β : Type v}

def Fault.located (what name message : String) : Fault :=
  .verification s!"{what} `{name}`: {message}"

theorem Defect.message_inside (what name : String) (d : Defect) :
    Fault.verification (d.inside s!"{what} `{name}`").message = .located what name d.message := by
  have hinside : (d.inside s!"{what} `{name}`").message =
      s!"{what} `{name}`" ++ ": " ++ d.message := rfl
  have hmark : toString "`: " = "`" ++ ": " := by decide
  rw [hinside, Fault.located, hmark]
  simp only [toString, String.append_assoc]

theorem Defect.check_eq_error_iff {d : Option Defect} {f : Fault} :
    check d = .error f ↔ ∃ d', d = some d' ∧ f = .verification d'.message := by
  cases d <;> simp [check, eq_comm]

theorem Ledger.exists_first {rows : List (String × α)} {f : String × α → Option β} {b : β}
    (h : rows.findSome? f = some b) : ∃ (id : Handle κ) (e : String × α),
      row? rows id = some e ∧ f e = some b ∧
        ∀ (id' : Handle κ) e', id'.raw < id.raw → row? rows id' = some e' → f e' = none := by
  obtain ⟨earlier, e, later, rfl, he, hnone⟩ := List.findSome?_eq_some_iff.1 h
  refine ⟨.ofSlot earlier.length, e, ?_, he, fun id' e' hlt hrow => ?_⟩
  · rw [row?_ofSlot, List.getElem?_append_right (Nat.le_refl _), Nat.sub_self, List.getElem?_cons_zero]
  · obtain ⟨i, rfl, hi⟩ := row?_eq_some_iff.1 hrow
    have hlt : i < earlier.length := Nat.lt_of_add_lt_add_right hlt
    rw [List.getElem?_append_left hlt] at hi
    exact hnone e' (List.mem_of_getElem? hi)

namespace Schematic

variable {s : Schematic}

theorem instanceDefect?_eq_listed (s : Schematic) (t : InstanceTable κ α) (what : String)
    (defect? : α → Option Defect) : s.instanceDefect? t what defect? =
      (t.listed s.names).findSome? fun e => (defect? e.2).map (.inside s!"{what} `{e.1}`") := by
  rw [instanceDefect?, InstanceTable.listed, List.findSome?_map]
  rfl

section

variable {α : Type} {t : InstanceTable κ α} {what : String} {defect? : α → Option Defect}

theorem instanceDefect?_eq_none_iff_entry (space : Namespace) :
    s.instanceDefect? t what defect? = none ↔
      ∀ id a, Named.value <$> instanceEntry t space id = .ok a → defect? a = none := by
  simp only [instanceDefect?_eq_none_iff, Arena.mem_values_iff, value_eq_ok_iff]
  constructor
  · rintro h id a ⟨symbol, he⟩
    exact h ⟨symbol, a⟩ ⟨id, he⟩
  · rintro h ⟨symbol, a⟩ ⟨id, he⟩
    exact h id a ⟨symbol, he⟩

theorem exists_first_of_instanceDefect? (ht : t.Consistent s.names) (space : Namespace) {d : Defect}
    (h : s.instanceDefect? t what defect? = some d) : ∃ id name a d',
      Named.value <$> instanceEntry t space id = .ok a ∧
      (do s.nameOf (← instanceEntry t space id).symbol) = .ok name ∧ defect? a = some d' ∧
      d = .inside s!"{what} `{name}`" d' ∧ ∀ (id' : Handle κ) a', id'.raw < id.raw →
        Named.value <$> instanceEntry t space id' = .ok a' → defect? a' = none := by
  rw [instanceDefect?_eq_listed] at h
  obtain ⟨id, ⟨name, a⟩, hrow, hd, hfirst⟩ := Ledger.exists_first (κ := κ) h
  obtain ⟨d', hd', rfl⟩ := Option.map_eq_some_iff.1 hd
  refine ⟨id, name, a, d', ?_, ?_, hd', rfl, fun id' a' hlt ha => ?_⟩
  · rw [value_eq_found s.names, hrow]
    rfl
  · rw [name_eq_found ht, hrow]
    rfl
  · rw [value_eq_found s.names, Ledger.found_eq_ok_iff] at ha
    obtain ⟨e, he, rfl⟩ := Option.map_eq_some_iff.1 ha
    exact Option.map_eq_none_iff.1 (hfirst id' e hlt he)

end

inductive FirstFault (s : Schematic) : Fault → Prop
  | node {id : NodeId} {n : Node} {name message : String} (hn : s.nodeById id = .ok n)
    (hname : s.nodeName id = .ok name)
    (hd : Defect.check n.defect? = .error (.verification message))
    (hfirst : ∀ id' n', id'.raw < id.raw → s.nodeById id' = .ok n' → (Value.node n').Coherent) :
    FirstFault s (.located "node" name message)
  | constraint {id : ConstraintId} {k : Constraint} {name message : String}
    (hnodes : ∀ id n, s.nodeById id = .ok n → (Value.node n).Coherent)
    (hk : s.constraintById id = .ok k) (hname : s.constraintName id = .ok name)
    (hd : Defect.check k.defect? = .error (.verification message))
    (hfirst : ∀ id' k', id'.raw < id.raw → s.constraintById id' = .ok k' →
      (Value.constraint k').Coherent) :
    FirstFault s (.located "constraint" name message)

theorem Built.coherent_connection (h : s.Built) {id : ConnectionId} {k : Connection}
    (hk : s.connectionById id = .ok k) : (Value.connection k).Coherent := by
  have hverified := (h.intact.connections id k hk).verified
  exact (Value.defect?_eq_none_iff_coherent _).1 (Defect.check_eq_ok_iff.1 hverified)

theorem Built.defect?_eq (h : s.Built) : s.defect? =
    (s.instanceDefect? s.nodes "node" Node.defect?).or
      (s.instanceDefect? s.constraints "constraint" Constraint.defect?) := by
  have hconnections : s.instanceDefect? s.connections "connection" Connection.defect? = none := by
    refine (instanceDefect?_eq_none_iff_entry .connection).2 fun id k hk => ?_
    exact (Value.defect?_eq_none_iff_coherent (.connection k)).2 (h.coherent_connection hk)
  rw [defect?, hconnections, Option.or_none]

theorem nodes_coherent_iff : s.instanceDefect? s.nodes "node" Node.defect? = none ↔
    ∀ id n, s.nodeById id = .ok n → (Value.node n).Coherent :=
  (instanceDefect?_eq_none_iff_entry .node).trans
    (forall₃_congr fun _ n _ => Value.defect?_eq_none_iff_coherent (.node n))

theorem constraints_coherent_iff :
    s.instanceDefect? s.constraints "constraint" Constraint.defect? = none ↔
      ∀ id k, s.constraintById id = .ok k → (Value.constraint k).Coherent :=
  (instanceDefect?_eq_none_iff_entry .constraint).trans
    (forall₃_congr fun _ k _ => Value.defect?_eq_none_iff_coherent (.constraint k))

theorem Built.verify_eq_ok_iff_coherent (h : s.Built) : s.verify = .ok () ↔
    (∀ id n, s.nodeById id = .ok n → (Value.node n).Coherent) ∧
      ∀ id k, s.constraintById id = .ok k → (Value.constraint k).Coherent := by
  rw [verify, Defect.check_eq_ok_iff, h.defect?_eq, Option.or_eq_none_iff, nodes_coherent_iff,
    constraints_coherent_iff]

theorem Built.firstFault_of_verify (h : s.Built) {f : Fault} (hf : s.verify = .error f) :
    s.FirstFault f := by
  obtain ⟨d, hd, rfl⟩ := Defect.check_eq_error_iff.1 hf
  rw [h.defect?_eq, Option.or_eq_some_iff] at hd
  obtain hd | ⟨hnodes, hd⟩ := hd
  · obtain ⟨id, name, n, d', hn, hname, hd', rfl, hfirst⟩ :=
      exists_first_of_instanceDefect? h.consistent.nodes .node hd
    rw [Defect.message_inside]
    exact .node hn hname (Defect.check_eq_error_iff.2 ⟨d', hd', rfl⟩) fun id' n' hlt hn' =>
      (Value.defect?_eq_none_iff_coherent (.node n')).1 (hfirst id' n' hlt hn')
  · obtain ⟨id, name, k, d', hk, hname, hd', rfl, hfirst⟩ :=
      exists_first_of_instanceDefect? h.consistent.constraints .constraint hd
    rw [Defect.message_inside]
    exact .constraint (nodes_coherent_iff.1 hnodes) hk hname
      (Defect.check_eq_error_iff.2 ⟨d', hd', rfl⟩) fun id' k' hlt hk' =>
        (Value.defect?_eq_none_iff_coherent (.constraint k')).1 (hfirst id' k' hlt hk')

/--
A value passes its own check exactly when it is coherent, and fails it with a fault of verification
only. A schematic passes exactly when all its instances are coherent, of which the connections always
are, as the types are; otherwise the fault names the first node at fault or, without such a node, the
first constraint.
-/
theorem Reachable.verify_finds_first (h : s.Reachable) :
    (∀ v : Value, Defect.check v.defect? = .ok () ↔ v.Coherent) ∧
    (∀ (v : Value) f, Defect.check v.defect? = .error f → ∃ message, f = .verification message) ∧
    (s.verify = .ok () ↔ (∀ id n, s.nodeById id = .ok n → (Value.node n).Coherent) ∧
      ∀ id k, s.constraintById id = .ok k → (Value.constraint k).Coherent) ∧
    (∀ id k, s.connectionById id = .ok k → (Value.connection k).Coherent) ∧
    (∀ id d, s.typeDefinition id = .ok d → (Value.type d).Coherent) ∧
    ∀ f, s.verify = .error f → s.FirstFault f := by
  have hvalue (v : Value) : Defect.check v.defect? = .ok () ↔ v.Coherent :=
    Defect.check_eq_ok_iff.trans (Value.defect?_eq_none_iff_coherent v)
  refine ⟨hvalue, fun v f hf => ?_, h.built.verify_eq_ok_iff_coherent,
    fun _ _ => h.built.coherent_connection, fun _ d _ => (hvalue (.type d)).1 rfl,
    fun _ => h.built.firstFault_of_verify⟩
  obtain ⟨d, -, rfl⟩ := Defect.check_eq_error_iff.1 hf
  exact ⟨d.message, rfl⟩

def racks : Schematic :=
  (new "racks").run
    [.userDefinedType "Row" (.array BaseType.int),
      .nodeType "Rack" { attributes := .ofList [("levels", ⟨5⟩)] },
      .constraintType "Limit" { attributes := .ofList [("steps", ⟨5⟩)] },
      .constraint "height" ⟨⟨7⟩, .ofList [("steps", .array ⟨5⟩ BaseType.int [.string "low"])]⟩,
      .node "a" ⟨⟨6⟩, .ofList [("levels", .array ⟨5⟩ BaseType.int [.int 4])], ∅⟩,
      .node "b" ⟨⟨6⟩, .ofList [("levels", .array ⟨5⟩ BaseType.int [.int 4, .string "high"])], ∅⟩]

theorem verify_finds_first_racks : racks.Reachable ∧
    racks.FirstFault (.located "node" "b"
      "node attribute `levels`: array element [1] has type #3, expected #2") ∧
    ¬(Value.array ⟨5⟩ BaseType.int [.int 4, .string "high"]).Coherent := by
  have h : racks.Reachable := ⟨_, _, rfl⟩
  obtain ⟨hvalue, -, -, -, -, hfirst⟩ := Reachable.verify_finds_first h
  exact ⟨h, hfirst _ rfl, fun hv => nomatch (hvalue _).2 hv⟩

end Schematic

end Schematics

import Schematics.Proofs.Contradictions

namespace Schematics

inductive Operation : Type → Type 1 where
  | query {α : Type} (q : Query α) : Operation α
  | register (r : Registration) : Operation (Issued × Schematic)
  | supertypeChain (id : TypeId) : Operation (List TypeId)
  | effectiveAttributes (id : TypeId) : Operation (NameMap TypeId)
  | effectivePorts (id : TypeId) : Operation (NameMap TypeId)
  | describe (id : TypeId) : Operation String
  | resolvePort (r : PortRef) : Operation Port
  | resolveEndpoint (text : String) (delimiter : Char) : Operation PortRef
  | readValue (expected : Option TypeId) (name : String) (raw : Json) : Operation Value
  | verify : Operation Unit

def Schematic.perform {α : Type} (s : Schematic) : Operation α → Except Fault α
  | .query q => s.ask q
  | .register r => s.register r
  | .supertypeChain id => s.supertypeChain id
  | .effectiveAttributes id => s.effectiveAttributes id
  | .effectivePorts id => s.effectivePorts id
  | .describe id => .ok (s.describe id)
  | .resolvePort r => s.resolvePort r
  | .resolveEndpoint text delimiter => s.resolveEndpoint text delimiter
  | .readValue expected name raw => AttributeValue.readDeclared s expected name raw
  | .verify => s.verify

inductive Json.Unsupported : Json → Prop where
  | null : Unsupported .null
  | object (fields : List (String × Json)) : Unsupported (.object fields)
  | item {items : List Json} {j : Json} (hj : j ∈ items) (h : j.Unsupported) :
    Unsupported (.array items)

def Operation.ReadsUnsupported {α : Type} : Operation α → Prop
  | .readValue _ _ raw => raw.Unsupported
  | _ => False

def Fault.OfValue (unsupported : Prop) : Fault → Prop
  | .undeclared _ _ | .malformed _ | .undeclaredAttribute _ | .invalidValue _ _ _ => True
  | .internal _ => unsupported
  | .typeMismatch _ _ _ | .multipleDefinition _ | .multipleAssignment _ _ | .supertypeCycle _
  | .verification _ => False

theorem Fault.OfValue.mono {p q : Prop} (h : p → q) {f : Fault} (hf : f.OfValue p) :
    f.OfValue q := by
  cases f with
  | internal message => exact h hf
  | _ => exact hf

theorem Resolves.ofValue {α : Type} {p : Prop} {x : Except Fault α} (h : Resolves x) :
    FailsOnly (Fault.OfValue p) x := by
  refine h.mono fun f hf => ?_
  cases f with
  | undeclared _ _ | malformed _ => trivial
  | _ => cases hf

namespace AttributeValue

theorem readScalar_failsOnly {p : Prop} (shape : Shape) (name text : String) :
    FailsOnly (Fault.OfValue p) (readScalar shape name text) := by
  unfold readScalar
  split
  · split
    · exact .ok _
    · split
      · exact .ok _
      · exact .error trivial
  · split
    · exact .ok _
    · exact .error trivial
  · exact .ok _
  · split
    · exact .ok _
    · exact .error trivial
  · exact .error trivial

mutual

theorem read_failsOnly (s : Schematic) (raw : Json) (expected : TypeId) (name : String) :
    FailsOnly (Fault.OfValue raw.Unsupported) (read s expected name raw) := by
  rw [read]
  apply FailsOnly.bind (Schematic.resolves_typeDefinition expected).ofValue
  intro d _
  cases raw with
  | null => exact .error .null
  | object fields => exact .error (.object fields)
  | array items =>
    cases he : d.shape.element? with
    | none => exact .error trivial
    | some element =>
      have hitems := readItems_failsOnly s items element name 0
      exact .map _ (hitems.mono fun _ => .mono fun ⟨_, hj, hu⟩ => .item hj hu)
  | string _ | int _ | real _ | bool _ => exact readScalar_failsOnly d.shape name _

theorem readItems_failsOnly (s : Schematic) (items : List Json) (element : TypeId) (name : String)
    (index : Nat) : FailsOnly (Fault.OfValue (∃ j ∈ items, j.Unsupported))
      (readItems s element name index items) := by
  cases items with
  | nil => exact .ok _
  | cons raw rest =>
    have hraw := read_failsOnly s raw element s!"{name}[{index}]"
    have hrest := readItems_failsOnly s rest element name (index + 1)
    rw [readItems]
    refine .bind (hraw.mono fun _ => .mono fun hu => ⟨raw, List.mem_cons_self, hu⟩) fun v _ =>
      .bind (hrest.mono fun _ => .mono ?_) fun _ _ => .ok _
    rintro ⟨j, hj, hu⟩
    exact ⟨j, List.mem_cons_of_mem _ hj, hu⟩

end

theorem read_contradiction {s : Schematic} {raw : Json} {expected : TypeId} {name : String}
    {f : Fault} (hf : read s expected name raw = .error f) (hc : f.isContradiction = true) :
    (∃ message, f = .internal message) ∧ raw.Unsupported := by
  have hvalue := read_failsOnly s raw expected name f hf
  cases f with
  | internal message => exact ⟨⟨message, rfl⟩, hvalue⟩
  | supertypeCycle name => exact hvalue.elim
  | _ => cases hc

end AttributeValue

namespace Schematic

variable {s : Schematic}

theorem Reachable.perform_contradiction {α : Type} (h : s.Reachable) (o : Operation α) {f : Fault}
    (hf : s.perform o = .error f) (hc : f.isContradiction = true) :
    (∃ message, f = .internal message) ∧ o.ReadsUnsupported := by
  have hg := h.built.grounded
  have hs := h.built.consistent
  have hsound {β : Type} {x : Except Fault β} (hx : Sound x) (hf : x = .error f) : False := by
    simp [hx f hf] at hc
  cases o with
  | query q => exact (hsound (hs.resolves_ask q).sound hf).elim
  | register r => exact (hsound (hg.sound_register r) hf).elim
  | supertypeChain id => exact (hsound (.map _ (hg.resolves_lineage id).sound) hf).elim
  | effectiveAttributes id => exact (hsound (hg.resolves_effectiveAttributes id).sound hf).elim
  | effectivePorts id => exact (hsound (hg.resolves_effectivePorts id).sound hf).elim
  | describe id => exact nomatch hf
  | resolvePort r => exact (hsound (resolves_resolvePort r).sound hf).elim
  | resolveEndpoint text delimiter =>
    exact (hsound (hs.resolves_resolveEndpoint text delimiter).sound hf).elim
  | readValue expected name raw =>
    cases expected with
    | none => exact (hsound (x := .error (.undeclaredAttribute name)) (.error rfl) hf).elim
    | some t => exact AttributeValue.read_contradiction hf hc
  | verify => exact (hsound (sound_defectCheck _) hf).elim

theorem Grounded.supertypeChain_eq (h : s.Grounded) {id : TypeId} {d : TypeDef}
    (hd : s.type? id = some d) : s.supertypeChain id =
      (id :: ·) <$> d.shape.supertype.elim (.ok []) s.supertypeChain := by
  rw [supertypeChain, h.lineage_eq hd]
  cases d.shape.supertype with
  | none => rfl
  | some parent =>
    simp only [Option.elim_some, supertypeChain]
    cases s.lineage parent <;> rfl

/--
Types are well-founded: what a type mentions is registered under a smaller handle and in the
category of its place. So the chain of each type ends, descending strictly; what each type inherits
can be told; and no operation meets a cycle of supertypes, or an internal failure but where the value
that is to be read is one that no type has.
-/
theorem types_wellFounded (h : s.Reachable) :
    (∀ id d, s.typeDefinition id = .ok d →
      (∀ t c, d.shape.Mentions t c →
        t.raw < id.raw ∧ ∃ d', s.typeDefinition t = .ok d' ∧ d'.category = c) ∧
      (∃ above, s.supertypeChain id = .ok (id :: above) ∧
        d.shape.supertype.elim (.ok []) s.supertypeChain = .ok above ∧
        (id :: above).Pairwise (fun a b => b.raw < a.raw) ∧ (id :: above).Nodup) ∧
      (∃ attributes, s.effectiveAttributes id = .ok attributes) ∧
      (d.category = .node → ∃ ports, s.effectivePorts id = .ok ports)) ∧
    ∀ {α : Type} (o : Operation α) (f : Fault), s.perform o = .error f →
      (∀ name, f ≠ .supertypeCycle name) ∧
        ((∃ message, f = .internal message) → o.ReadsUnsupported) := by
  have hg := h.built.grounded
  refine ⟨fun id d hd => ?_, fun o f hf => ⟨fun name hn => ?_, fun ⟨message, hm⟩ => ?_⟩⟩
  · have hd' := typeDefinition_eq_ok_iff.1 hd
    refine ⟨fun t c hm => ?_, ?_, hg.exists_effectiveAttributes hd', hg.exists_effectivePorts hd'⟩
    · obtain ⟨hlt, e, he, hc⟩ := hg id d hd' t c hm
      exact ⟨hlt, e, typeDefinition_of_type? he, hc⟩
    · obtain ⟨line, hline⟩ := hg.exists_above hd'
      have hchain : s.supertypeChain id = .ok (id :: line.map Prod.fst) := by
        rw [supertypeChain, hline.lineage]
        rfl
      have hdescend : (id :: line.map Prod.fst).Pairwise fun a b => b.raw < a.raw := by
        refine List.pairwise_cons.2 ⟨?_, List.pairwise_map.2 hline.descending⟩
        exact List.forall_mem_map.2 hline.smaller
      refine ⟨_, hchain, ?_, hdescend, hdescend.imp fun hlt heq => ?_⟩
      · rw [hg.supertypeChain_eq hd', map_eq_ok_iff] at hchain
        obtain ⟨rest, hrest, heq⟩ := hchain
        rw [hrest, (List.cons.inj heq).2]
      · rw [heq] at hlt
        exact Nat.lt_irrefl _ hlt
  · obtain ⟨⟨message, hm⟩, -⟩ := h.perform_contradiction o hf (by rw [hn]; rfl)
    rw [hn] at hm
    exact nomatch hm
  · exact (h.perform_contradiction o hf (by rw [hm]; rfl)).2

def heaters : Schematic :=
  (new "heaters").run
    [.userDefinedType "Curve" (.array BaseType.real),
      .portType "Fluid" { attributes := .ofList [("curve", ⟨5⟩)] },
      .portType "HotFluid" { supertype := some ⟨6⟩ },
      .nodeType "Pump" { ports := .ofList [("out", ⟨7⟩)] },
      .nodeType "Pump" { ports := .ofList [("in", ⟨6⟩)] },
      .nodeType "Heater" { supertype := some ⟨8⟩ }]

theorem types_wellFounded_heaters : heaters.Reachable ∧
    heaters.typeDefinition ⟨9⟩ = .ok ⟨some ⟨9⟩, .node { supertype := some ⟨8⟩ }⟩ ∧
    (∃ above, heaters.supertypeChain ⟨9⟩ = .ok (⟨9⟩ :: above) ∧ above ≠ []) ∧
    (∃ ports, heaters.effectivePorts ⟨9⟩ = .ok ports) ∧
    heaters.perform (.readValue (some ⟨5⟩) "curve" (.array [.null])) =
      .error (.internal "unsupported value shape for attribute `curve[0]`: null") ∧
    (Operation.readValue (some ⟨5⟩) "curve" (.array [.null])).ReadsUnsupported := by
  have h : heaters.Reachable := ⟨_, _, rfl⟩
  have hd : heaters.typeDefinition ⟨9⟩ = .ok ⟨some ⟨9⟩, .node { supertype := some ⟨8⟩ }⟩ := rfl
  have hread : heaters.perform (.readValue (some ⟨5⟩) "curve" (.array [.null])) =
      .error (.internal "unsupported value shape for attribute `curve[0]`: null") := rfl
  obtain ⟨-, ⟨above, hchain, hrest, -⟩, -, hports⟩ := (types_wellFounded h).1 _ _ hd
  refine ⟨h, hd, ⟨above, hchain, ?_⟩, hports rfl, hread,
    ((types_wellFounded h).2 _ _ hread).2 ⟨_, rfl⟩⟩
  rintro rfl
  exact nomatch hrest

end Schematic

end Schematics

import Schematics.Proofs.Operations

/-!
A schematic that is changed in place, step by step, where a failure leaves it as it is by then. Every
check of a registration stands before its first change, so that a refused registration leaves no
trace in a history of operations.
-/

namespace Schematics

variable {α : Type}

abbrev Edit := EStateM Fault Schematic

namespace Edit

def consult (f : Schematic → Except Fault α) : Edit α := fun s =>
  match f s with
  | .ok a => .ok a s
  | .error e => .error e s

def intern (name : String) : Edit Symbol :=
  modifyGet fun s => ((s.names.intern name).1, { s with names := (s.names.intern name).2 })

def storeType (symbol : Symbol) (shape : Shape) : Edit TypeId :=
  modifyGet fun s =>
    (s.types.next, { s with types := s.types.alloc ⟨symbol, ⟨some s.types.next, shape⟩⟩ })

def indexName (symbol : Symbol) (id : TypeId) : Edit Unit :=
  modify fun s => { s with typeNames := s.typeNames.insert symbol id }

def indexCategory (c : Category) (symbol : Symbol) (id : TypeId) : Edit Unit :=
  modify fun s => { s with categories := s.categories.insert c symbol id }

def storeNode (symbol : Symbol) (n : Node) : Edit NodeId :=
  modifyGet fun s => (s.nodes.items.next, { s with nodes := s.nodes.insert symbol n })

def storeConnection (symbol : Symbol) (k : Connection) : Edit ConnectionId :=
  modifyGet fun s =>
    (s.connections.items.next, { s with connections := s.connections.insert symbol k })

def storeConstraint (symbol : Symbol) (k : Constraint) : Edit ConstraintId :=
  modifyGet fun s =>
    (s.constraints.items.next, { s with constraints := s.constraints.insert symbol k })

def addType (name : String) (shape : Shape) : Edit TypeId := do
  consult (·.checkType name shape)
  let symbol ← intern name
  let id ← storeType symbol shape
  indexName symbol id
  indexCategory shape.category symbol id
  pure id

def addUserDefinedType (name : String) (shape : Shape) : Edit TypeId :=
  if shape.category = .userDefined then addType name shape
  else
    throw (.typeMismatch s!"user-defined type `{name}`" "scalar or array type"
      shape.category.text)

def addNode (name : String) (n : Node) : Edit NodeId := do
  consult (·.checkNode name n)
  storeNode (← intern name) n

def addConnection (name : String) (k : Connection) : Edit ConnectionId := do
  consult (·.checkConnection name k)
  storeConnection (← intern name) k

def addConstraint (name : String) (k : Constraint) : Edit ConstraintId := do
  consult (·.checkConstraint name k)
  storeConstraint (← intern name) k

def issued (κ : Kind) (id : Handle κ) : Issued := ⟨κ, id⟩

def register : Registration → Edit Issued
  | .userDefinedType name shape => issued .type <$> addUserDefinedType name shape
  | .portType name g => issued .type <$> addType name (.port g)
  | .nodeType name g => issued .type <$> addType name (.node g)
  | .connectionType name g => issued .type <$> addType name (.connection g)
  | .constraintType name g => issued .type <$> addType name (.constraint g)
  | .node name n => issued .node <$> addNode name n
  | .connection name k => issued .connection <$> addConnection name k
  | .constraint name k => issued .constraint <$> addConstraint name k

def perform : Operation α → Edit α
  | .register r => do
    let id ← register r
    pure (id, ← get)
  | o => consult (·.perform o)

def allOrNone (s : Schematic) :
    Except Fault (α × Schematic) → EStateM.Result Fault Schematic α
  | .ok (a, s') => .ok a s'
  | .error e => .error e s

theorem consult_bind (f : Schematic → Except Fault Unit) (x : Edit α) (s : Schematic) :
    (consult f >>= fun _ => x) s = (f s).casesOn (fun e => .error e s) (fun _ => x s) := by
  simp only [bind, EStateM.bind, consult]
  cases f s <;> rfl

theorem addType_eq (s : Schematic) (name : String) (shape : Shape) :
    addType name shape s = allOrNone s (s.addType name shape) := by
  rw [addType, Schematic.addType, consult_bind]
  cases s.checkType name shape <;> rfl

theorem addUserDefinedType_eq (s : Schematic) (name : String) (shape : Shape) :
    addUserDefinedType name shape s = allOrNone s (s.addUserDefinedType name shape) := by
  unfold addUserDefinedType Schematic.addUserDefinedType
  by_cases h : shape.category = .userDefined
  · rw [if_pos h, if_pos h]
    exact addType_eq s name shape
  · rw [if_neg h, if_neg h]
    rfl

theorem addNode_eq (s : Schematic) (name : String) (n : Node) :
    addNode name n s = allOrNone s (s.addNode name n) := by
  rw [addNode, Schematic.addNode, consult_bind]
  cases s.checkNode name n <;> rfl

theorem addConnection_eq (s : Schematic) (name : String) (k : Connection) :
    addConnection name k s = allOrNone s (s.addConnection name k) := by
  rw [addConnection, Schematic.addConnection, consult_bind]
  cases s.checkConnection name k <;> rfl

theorem addConstraint_eq (s : Schematic) (name : String) (k : Constraint) :
    addConstraint name k s = allOrNone s (s.addConstraint name k) := by
  rw [addConstraint, Schematic.addConstraint, consult_bind]
  cases s.checkConstraint name k <;> rfl

theorem issued_eq {κ : Kind} {x : Edit (Handle κ)} {s : Schematic}
    {y : Except Fault (Handle κ × Schematic)} (h : x s = allOrNone s y) :
    (issued κ <$> x) s = allOrNone s (Schematic.issued κ <$> y) := by
  simp only [Functor.map, EStateM.map, h]
  cases y <;> rfl

theorem register_eq (s : Schematic) (r : Registration) :
    register r s = allOrNone s (s.register r) := by
  cases r with
  | userDefinedType name shape => exact issued_eq (addUserDefinedType_eq s name shape)
  | portType name g => exact issued_eq (addType_eq s name (.port g))
  | nodeType name g => exact issued_eq (addType_eq s name (.node g))
  | connectionType name g => exact issued_eq (addType_eq s name (.connection g))
  | constraintType name g => exact issued_eq (addType_eq s name (.constraint g))
  | node name n => exact issued_eq (addNode_eq s name n)
  | connection name k => exact issued_eq (addConnection_eq s name k)
  | constraint name k => exact issued_eq (addConstraint_eq s name k)

end Edit

abbrev Call := (α : Type) × Operation α

structure Exchange where
  call : Call
  answer : Except Fault call.1

def Exchange.isRefusal : Exchange → Bool
  | ⟨⟨_, .register _⟩, .error _⟩ => true
  | _ => false

namespace Schematic

def carryOut (s : Schematic) (o : Operation α) : Except Fault α × Schematic :=
  match Edit.perform o s with
  | .ok a s' => (.ok a, s')
  | .error e s' => (.error e, s')

def transcript (s : Schematic) : List Call → List Exchange
  | [] => []
  | c :: rest => ⟨c, (s.carryOut c.2).1⟩ :: (s.carryOut c.2).2.transcript rest

def afterAll (s : Schematic) (calls : List Call) : Schematic :=
  calls.foldl (fun s c => (s.carryOut c.2).2) s

def after (s : Schematic) : Operation α → Schematic
  | .register r => s.attempt r
  | _ => s

variable {s : Schematic}

theorem carryOut_of_consult {o : Operation α} (h : Edit.perform o = Edit.consult (·.perform o)) :
    s.carryOut o = (s.perform o, s) := by
  rw [carryOut, h, Edit.consult]
  cases s.perform o <;> rfl

theorem carryOut_eq (s : Schematic) (o : Operation α) : s.carryOut o = (s.perform o, s.after o) := by
  cases o with
  | register r =>
    have hrun : Edit.perform (.register r) s =
        Edit.allOrNone s ((fun done => (done, done.2)) <$> s.register r) := by
      simp only [Edit.perform, bind, EStateM.bind, Edit.register_eq]
      cases s.register r <;> rfl
    rw [carryOut, hrun, perform, after, attempt]
    cases s.register r <;> rfl
  | query _ | supertypeChain _ | effectiveAttributes _ | effectivePorts _ | describe _
  | resolvePort _ | resolveEndpoint _ _ | readValue _ _ _ | verify => exact carryOut_of_consult rfl

theorem after_of_refusal {c : Call}
    (h : (⟨c, (s.carryOut c.2).1⟩ : Exchange).isRefusal = true) : (s.carryOut c.2).2 = s := by
  obtain ⟨_, o⟩ := c
  rw [carryOut_eq] at h ⊢
  cases o with
  | register r =>
    simp only [perform, after, attempt] at h ⊢
    cases hr : s.register r with
    | error f => rfl
    | ok done =>
      rw [hr] at h
      exact absurd h Bool.false_ne_true
  | query _ | supertypeChain _ | effectiveAttributes _ | effectivePorts _ | describe _
  | resolvePort _ | resolveEndpoint _ _ | readValue _ _ _ | verify => rfl

/--
Carried out in place, an operation gives the answer that it has and makes the schematic that it
makes. So a history without its refused registrations has the same answers, handles among them, and
ends with the same schematic.
-/
theorem refusals_leave_no_trace (s : Schematic) (calls : List Call) :
    (∀ {α : Type} (o : Operation α), s.carryOut o = (s.perform o, s.after o)) ∧
    let kept := (s.transcript calls).filter fun e => !e.isRefusal
    s.transcript (kept.map Exchange.call) = kept ∧
      s.afterAll (kept.map Exchange.call) = s.afterAll calls := by
  refine ⟨s.carryOut_eq, ?_⟩
  induction calls generalizing s with
  | nil => exact ⟨rfl, rfl⟩
  | cons c rest ih =>
    have hrest := ih (s.carryOut c.2).2
    by_cases h : (⟨c, (s.carryOut c.2).1⟩ : Exchange).isRefusal = true
    · rw [after_of_refusal h] at hrest
      simpa [transcript, afterAll, h, after_of_refusal h] using hrest
    · simpa [transcript, afterAll, h] using hrest

end Schematic

end Schematics

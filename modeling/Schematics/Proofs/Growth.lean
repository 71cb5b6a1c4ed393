import Schematics.Proofs.TypeOrder

/-!
What is registered stays as it was. A later schematic has the same types and nodes under their
handles, so that what was found by climbing from a registered type is found again.
-/

namespace Schematics

namespace Schematic

variable {κ : Kind} {α : Type} {s s' : Schematic}

theorem value_eq_ok_iff {t : InstanceTable κ α} {space : Namespace} {id : Handle κ} {a : α} :
    Named.value <$> instanceEntry t space id = .ok a ↔
      ∃ symbol, t.items.get? id = some ⟨symbol, a⟩ := by
  rw [map_eq_ok_iff]
  unfold instanceEntry
  cases t.items.get? id with
  | none => simp
  | some e =>
    obtain ⟨symbol, b⟩ := e
    simp

theorem value_insert_eq_ok_iff {t : InstanceTable κ α} {space : Namespace} {symbol : Symbol}
    {id : Handle κ} {a b : α} : Named.value <$> instanceEntry (t.insert symbol b) space id = .ok a ↔
      Named.value <$> instanceEntry t space id = .ok a ∨ (id = t.items.next ∧ a = b) := by
  have halloc (other : Symbol) : (t.insert symbol b).items.get? id = some ⟨other, a⟩ ↔
      t.items.get? id = some ⟨other, a⟩ ∨ (id = t.items.next ∧ (⟨other, a⟩ : Named α) = ⟨symbol, b⟩) :=
    Arena.get?_alloc_eq_some_iff
  simp only [value_eq_ok_iff, halloc, Named.mk.injEq]
  constructor
  · rintro ⟨other, h | ⟨hid, -, ha⟩⟩
    · exact .inl ⟨other, h⟩
    · exact .inr ⟨hid, ha⟩
  · rintro (⟨other, h⟩ | ⟨hid, ha⟩)
    · exact ⟨other, .inl h⟩
    · exact ⟨symbol, .inr ⟨hid, rfl, ha⟩⟩

structure KeepsTypes (s s' : Schematic) : Prop where
  types : ∀ id d, s.type? id = some d → s'.type? id = some d

structure Grows (s s' : Schematic) : Prop extends KeepsTypes s s' where
  nodes : ∀ id n, s.nodeById id = .ok n → s'.nodeById id = .ok n

theorem grows_record (s : Schematic) (i : Item) : s.Grows (s.record i) := by
  cases i with
  | type name shape =>
    refine ⟨⟨fun id d hd => ?_⟩, fun id n hn => hn⟩
    exact type?_recordType.2 (.inl hd)
  | node name n =>
    refine ⟨⟨fun id d hd => hd⟩, fun id m hm => ?_⟩
    exact value_insert_eq_ok_iff.2 (.inl hm)
  | connection name k => exact ⟨⟨fun _ _ h => h⟩, fun _ _ h => h⟩
  | constraint name k => exact ⟨⟨fun _ _ h => h⟩, fun _ _ h => h⟩

theorem grows_refl (s : Schematic) : s.Grows s := ⟨⟨fun _ _ h => h⟩, fun _ _ h => h⟩

theorem Grows.trans {s'' : Schematic} (h : s.Grows s') (h' : s'.Grows s'') : s.Grows s'' :=
  ⟨⟨fun id d hd => h'.types id d (h.types id d hd)⟩, fun id n hn => h'.nodes id n (h.nodes id n hn)⟩

theorem grows_attempt (s : Schematic) (r : Registration) : s.Grows (s.attempt r) := by
  rw [attempt]
  split
  · next issued s' hr =>
    obtain ⟨-, -, -, rfl⟩ := register_eq_ok_iff.1 hr
    exact s.grows_record r.item
  · exact s.grows_refl

theorem grows_run (s : Schematic) (rs : List Registration) : s.Grows (s.run rs) := by
  induction rs generalizing s with
  | nil => exact s.grows_refl
  | cons r rest ih => exact (s.grows_attempt r).trans (ih (s.attempt r))

theorem exists_type?_of_lineage {id : TypeId} {line : List (TypeId × TypeDef)}
    (h : s.lineage id = .ok line) : ∃ d, s.type? id = some d := by
  obtain ⟨d, hd, -⟩ := bind_eq_ok_iff.1 h
  exact ⟨d, typeDefinition_eq_ok_iff.1 hd⟩

namespace KeepsTypes

theorem lineage (h : s.KeepsTypes s') (hs : s.Grounded) (hs' : s'.Grounded) {id : TypeId}
    {line : List (TypeId × TypeDef)} (hl : s.lineage id = .ok line) : s'.lineage id = .ok line := by
  obtain ⟨d, hd⟩ := exists_type?_of_lineage hl
  have hsame : s'.lineage id = s.lineage id := by
    refine hs.supertype_induction (p := fun id _ => s'.lineage id = s.lineage id) ?_ hd
    intro id d hd ih
    rw [hs.lineage_eq hd, hs'.lineage_eq (h.types id d hd)]
    cases hp : d.shape.supertype with
    | none => rfl
    | some parent =>
      obtain ⟨-, -, -, hparent⟩ := ih parent hp
      rw [Option.elim_some, Option.elim_some, hparent]
  rw [hsame, hl]

theorem effectiveAttributes (h : s.KeepsTypes s') (hs : s.Grounded) (hs' : s'.Grounded) {id : TypeId}
    {m : NameMap TypeId} (hm : s.effectiveAttributes id = .ok m) :
    s'.effectiveAttributes id = .ok m := by
  obtain ⟨line, hl, rfl⟩ := map_eq_ok_iff.1 hm
  exact map_eq_ok_iff.2 ⟨line, h.lineage hs hs' hl, rfl⟩

theorem effectivePorts (h : s.KeepsTypes s') (hs : s.Grounded) (hs' : s'.Grounded) {id : TypeId}
    {m : NameMap TypeId} (hm : s.effectivePorts id = .ok m) : s'.effectivePorts id = .ok m := by
  obtain ⟨line, hl, hports⟩ := bind_eq_ok_iff.1 hm
  exact bind_eq_ok_iff.2 ⟨line, h.lineage hs hs' hl, hports⟩

end KeepsTypes

theorem Grows.resolvePort (h : s.Grows s') {r : PortRef} {p : Port} (hp : s.resolvePort r = .ok p) :
    s'.resolvePort r = .ok p := by
  obtain ⟨n, hn, hport⟩ := bind_eq_ok_iff.1 hp
  exact bind_eq_ok_iff.2 ⟨n, h.nodes r.node n hn, hport⟩

end Schematic

end Schematics

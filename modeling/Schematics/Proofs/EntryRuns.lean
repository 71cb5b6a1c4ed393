import Schematics.Proofs.ConnectionEntries
import Schematics.Proofs.NodeEntries

namespace Schematics

variable {doc : Sections} {delimiter : Char} {earlier later : List Entry} {e : Entry}
  {s s' : Schematic}

def enter (delimiter : Char) (s : Schematic) (e : Entry) : Except Fault Schematic :=
  (Document.readBody delimiter s e.1 e.2.1 e.2.2).result

def Admitted (doc : Sections) (delimiter : Char) (done : List Entry) (e : Entry) : Prop :=
  Fresh done e ∧ doc.Proper delimiter (sectionsOf done e.1) e.2.2 e.1

theorem settled_of_lt {stage : Stage} {name : String} {body : Fields}
    (h : doc.inOrder = earlier ++ (stage, name, body) :: later) {c : Category}
    (hc : c ≠ .userDefined) (htypes : Stage.all.idxOf c.stage < Stage.all.idxOf stage) :
    Settled doc earlier c where
  extensible := hc
  userDefined := Sections.sectionsOf_eq_of_lt h (Nat.lt_of_le_of_lt (Nat.zero_le _) htypes)
  types := Sections.sectionsOf_eq_of_lt h htypes

namespace Mirrors

open Document

theorem accepts_iff (h : Mirrors doc delimiter earlier s) (hsplit : doc.inOrder = earlier ++ e :: later)
    (hb : (Json.object e.2.2).Distinct) :
    (∃ i, readItem delimiter s e.1 e.2.1 e.2.2 = .ok i ∧ s.check i = .ok ()) ↔
      Admitted doc delimiter earlier e := by
  obtain ⟨stage, name, body⟩ := e
  have hbefore {other : Stage} (hlt : Stage.all.idxOf other < Stage.all.idxOf stage) :
      sectionsOf earlier other = doc other := Sections.sectionsOf_eq_of_lt hsplit hlt
  cases stage with
  | userDefinedTypes =>
    exact h.accepts_type_iff (c := .userDefined) hb (fun hne => absurd rfl hne) nofun
  | portTypes => exact h.accepts_type_iff (c := .port) hb (fun _ => hbefore (by decide)) nofun
  | nodeTypes =>
    exact h.accepts_type_iff (c := .node) hb (fun _ => hbefore (by decide))
      fun _ => hbefore (by decide)
  | connectionTypes =>
    exact h.accepts_type_iff (c := .connection) hb (fun _ => hbefore (by decide)) nofun
  | constraintTypes =>
    exact h.accepts_type_iff (c := .constraint) hb (fun _ => hbefore (by decide)) nofun
  | nodes =>
    exact h.accepts_node_iff (settled_of_lt hsplit nofun (by decide))
      (settled_of_lt hsplit nofun (by decide)) hb
  | connections =>
    exact h.accepts_connection_iff (settled_of_lt hsplit nofun (by decide)) (hbefore (by decide)) hb
  | constraints => exact h.accepts_constraint_iff (settled_of_lt hsplit nofun (by decide)) hb

theorem spellsItem (h : Mirrors doc delimiter earlier s) (hsplit : doc.inOrder = earlier ++ e :: later)
    (hb : (Json.object e.2.2).Distinct) {i : Item}
    (hi : readItem delimiter s e.1 e.2.1 e.2.2 = .ok i) (hcheck : s.check i = .ok ()) :
    doc.SpellsItem delimiter e.1 e.2.1 e.2.2 i := by
  obtain ⟨stage, name, body⟩ := e
  have hbefore {other : Stage} (hlt : Stage.all.idxOf other < Stage.all.idxOf stage) :
      sectionsOf earlier other = doc other := Sections.sectionsOf_eq_of_lt hsplit hlt
  obtain ⟨c, rfl⟩ | rfl | rfl | rfl := stage.types_or_instances
  · exact h.spellsItem_of_type hb hi
  · exact h.spellsItem_of_node (settled_of_lt hsplit nofun (by decide))
      (settled_of_lt hsplit nofun (by decide)) hb hi
  · exact h.spellsItem_of_connection (settled_of_lt hsplit nofun (by decide))
      (hbefore (by decide)) hb hi hcheck
  · exact h.spellsItem_of_constraint (settled_of_lt hsplit nofun (by decide)) hb hi

theorem enter_succeeds_iff (h : Mirrors doc delimiter earlier s)
    (hsplit : doc.inOrder = earlier ++ e :: later) (hb : (Json.object e.2.2).Distinct) :
    (∃ s', enter delimiter s e = .ok s') ↔ Admitted doc delimiter earlier e := by
  rw [← h.accepts_iff hsplit hb]
  simp only [enter, readBody_eq_ok_iff]
  constructor
  · rintro ⟨_, i, hi, hcheck, -⟩
    exact ⟨i, hi, hcheck⟩
  · rintro ⟨i, hi, hcheck⟩
    exact ⟨_, i, hi, hcheck, rfl⟩

theorem enter (h : Mirrors doc delimiter earlier s) (hsplit : doc.inOrder = earlier ++ e :: later)
    (hb : (Json.object e.2.2).Distinct) (he : enter delimiter s e = .ok s') :
    Mirrors doc delimiter (earlier ++ [e]) s' := by
  obtain ⟨i, hi, hcheck, rfl⟩ := readBody_eq_ok_iff.1 he
  refine h.record ⟨later, ?_⟩ (h.spellsItem hsplit hb hi hcheck) hcheck
  rw [List.append_assoc, List.singleton_append]
  exact hsplit.symm

end Mirrors

theorem run_part (name : String) (hdoc : ∀ e ∈ doc.inOrder, (Json.object e.2.2).Distinct)
    (hsplit : doc.inOrder = earlier ++ later) :
    ((∃ s, earlier.foldlM (enter delimiter) (Schematic.new name) = .ok s) ↔
      ∀ before e after, earlier = before ++ e :: after → Admitted doc delimiter before e) ∧
    ∀ s, earlier.foldlM (enter delimiter) (Schematic.new name) = .ok s →
      Mirrors doc delimiter earlier s := by
  refine foldlM_run [] earlier (fun before e after s hpart h => ?_) (Mirrors.new doc delimiter name)
  rw [List.nil_append] at hpart
  rw [hpart, List.append_assoc] at hsplit
  have hb := hdoc e (hsplit ▸ List.mem_append_right _ List.mem_cons_self)
  exact ⟨h.enter_succeeds_iff hsplit hb, fun s' he => h.enter hsplit hb he⟩

theorem run_entries (name : String) (hdoc : ∀ e ∈ doc.inOrder, (Json.object e.2.2).Distinct) :
    ((∃ s, doc.inOrder.foldlM (enter delimiter) (Schematic.new name) = .ok s) ↔
      ∀ earlier e later, doc.inOrder = earlier ++ e :: later → Admitted doc delimiter earlier e) ∧
    ∀ s, doc.inOrder.foldlM (enter delimiter) (Schematic.new name) = .ok s →
      Mirrors doc delimiter doc.inOrder s := run_part name hdoc (List.append_nil _).symm

end Schematics

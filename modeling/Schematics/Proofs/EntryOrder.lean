import Mathlib.Data.List.Nodup
import Schematics.Proofs.Sections
import Schematics.Proofs.Success

namespace Schematics

abbrev Entry := Stage × String × Fields

namespace Sections

def inOrder (doc : Sections) : List Entry :=
  Stage.all.flatMap fun stage => (doc stage).map fun e => (stage, e)

end Sections

def sectionsOf (done : List Entry) : Sections := fun stage =>
  done.filterMap fun e => if e.1 = stage then some e.2 else none

def typesOf (done : List Entry) : List (Category × String × Fields) :=
  done.filterMap fun e => e.1.category?.map fun c => (c, e.2)

theorem Stage.mem_all (stage : Stage) : stage ∈ all := by
  cases stage <;> decide

variable {doc : Sections} {done : List Entry} {stage : Stage}

theorem sectionsOf_append (l l' : List Entry) (stage : Stage) :
    sectionsOf (l ++ l') stage = sectionsOf l stage ++ sectionsOf l' stage := List.filterMap_append

theorem typesOf_append (l l' : List Entry) : typesOf (l ++ l') = typesOf l ++ typesOf l' :=
  List.filterMap_append

theorem sectionsOf_map_self (stage : Stage) (entries : Entries) :
    sectionsOf (entries.map fun e => (stage, e)) stage = entries := by
  simp [sectionsOf, List.filterMap_map]

theorem sectionsOf_eq_nil (h : ∀ e ∈ done, e.1 ≠ stage) : sectionsOf done stage = [] := by
  apply List.filterMap_eq_nil_iff.2
  intro e he
  rw [if_neg (h e he)]

theorem sectionsOf_concat_self (done : List Entry) (stage : Stage) (e : String × Fields) :
    sectionsOf (done ++ [(stage, e)]) stage = sectionsOf done stage ++ [e] := by
  rw [sectionsOf_append]
  simp [sectionsOf]

theorem sectionsOf_concat_of_ne {other : Stage} (h : other ≠ stage) (done : List Entry)
    (e : String × Fields) : sectionsOf (done ++ [(other, e)]) stage = sectionsOf done stage := by
  have hother : sectionsOf [(other, e)] stage = [] := sectionsOf_eq_nil (by simpa using h)
  rw [sectionsOf_append, hother, List.append_nil]

theorem typesOf_concat_type {c : Category} (h : stage.category? = some c) (done : List Entry)
    (e : String × Fields) : typesOf (done ++ [(stage, e)]) = typesOf done ++ [(c, e)] := by
  rw [typesOf_append]
  simp [typesOf, h]

theorem typesOf_concat_instance (h : stage.category? = none) (done : List Entry)
    (e : String × Fields) : typesOf (done ++ [(stage, e)]) = typesOf done := by
  rw [typesOf_append]
  simp [typesOf, h]

theorem mem_sectionsOf {e : String × Fields} : e ∈ sectionsOf done stage ↔ (stage, e) ∈ done := by
  simp only [sectionsOf, List.mem_filterMap]
  constructor
  · rintro ⟨⟨other, d⟩, hd, he⟩
    by_cases hs : other = stage
    · rw [if_pos hs, Option.some.injEq] at he
      exact hs ▸ he ▸ hd
    · rw [if_neg hs] at he
      exact nomatch he
  · intro he
    exact ⟨(stage, e), he, if_pos rfl⟩

theorem mem_typesOf {c : Category} {e : String × Fields} :
    (c, e) ∈ typesOf done ↔ e ∈ sectionsOf done c.stage := by
  rw [mem_sectionsOf]
  simp only [typesOf, List.mem_filterMap, Option.map_eq_some_iff, Stage.category?_eq_some_iff,
    Prod.mk.injEq]
  constructor
  · rintro ⟨⟨_, _⟩, he, _, rfl, rfl, rfl⟩
    exact he
  · intro he
    exact ⟨_, he, c, rfl, rfl, rfl⟩

namespace Sections

theorem sectionsOf_inOrder (doc : Sections) : sectionsOf doc.inOrder = doc := by
  funext stage
  simp only [inOrder, Stage.all, List.flatMap_cons, List.flatMap_nil, sectionsOf_append]
  cases stage <;> simp [sectionsOf]

theorem typesOf_inOrder (doc : Sections) : typesOf doc.inOrder = doc.typeEntries := by
  simp [inOrder, typesOf, typeEntries, Stage.all, Category.all, List.filterMap_map,
    Stage.category?, Category.stage]

theorem mem_inOrder {e : Entry} : e ∈ doc.inOrder ↔ e.2 ∈ doc e.1 := by
  conv => rhs; rw [← sectionsOf_inOrder doc]
  rw [mem_sectionsOf]

theorem sectionsOf_eq_of_lt {earlier later : List Entry} {e : Entry}
    (h : doc.inOrder = earlier ++ e :: later) (hlt : Stage.all.idxOf stage < Stage.all.idxOf e.1) :
    sectionsOf earlier stage = doc stage := by
  have hsorted : doc.inOrder.Pairwise fun a b => Stage.all.idxOf a.1 ≤ Stage.all.idxOf b.1 := by
    rw [inOrder, List.pairwise_flatMap]
    refine ⟨fun a _ => List.pairwise_map.2 (List.pairwise_of_forall fun _ _ => Nat.le_refl _), ?_⟩
    have hstages : Stage.all.Pairwise fun a b => Stage.all.idxOf a ≤ Stage.all.idxOf b := by decide
    refine hstages.imp fun hab x hx y hy => ?_
    obtain ⟨_, -, rfl⟩ := List.mem_map.1 hx
    obtain ⟨_, -, rfl⟩ := List.mem_map.1 hy
    exact hab
  rw [h] at hsorted
  have hlater : sectionsOf (e :: later) stage = [] := by
    apply sectionsOf_eq_nil
    intro d hd hstage
    have hle : Stage.all.idxOf e.1 ≤ Stage.all.idxOf d.1 := by
      obtain rfl | hd := List.mem_cons.1 hd
      · exact Nat.le_refl _
      · exact (List.pairwise_cons.1 (List.pairwise_append.1 hsorted).2.1).1 d hd
    rw [hstage] at hle
    omega
  conv => rhs; rw [← sectionsOf_inOrder doc, h, sectionsOf_append, hlater, List.append_nil]

theorem sectionsOf_own {earlier later : List Entry} {e : Entry}
    (h : doc.inOrder = earlier ++ e :: later) :
    doc e.1 = sectionsOf earlier e.1 ++ e.2 :: sectionsOf later e.1 := by
  have hcons : sectionsOf (e :: later) e.1 = e.2 :: sectionsOf later e.1 :=
    List.filterMap_cons_some (if_pos rfl)
  conv => lhs; rw [← sectionsOf_inOrder doc, h, sectionsOf_append, hcons]

theorem exists_inOrder_eq {above below : Entries} {e : String × Fields}
    (h : doc stage = above ++ e :: below) : ∃ earlier later,
      doc.inOrder = earlier ++ (stage, e) :: later ∧ sectionsOf earlier stage = above := by
  obtain ⟨before, after, hall⟩ := List.append_of_mem stage.mem_all
  have hnodup : Stage.all.Nodup := by decide
  rw [hall] at hnodup
  have hbefore : stage ∉ before := fun hm =>
    (List.nodup_append.1 hnodup).2.2 stage hm stage List.mem_cons_self rfl
  refine ⟨(before.flatMap fun t => (doc t).map fun e => (t, e)) ++ above.map fun e => (stage, e),
    below.map (fun e => (stage, e)) ++ after.flatMap fun t => (doc t).map fun e => (t, e), ?_, ?_⟩
  · rw [inOrder, hall, List.flatMap_append, List.flatMap_cons, h]
    simp
  · rw [sectionsOf_append, sectionsOf_map_self, sectionsOf_eq_nil, List.nil_append]
    intro d hd
    obtain ⟨t, ht, hdt⟩ := List.mem_flatMap.1 hd
    obtain ⟨_, -, rfl⟩ := List.mem_map.1 hdt
    exact fun heq => hbefore (heq ▸ ht)

end Sections

section Runs

variable {α β σ ε : Type}

theorem forall_splits_cons {p : List α → α → Prop} {a : α} {rest : List α} :
    (∀ earlier b later, a :: rest = earlier ++ b :: later → p earlier b) ↔
      p [] a ∧ ∀ earlier b later, rest = earlier ++ b :: later → p (a :: earlier) b := by
  constructor
  · intro h
    refine ⟨h [] a rest rfl, ?_⟩
    intro earlier b later hsplit
    exact h (a :: earlier) b later (congrArg (a :: ·) hsplit)
  · rintro ⟨hfirst, hlater⟩ earlier b later hsplit
    cases earlier with
    | nil =>
      obtain ⟨rfl, -⟩ := List.cons.inj hsplit
      exact hfirst
    | cons a' earlier =>
      obtain ⟨rfl, htail⟩ := List.cons.inj hsplit
      exact hlater earlier b later htail

theorem nodup_append_filterMap_iff {start : List β} (hstart : start.Nodup) {l : List α}
    {f : α → Option β} : (start ++ l.filterMap f).Nodup ↔
      ∀ earlier a later, l = earlier ++ a :: later → ∀ b, f a = some b →
        b ∉ start ++ earlier.filterMap f := by
  induction l generalizing start with
  | nil => simp [hstart]
  | cons a rest ih =>
    rw [forall_splits_cons]
    cases hf : f a with
    | none =>
      simp only [List.filterMap_cons_none hf, ih hstart, reduceCtorEq, false_implies, implies_true,
        true_and]
    | some c =>
      simp only [List.filterMap_cons_some hf, List.filterMap_nil, List.append_nil,
        Option.some.injEq, forall_eq']
      by_cases hc : c ∈ start
      · rw [iff_false_right (fun h => h.1 hc)]
        exact fun h => (List.nodup_append.1 h).2.2 c hc c List.mem_cons_self rfl
      · have hnew : (start ++ [c]).Nodup := by
          rw [← List.concat_eq_append]
          exact hstart.concat hc
        have hrest := ih hnew
        simp only [List.append_assoc, List.singleton_append] at hrest
        rw [hrest, and_iff_right hc]

theorem foldlM_run {f : σ → α → Except ε σ} {admitted : List α → α → Prop}
    {invariant : List α → σ → Prop} (done rest : List α)
    (step : ∀ earlier a later s, done ++ rest = earlier ++ a :: later → invariant earlier s →
      ((∃ s', f s a = .ok s') ↔ admitted earlier a) ∧
        ∀ s', f s a = .ok s' → invariant (earlier ++ [a]) s')
    {s : σ} (hs : invariant done s) :
    ((∃ s', rest.foldlM f s = .ok s') ↔ ∀ earlier a later, rest = earlier ++ a :: later →
        admitted (done ++ earlier) a) ∧
      ∀ s', rest.foldlM f s = .ok s' → invariant (done ++ rest) s' := by
  induction rest generalizing done s with
  | nil =>
    refine ⟨by simp, ?_⟩
    intro s' h
    obtain rfl := Except.ok.inj h
    rwa [List.append_nil]
  | cons a rest ih =>
    obtain ⟨hadmitted, hkeep⟩ := step done a rest s rfl hs
    have hconcat (l : List α) : done ++ [a] ++ l = done ++ a :: l := by
      rw [List.append_assoc, List.singleton_append]
    have hnext (s' : σ) (h : f s a = .ok s') := ih (done ++ [a]) (by rwa [hconcat]) (hkeep s' h)
    simp only [hconcat] at hnext
    simp only [List.foldlM_cons, bind_eq_ok_iff, forall_splits_cons, List.append_nil, ← hadmitted]
    refine ⟨⟨?_, ?_⟩, ?_⟩
    · rintro ⟨s'', s', hs', hrest⟩
      exact ⟨⟨s', hs'⟩, (hnext s' hs').1.1 ⟨s'', hrest⟩⟩
    · rintro ⟨⟨s', hs'⟩, hlater⟩
      obtain ⟨s'', hrest⟩ := (hnext s' hs').1.2 hlater
      exact ⟨s'', s', hs', hrest⟩
    · rintro s'' ⟨s', hs', hrest⟩
      exact (hnext s' hs').2 s'' hrest

end Runs

end Schematics

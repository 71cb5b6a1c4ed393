import Schematics.Proofs.EntryRuns

namespace Schematics

namespace Reported

variable {ε α β : Type}

theorem result_foldlM (f : β → α → Reported ε β) (l : List α) (b : β) :
    (l.foldlM f b).result = l.foldlM (fun b a => (f b a).result) b := by
  induction l generalizing b with
  | nil => rfl
  | cons a rest ih => simp only [List.foldlM_cons, result_bind, ih]

end Reported

namespace Document

variable {o : ReadOptions} {root : Fields} {s s' : Schematic} {stage : Stage}

theorem sections_eq (root : Fields) (stage : Stage) :
    sections root stage = (given stage.key root).map fun e => (e.1, e.2.fieldsOf) := by
  unfold sections given
  cases root.lookup stage.key <;> rfl

theorem readEntries_eq_ok_iff {delimiter : Char} {entries : Fields} :
    (readEntries delimiter stage s entries).result = .ok s' ↔ (∀ f ∈ entries, f.2.isObject = true) ∧
      (entries.map fun f => ((stage, f.1, f.2.fieldsOf) : Entry)).foldlM (enter delimiter) s =
        .ok s' := by
  induction entries generalizing s with
  | nil => simp [readEntries]
  | cons f rest ih =>
    obtain ⟨name, j⟩ := f
    simp only [readEntries, Reported.result_bind, Reported.result_mapError, bind_eq_ok_iff,
      mapError_eq_ok_iff, ih, List.forall_mem_cons, List.map_cons, List.foldlM_cons]
    cases j with
    | object fields =>
      simp only [readEntry, Json.isObject, Json.fieldsOf, true_and]
      constructor
      · rintro ⟨s'', hs, hobjects, hrest⟩
        exact ⟨hobjects, s'', hs, hrest⟩
      · rintro ⟨hobjects, s'', hs, hrest⟩
        exact ⟨s'', hs, hobjects, hrest⟩
    | null | bool _ | int _ | real _ | string _ | array _ => simp [readEntry, Json.isObject]

theorem readSection_eq_ok_iff : (readSection o root s stage).result = .ok s' ↔
    (ObjectOrAbsent stage.key root ∧
      ∀ name j, (name, j) ∈ given stage.key root → j.isObject = true) ∧
    ((sections root stage).map fun e => ((stage, e) : Entry)).foldlM (enter o.delimiter) s =
      .ok s' := by
  rw [sections_eq, List.map_map]
  unfold readSection ObjectOrAbsent given
  cases root.lookup stage.key with
  | none => by_cases hm : o.reportMissing <;> simp [hm, bind_eq_ok_iff]
  | some j =>
    cases j with
    | object entries =>
      simp [readEntries_eq_ok_iff, bind_eq_ok_iff, Json.isObject, Json.fieldsOf, Function.comp_def]
    | null | bool _ | int _ | real _ | string _ | array _ => simp [Json.isObject]

theorem readSections_eq_ok_iff {stages : List Stage} :
    (stages.foldlM (readSection o root) s).result = .ok s' ↔
      (∀ stage ∈ stages, ObjectOrAbsent stage.key root ∧
        ∀ name j, (name, j) ∈ given stage.key root → j.isObject = true) ∧
      (stages.flatMap fun stage => (sections root stage).map fun e => ((stage, e) : Entry)).foldlM
        (enter o.delimiter) s = .ok s' := by
  rw [Reported.result_foldlM]
  induction stages generalizing s with
  | nil => simp
  | cons stage rest ih =>
    simp only [List.foldlM_cons, bind_eq_ok_iff, readSection_eq_ok_iff, ih, List.forall_mem_cons,
      List.flatMap_cons, List.foldlM_append]
    constructor
    · rintro ⟨s'', ⟨hstage, hs⟩, hstages, hrest⟩
      exact ⟨⟨hstage, hstages⟩, s'', hs, hrest⟩
    · rintro ⟨⟨hstage, hstages⟩, s'', hs, hrest⟩
      exact ⟨s'', ⟨hstage, hs⟩, hstages, hrest⟩

theorem readHeader_eq_ok_iff {doc : Json} {name : String} : readHeader doc = .ok (name, root) ↔
    doc = .object root ∧ root.lookup nameKey = some (.string name) := by
  constructor
  · intro h
    unfold readHeader at h
    split at h
    · split at h
      · next fields _ hname =>
        obtain ⟨rfl, rfl⟩ := Prod.mk.inj (Except.ok.inj h)
        exact ⟨rfl, hname⟩
      · exact nomatch h
      · exact nomatch h
    · exact nomatch h
  · rintro ⟨rfl, h⟩
    rw [readHeader, h]

end Document

namespace Mirrors

variable {doc : Sections} {delimiter : Char} {done : List Entry} {s : Schematic}

theorem defect?_eq_none_of_listed {κ : Kind} {α : Type} {t : InstanceTable κ α}
    {defect? : α → Option Defect} {entries : Entries} {R : String × Fields → String × α → Prop}
    (h : List.Forall₂ R entries (t.listed s.names)) (hR : ∀ e r, R e r → defect? r.2 = none) :
    ∀ e ∈ t.items.values, defect? e.value = none := by
  intro e he
  obtain ⟨f, -, hf⟩ := exists_of_forall₂_right h (List.mem_map.2 ⟨e, he, rfl⟩)
  exact hR f _ hf

theorem verify (h : Mirrors doc delimiter done s) : s.verify = .ok () := by
  refine Schematic.verify_eq_ok_iff.2 ⟨defect?_eq_none_of_listed h.nodes ?_,
    defect?_eq_none_of_listed h.connections ?_, defect?_eq_none_of_listed h.constraints ?_⟩
  · rintro _ _ ⟨-, _, hspells⟩
    exact hspells.defect?_eq_none
  · rintro _ _ ⟨-, _, hspells⟩
    exact hspells.defect?_eq_none
  · rintro _ _ ⟨-, _, hspells⟩
    exact hspells.defect?_eq_none

end Mirrors

namespace Document

theorem distinct_bodies (h : (Json.object root).Distinct) :
    ∀ e ∈ (sections root).inOrder, (Json.object e.2.2).Distinct := by
  rintro ⟨stage, name, body⟩ he
  have hmem := Sections.mem_inOrder.1 he
  rw [sections_eq, List.mem_map] at hmem
  obtain ⟨⟨other, j⟩, hj, heq⟩ := hmem
  obtain ⟨rfl, rfl⟩ := Prod.mk.inj heq
  exact ((Json.distinct_object_iff.1 (h.given stage.key)).2 _ hj).fieldsOf

theorem verified_eq_ok (h : s.verify = .ok ()) : verified o s = .ok s := by
  unfold verified
  by_cases hv : o.verify
  · rw [if_pos hv, h]
    rfl
  · rw [if_neg hv]

theorem read_eq_ok_iff {doc : Json} (hdoc : doc.Distinct) : (read o doc).result = .ok s ↔
    ∃ name root, doc = .object root ∧ root.lookup nameKey = some (.string name) ∧
      (∀ stage : Stage, ObjectOrAbsent stage.key root ∧
        ∀ name j, (name, j) ∈ given stage.key root → j.isObject = true) ∧
      (sections root).inOrder.foldlM (enter o.delimiter) (Schematic.new name) = .ok s := by
  have hstages {p : Stage → Prop} : (∀ stage ∈ Stage.all, p stage) ↔ ∀ stage, p stage :=
    ⟨fun h stage => h stage stage.mem_all, fun h stage _ => h stage⟩
  simp only [read, Reported.result_bind, Reported.result_ofExcept, bind_eq_ok_iff,
    readSections_eq_ok_iff, hstages]
  constructor
  · rintro ⟨⟨name, root⟩, hheader, s', ⟨hlayout, hrun⟩, hverified⟩
    obtain ⟨rfl, hname⟩ := readHeader_eq_ok_iff.1 hheader
    have hmirrors := (run_entries name (distinct_bodies hdoc)).2 s' hrun
    rw [verified_eq_ok hmirrors.verify, Except.ok.injEq] at hverified
    exact ⟨name, root, rfl, hname, hlayout, hverified ▸ hrun⟩
  · rintro ⟨name, root, rfl, hname, hlayout, hrun⟩
    have hmirrors := (run_entries name (distinct_bodies hdoc)).2 s hrun
    exact ⟨(name, root), readHeader_eq_ok_iff.2 ⟨rfl, hname⟩, s, ⟨hlayout, hrun⟩,
      verified_eq_ok hmirrors.verify⟩

end Document

end Schematics

import Schematics.Proofs.DocumentReading

namespace Schematics

namespace Stage

variable {stage : Stage}

def before (stage : Stage) : List Stage := all.takeWhile (· ≠ stage)

def after (stage : Stage) : List Stage := (all.dropWhile (· ≠ stage)).tail

theorem all_eq (stage : Stage) : all = stage.before ++ stage :: stage.after := by
  cases stage <;> rfl

theorem eq_before {earlier later : List Stage} (h : all = earlier ++ stage :: later) :
    earlier = stage.before := by
  have hnodup : all.Nodup := by decide
  have hnew : ∀ t ∈ earlier, t ≠ stage := by
    rintro t ht rfl
    rw [h] at hnodup
    exact (List.nodup_append.1 hnodup).2.2 t ht t List.mem_cons_self rfl
  rw [before, h, List.takeWhile_append_of_pos (by simpa using hnew)]
  simp

end Stage

namespace Document

variable {o : ReadOptions} {root root' : Fields} {stage : Stage} {earlier later : Fields}
  {name : String} {body : Json} {s : Schematic} {cause : Fault}

theorem readEntries_result (delimiter : Char) (stage : Stage) (s : Schematic) (entries : Fields) :
    (readEntries delimiter stage s entries).result = entries.foldlM (fun s f =>
      (readEntry delimiter s stage f.1 f.2).result.mapError (.entry stage f.1)) s := by
  induction entries generalizing s with
  | nil => rfl
  | cons f rest ih =>
    simp only [readEntries, List.foldlM_cons, Reported.result_bind, Reported.result_mapError, ih]

theorem readSection_of_lookup {entries : Fields}
    (h : root.lookup stage.key = some (.object entries)) :
    (readSection o root s stage).result = (readEntries o.delimiter stage s entries).result := by
  simp only [readSection, h, Reported.result_bind, Reported.result_tell, Reported.result_pure]
  cases (readEntries o.delimiter stage s entries).result <;> rfl

theorem readSection_of_none (h : root.lookup stage.key = none) :
    (readSection o root s stage).result = .ok s := by
  by_cases hm : o.reportMissing <;> simp [readSection, h, hm, bind_eq_ok_iff]

theorem readSection_congr (h : root'.lookup stage.key = root.lookup stage.key) :
    readSection o root' s stage = readSection o root s stage := by
  rw [readSection, readSection, h]

theorem readSections_congr {stages : List Stage}
    (h : ∀ t ∈ stages, root'.lookup t.key = root.lookup t.key) :
    stages.foldlM (readSection o root') s = stages.foldlM (readSection o root) s := by
  induction stages generalizing s with
  | nil => rfl
  | cons t rest ih =>
    rw [List.forall_mem_cons] at h
    simp only [List.foldlM_cons, readSection_congr h.1, ih h.2]

def readAbove (o : ReadOptions) (root : Fields) (stage : Stage) (title : String)
    (earlier : Fields) : Except DocumentError Schematic := do
  let s ← (stage.before.foldlM (readSection o root) (Schematic.new title)).result
  (readEntries o.delimiter stage s earlier).result

structure Meets (o : ReadOptions) (root : Fields) (stage : Stage) (earlier : Fields)
    (name : String) (body : Json) (s : Schematic) : Prop where
  listed : ∃ later, root.lookup stage.key = some (.object (earlier ++ (name, body) :: later))
  made : ∃ title, root.lookup nameKey = some (.string title) ∧
    readAbove o root stage title earlier = .ok s

theorem readEntries_eq_entry_error_iff {delimiter : Char} {entries : Fields} {t : Stage} :
    (readEntries delimiter stage s entries).result = .error (.entry t name cause) ↔
      stage = t ∧ ∃ earlier body later s', entries = earlier ++ (name, body) :: later ∧
        (readEntries delimiter stage s earlier).result = .ok s' ∧
        (readEntry delimiter s' stage name body).result = .error cause := by
  simp only [readEntries_result, foldlM_eq_error_iff, mapError_eq_error_iff,
    DocumentError.entry.injEq]
  constructor
  · rintro ⟨earlier, ⟨other, body⟩, later, s', rfl, hearlier, _, hcause, rfl, rfl, rfl⟩
    exact ⟨rfl, earlier, body, later, s', rfl, hearlier, hcause⟩
  · rintro ⟨rfl, earlier, body, later, s', rfl, hearlier, hcause⟩
    exact ⟨earlier, (name, body), later, s', rfl, hearlier, cause, hcause, rfl, rfl, rfl⟩

theorem readSection_eq_entry_error_iff {t : Stage} :
    (readSection o root s stage).result = .error (.entry t name cause) ↔
      stage = t ∧ ∃ earlier body later s',
        root.lookup stage.key = some (.object (earlier ++ (name, body) :: later)) ∧
        (readEntries o.delimiter stage s earlier).result = .ok s' ∧
        (readEntry o.delimiter s' stage name body).result = .error cause := by
  cases h : root.lookup stage.key with
  | none => simp [readSection_of_none h]
  | some j =>
    cases j with
    | object entries =>
      rw [readSection_of_lookup h, readEntries_eq_entry_error_iff]
      simp only [Option.some.injEq, Json.object.injEq]
    | null | bool _ | int _ | real _ | string _ | array _ => simp [readSection, h]

theorem readSections_eq_entry_error_iff :
    (Stage.all.foldlM (readSection o root) s).result = .error (.entry stage name cause) ↔
      ∃ s', (stage.before.foldlM (readSection o root) s).result = .ok s' ∧
        (readSection o root s' stage).result = .error (.entry stage name cause) := by
  simp only [Reported.result_foldlM, foldlM_eq_error_iff]
  constructor
  · rintro ⟨earlier, t, later, s', hall, hearlier, ht⟩
    obtain ⟨rfl, -⟩ := readSection_eq_entry_error_iff.1 ht
    exact ⟨s', Stage.eq_before hall ▸ hearlier, ht⟩
  · rintro ⟨s', hbefore, ht⟩
    exact ⟨stage.before, stage, stage.after, s', stage.all_eq, hbefore, ht⟩

theorem readHeader_error {doc : Json} {e : DocumentError} (h : readHeader doc = .error e) :
    ∃ message, e = .layout message := by
  unfold readHeader at h
  split at h
  · split at h
    · exact nomatch h
    · exact ⟨_, (Except.error.inj h).symm⟩
    · exact ⟨_, (Except.error.inj h).symm⟩
  · exact ⟨_, (Except.error.inj h).symm⟩

theorem verified_error {e : DocumentError} (h : verified o s = .error e) :
    ∃ f, s.verify = .error f ∧ e = .verification f := by
  unfold verified at h
  split at h
  · rw [map_eq_error_iff, mapError_eq_error_iff] at h
    obtain ⟨f, hf, rfl⟩ := h
    exact ⟨f, hf, rfl⟩
  · exact nomatch h

theorem read_eq_entry_error_iff {doc : Json} :
    (read o doc).result = .error (.entry stage name cause) ↔
      ∃ root earlier body s, doc = .object root ∧ Meets o root stage earlier name body s ∧
        (readEntry o.delimiter s stage name body).result = .error cause := by
  simp only [read, Reported.result_bind, Reported.result_ofExcept, bind_eq_error_iff]
  constructor
  · rintro (h | ⟨⟨title, root⟩, hheader, h | ⟨s, -, h⟩⟩)
    · obtain ⟨_, h⟩ := readHeader_error h
      cases h
    · obtain ⟨rfl, htitle⟩ := readHeader_eq_ok_iff.1 hheader
      obtain ⟨s, hbefore, h⟩ := readSections_eq_entry_error_iff.1 h
      obtain ⟨-, earlier, body, later, s', hlisted, hearlier, hcause⟩ :=
        readSection_eq_entry_error_iff.1 h
      refine ⟨root, earlier, body, s', rfl, ⟨⟨later, hlisted⟩, title, htitle, ?_⟩, hcause⟩
      rw [readAbove, hbefore]
      exact hearlier
    · obtain ⟨_, -, h⟩ := verified_error h
      cases h
  · rintro ⟨root, earlier, body, s, rfl, ⟨⟨later, hlisted⟩, title, htitle, hmade⟩, hcause⟩
    obtain ⟨s', hbefore, hearlier⟩ := bind_eq_ok_iff.1 hmade
    refine .inr ⟨(title, root), readHeader_eq_ok_iff.2 ⟨rfl, htitle⟩, .inl ?_⟩
    refine readSections_eq_entry_error_iff.2 ⟨s', hbefore, ?_⟩
    exact readSection_eq_entry_error_iff.2 ⟨rfl, earlier, body, later, s, hlisted, hearlier, hcause⟩

theorem Meets.mirrors (h : Meets o root stage earlier name body s)
    (hdoc : (Json.object root).Distinct) : ∃ done rest,
      (sections root).inOrder = done ++ (stage, name, body.fieldsOf) :: rest ∧
        Mirrors (sections root) o.delimiter done s := by
  obtain ⟨⟨later, hlisted⟩, title, -, hmade⟩ := h
  obtain ⟨s', hbefore, hearlier⟩ := bind_eq_ok_iff.1 hmade
  obtain ⟨-, hbefore⟩ := readSections_eq_ok_iff.1 hbefore
  obtain ⟨-, hearlier⟩ := readEntries_eq_ok_iff.1 hearlier
  let entries (stages : List Stage) : List Entry :=
    stages.flatMap fun t => (sections root t).map fun e => (t, e)
  let listed (fields : Fields) : List Entry := fields.map fun f => (stage, f.1, f.2.fieldsOf)
  have hsplit : (sections root).inOrder = (entries stage.before ++ listed earlier) ++
      (stage, name, body.fieldsOf) :: (listed later ++ entries stage.after) := by
    have hown : (sections root stage).map (fun e => ((stage, e) : Entry)) =
        listed (earlier ++ (name, body) :: later) := by
      rw [sections_eq, given, hlisted, List.map_map]
      rfl
    rw [Sections.inOrder, stage.all_eq, List.flatMap_append, List.flatMap_cons, hown]
    simp [listed, entries]
  have hrun : (entries stage.before ++ listed earlier).foldlM (enter o.delimiter)
      (Schematic.new title) = .ok s := by
    rw [List.foldlM_append, hbefore]
    exact hearlier
  exact ⟨_, _, hsplit, (run_part title (distinct_bodies hdoc) hsplit).2 s hrun⟩

end Document

end Schematics

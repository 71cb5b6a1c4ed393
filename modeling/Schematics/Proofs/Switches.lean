import Schematics.Proofs.Acceptance
import Schematics.Proofs.Progress

namespace Schematics

namespace Reported

variable {ε α β : Type} {p : Diagnostic → Bool}

def keeping (p : Diagnostic → Bool) (x : Reported ε α) : Reported ε α := ⟨x.log.filter p, x.result⟩

@[simp] theorem keeping_pure (a : α) : (pure a : Reported ε α).keeping p = pure a := rfl

@[simp] theorem keeping_ofExcept (r : Except ε α) : (ofExcept r).keeping p = ofExcept r := rfl

theorem keeping_tell_of_pos {d : Diagnostic} (h : p d = true) :
    (tell d : Reported ε PUnit).keeping p = tell d := by
  simp [keeping, tell, h]

theorem keeping_tell_of_neg {d : Diagnostic} (h : p d = false) :
    (tell d : Reported ε PUnit).keeping p = pure ⟨⟩ := by
  simp only [keeping, tell, List.filter_cons, h]
  rfl

theorem keeping_mapError {ε' : Type} (f : ε → ε') (x : Reported ε α) :
    (x.mapError f).keeping p = (x.keeping p).mapError f := rfl

theorem keeping_bind (x : Reported ε α) (f : α → Reported ε β) :
    (x >>= f).keeping p = x.keeping p >>= fun a => (f a).keeping p := by
  cases h : x.result with
  | error e => rw [bind_error h, bind_error (x := x.keeping p) h, keeping, keeping]
  | ok a =>
    rw [bind_ok h, bind_ok (x := x.keeping p) h]
    simp only [keeping, List.filter_append]

theorem keeping_foldlM (f : β → α → Reported ε β) (l : List α) (b : β) :
    (l.foldlM f b).keeping p = l.foldlM (fun b a => (f b a).keeping p) b := by
  induction l generalizing b with
  | nil => rfl
  | cons a rest ih => simp only [List.foldlM_cons, keeping_bind, ih]

theorem ofExcept_ok_bind (a : α) (f : α → Reported ε β) : ofExcept (.ok a) >>= f = f a := bind_ok rfl f

theorem bind_ofExcept_eq_self {x : Reported ε α} {f : α → Except ε α}
    (h : ∀ a, x.result = .ok a → f a = .ok a) : (x >>= fun a => ofExcept (f a)) = x := by
  cases hx : x.result with
  | error e =>
    rw [bind_error hx, ← hx]
  | ok a =>
    rw [bind_ok hx, h a hx, ofExcept, List.append_nil, ← hx]

end Reported

def Diagnostic.notMissing (d : Diagnostic) : Bool := d.code ≠ ⟨.note, 301⟩

def ReadOptions.quiet (o : ReadOptions) : ReadOptions := { o with reportMissing := false }

namespace Document

open Reported

variable {o o' : ReadOptions} {root : Fields} {s : Schematic} {stage : Stage} {doc : Json}

theorem keeping_givenForPort (node port : String) (attrs : Option Fields) :
    (givenForPort node port attrs).keeping Diagnostic.notMissing =
      givenForPort node port attrs := by
  unfold givenForPort
  split
  · rfl
  · split <;> rfl
  · rfl

theorem keeping_readPorts (node : String) (attrs : Option Fields)
    (declared : List (String × TypeId)) (start : NameMap Port) :
    (readPorts s node attrs declared start).keeping Diagnostic.notMissing =
      readPorts s node attrs declared start := by
  induction declared generalizing start with
  | nil => rfl
  | cons e rest ih =>
    simp only [readPorts, keeping_bind, keeping_givenForPort, keeping_ofExcept, ih]

theorem keeping_readEntry (delimiter : Char) (stage : Stage) (name : String) (body : Json) :
    (readEntry delimiter s stage name body).keeping Diagnostic.notMissing =
      readEntry delimiter s stage name body := by
  cases body with
  | object fields =>
    cases stage with
    | nodes =>
      simp only [readEntry, readBody, readNode, keeping_bind, keeping_ofExcept, keeping_readPorts,
        keeping_pure]
    | userDefinedTypes | portTypes | nodeTypes | connectionTypes | constraintTypes | connections
    | constraints => rfl
  | null | bool _ | int _ | real _ | string _ | array _ => rfl

theorem keeping_readEntries (delimiter : Char) (stage : Stage) (s : Schematic) (entries : Fields) :
    (readEntries delimiter stage s entries).keeping Diagnostic.notMissing =
      readEntries delimiter stage s entries := by
  induction entries generalizing s with
  | nil => rfl
  | cons e rest ih =>
    simp only [readEntries, keeping_bind, keeping_mapError, keeping_readEntry, ih]

theorem keeping_readSection (o : ReadOptions) (root : Fields) (s : Schematic) (stage : Stage) :
    (readSection o root s stage).keeping Diagnostic.notMissing =
      readSection o.quiet root s stage := by
  unfold readSection
  split
  · by_cases hm : o.reportMissing
    · rw [if_pos hm, keeping_bind, keeping_tell_of_neg rfl]
      rfl
    · rw [if_neg hm]
      rfl
  · have hcomplete (count : Nat) : (Notice.stageComplete stage count).notMissing = true := rfl
    simp only [keeping_bind, keeping_readEntries, keeping_tell_of_pos (hcomplete _), keeping_pure]
    rfl
  · rfl

theorem read_eq_sections (hdoc : doc.Distinct) : read o doc =
    (Reported.ofExcept (readHeader doc) >>= fun header =>
      Stage.all.foldlM (readSection o header.2) (Schematic.new header.1)) := by
  cases hheader : readHeader doc with
  | error e => rw [read, hheader, bind_error rfl, bind_error rfl]
  | ok header =>
    obtain ⟨title, root⟩ := header
    obtain ⟨rfl, -⟩ := readHeader_eq_ok_iff.1 hheader
    rw [read, hheader, ofExcept_ok_bind, ofExcept_ok_bind]
    -- What a run over all sections makes mirrors them, and so is found free of defects.
    apply bind_ofExcept_eq_self
    intro s hs
    obtain ⟨-, hrun⟩ := readSections_eq_ok_iff.1 hs
    exact verified_eq_ok ((run_entries title (distinct_bodies hdoc)).2 s hrun).verify

theorem read_congr (hdoc : doc.Distinct) (hdelimiter : o.delimiter = o'.delimiter)
    (hmissing : o.reportMissing = o'.reportMissing) : read o doc = read o' doc := by
  obtain ⟨delimiter, verify, reportMissing⟩ := o
  obtain ⟨delimiter', verify', reportMissing'⟩ := o'
  obtain rfl : delimiter = delimiter' := hdelimiter
  obtain rfl : reportMissing = reportMissing' := hmissing
  rw [read_eq_sections hdoc, read_eq_sections hdoc]
  rfl

theorem keeping_read (hdoc : doc.Distinct) :
    (read o doc).keeping Diagnostic.notMissing = read o.quiet doc := by
  simp only [read_eq_sections hdoc, keeping_bind, keeping_ofExcept, keeping_foldlM,
    keeping_readSection]

theorem readSection_error {e : DocumentError} (h : (readSection o root s stage).result = .error e) :
    (∃ message, e = .layout message) ∨ ∃ name cause, e = .entry stage name cause := by
  cases hj : root.lookup stage.key with
  | none =>
    rw [readSection_of_none hj] at h
    exact nomatch h
  | some j =>
    cases j with
    | object entries =>
      rw [readSection_of_lookup hj, readEntries_result, foldlM_eq_error_iff] at h
      obtain ⟨_, f, _, _, -, -, h⟩ := h
      obtain ⟨cause, -, rfl⟩ := mapError_eq_error_iff.1 h
      exact .inr ⟨f.1, cause, rfl⟩
    | null | bool _ | int _ | real _ | string _ | array _ =>
      simp only [readSection, hj, result_fail, Except.error.injEq] at h
      exact .inl ⟨_, h.symm⟩

theorem read_error (hdoc : doc.Distinct) {e : DocumentError} (h : (read o doc).result = .error e) :
    (∃ message, e = .layout message) ∨ ∃ stage name cause, e = .entry stage name cause := by
  rw [read_eq_sections hdoc, result_bind, result_ofExcept, bind_eq_error_iff] at h
  obtain h | ⟨⟨title, root⟩, -, h⟩ := h
  · exact .inl (readHeader_error h)
  · rw [result_foldlM, foldlM_eq_error_iff] at h
    obtain ⟨_, stage, _, _, -, -, h⟩ := h
    obtain h | ⟨name, cause, h⟩ := readSection_error h
    · exact .inl h
    · exact .inr ⟨stage, name, cause, h⟩

def readSeeded (o : ReadOptions) (doc : Json) : Reported DocumentError Schematic := do
  let (title, root) ← .ofExcept (readHeader doc)
  let s ← .ofExcept ((Schematic.seed title).mapError .internal)
  let s ← Stage.all.foldlM (readSection o root) s
  .ofExcept (verified o s)

theorem readSeeded_eq (o : ReadOptions) (doc : Json) : readSeeded o doc = read o doc := by
  rw [readSeeded, read]
  apply congrArg (Reported.ofExcept (readHeader doc) >>= ·)
  funext header
  simp only [Schematic.seed_eq]
  exact ofExcept_ok_bind (Schematic.new header.1) _

/--
Of the options the delimiter alone decides on the result, which is never that the last check failed
or that the base types could not be registered. Notes on missing sections are all that is not given
when they are not asked for.
-/
theorem read_switches {o o' : ReadOptions} (hdelimiter : o.delimiter = o'.delimiter) {doc : Json}
    (hdoc : doc.Distinct) :
    (read o doc).result = (read o' doc).result ∧
    (∀ cause, (read o doc).result ≠ .error (.verification cause)) ∧
    (∀ message, (readSeeded o doc).result ≠ .error (.internal message)) ∧
    readSeeded o doc = read o doc ∧
    (o.reportMissing = o'.reportMissing → (read o doc).log = (read o' doc).log) ∧
    (o.reportMissing = true → o'.reportMissing = false →
      (read o' doc).log = (read o doc).log.filter fun d => d.code ≠ ⟨.note, 301⟩) := by
  have hquiet : read o.quiet doc = read o'.quiet doc := read_congr hdoc hdelimiter rfl
  refine ⟨?_, fun cause h => ?_, fun message h => ?_, readSeeded_eq o doc, fun hmissing => ?_,
    fun _ hmissing => ?_⟩
  · have hresult := congrArg Reported.result (keeping_read (o := o) hdoc)
    exact hresult.trans
      ((congrArg Reported.result hquiet).trans (congrArg Reported.result (keeping_read hdoc)).symm)
  · obtain ⟨_, h⟩ | ⟨_, _, _, h⟩ := read_error hdoc h <;> exact nomatch h
  · rw [readSeeded_eq] at h
    obtain ⟨_, h⟩ | ⟨_, _, _, h⟩ := read_error hdoc h <;> exact nomatch h
  · rw [read_congr hdoc hdelimiter hmissing]
  · have hself : read o' doc = read o'.quiet doc := read_congr hdoc rfl hmissing
    rw [hself, ← hquiet, ← keeping_read hdoc]
    rfl

theorem read_switches_boilers : boilers.Distinct ∧
    (∃ s, (read {} boilers).result = .ok s ∧
      (read { verify := false, reportMissing := false } boilers).result = .ok s) ∧
    (read {} boilers).log.length = 8 ∧
    (read { verify := false, reportMissing := false } boilers).log.length = 6 := by
  have hdelimiter : ReadOptions.delimiter {} =
      ReadOptions.delimiter { verify := false, reportMissing := false } := rfl
  obtain ⟨hresult, -, -, -, -, hlog⟩ := read_switches hdelimiter boilers_distinct
  obtain ⟨s, hs⟩ := exists_read_boilers
  refine ⟨boilers_distinct, ⟨s, hs, hresult.symm.trans hs⟩, by decide +kernel, ?_⟩
  rw [hlog rfl rfl]
  decide +kernel

end Document

end Schematics

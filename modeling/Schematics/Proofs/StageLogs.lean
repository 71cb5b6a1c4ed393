import Mathlib.Data.List.Sort
import Schematics.Document.Verdict
import Schematics.Proofs.FailureReports
import Schematics.Proofs.Switches

/-!
What is said while a document is read. Each part of the reading has its diagnostics to give, all of
them when it succeeds and the first of them when it fails; so the log of a document is known stage by
stage, up to the stage that fails.
-/

namespace Schematics

variable {ε α β : Type} {ds ds' : List Diagnostic}

namespace Reported

/-- The diagnostics of a computation that succeeds. One that fails has given the first of them. -/
structure Tells (ds : List Diagnostic) (x : Reported ε α) : Prop where
  part : x.log <+: ds
  whole : ∀ a, x.result = .ok a → x.log = ds

namespace Tells

variable {x : Reported ε α}

theorem pure (a : α) : Tells [] (Pure.pure a : Reported ε α) := ⟨List.prefix_rfl, fun _ _ => rfl⟩

theorem ofExcept (r : Except ε α) : Tells [] (ofExcept r) := ⟨List.prefix_rfl, fun _ _ => rfl⟩

theorem tell (d : Diagnostic) : Tells [d] (tell d : Reported ε PUnit) :=
  ⟨List.prefix_rfl, fun _ _ => rfl⟩

theorem fail (ds : List Diagnostic) (e : ε) : Tells ds (fail e : Reported ε α) :=
  ⟨List.nil_prefix, fun _ h => nomatch h⟩

theorem mapError {ε' : Type} (f : ε → ε') (h : Tells ds x) : Tells ds (x.mapError f) :=
  ⟨h.part, fun a ha => h.whole a (mapError_eq_ok_iff.1 ha)⟩

theorem bind {f : α → Reported ε β} (hx : Tells ds x)
    (hf : ∀ a, x.result = .ok a → Tells ds' (f a)) : Tells (ds ++ ds') (x >>= f) := by
  cases h : x.result with
  | error e =>
    rw [bind_error h]
    exact ⟨hx.part.trans (List.prefix_append _ _), fun _ h => nomatch h⟩
  | ok a =>
    rw [bind_ok h, hx.whole a h]
    refine ⟨(List.prefix_append_right_inj _).2 (hf a h).part, fun b hb => ?_⟩
    rw [(hf a h).whole b hb]

theorem ofExcept_bind {r : Except ε α} {f : α → Reported ε β}
    (hf : ∀ a, r = .ok a → Tells ds (f a)) : Tells ds (Reported.ofExcept r >>= f) :=
  (ofExcept r).bind hf

theorem bind_ofExcept (hx : Tells ds x) (f : α → Except ε β) :
    Tells ds (x >>= fun a => Reported.ofExcept (f a)) := by
  have h := hx.bind fun a _ => ofExcept (f a)
  rwa [List.append_nil] at h

end Tells

theorem foldlM_error {f : β → α → Reported ε β} {l : List α} {b : β} {e : ε}
    (h : (l.foldlM f b).result = .error e) : ∃ earlier a later b', l = earlier ++ a :: later ∧
      (earlier.foldlM f b).result = .ok b' ∧ (f b' a).result = .error e ∧
        (l.foldlM f b).log = (earlier.foldlM f b).log ++ (f b' a).log := by
  induction l generalizing b with
  | nil => exact nomatch h
  | cons a rest ih =>
    simp only [List.foldlM_cons] at h ⊢
    cases ha : (f b a).result with
    | error cause =>
      rw [bind_error ha] at h ⊢
      exact ⟨[], a, rest, b, rfl, rfl, ha.trans h, rfl⟩
    | ok next =>
      rw [bind_ok ha] at h ⊢
      obtain ⟨earlier, c, later, b', rfl, hearlier, hc, hlog⟩ := ih h
      refine ⟨a :: earlier, c, later, b', rfl, ?_, hc, ?_⟩ <;> rw [List.foldlM_cons, bind_ok ha]
      · exact hearlier
      · rw [hlog, List.append_assoc]

end Reported

def Json.isEmptyObject : Json → Bool
  | .object [] => true
  | _ => false

namespace Document

open Reported

variable {s : Schematic} {o : ReadOptions} {root body : Fields} {stage : Stage} {name : String}

def entryNotices : Stage → String × Json → List Diagnostic
  | .nodes, (name, body) =>
    ((NameMap.ofList (given "portAttrs" body.fieldsOf)).entries.filter fun f =>
      f.2.isEmptyObject).map fun f =>
        { severity := .warning, code := ⟨.warning, 300⟩
          message := s!"`portAttrs` entry for port `{f.1}` supplies no values"
          location := some s!"nodes.{name}.portAttrs.{f.1}"
          help := ["remove the entry"] }
  | _, _ => []

theorem entryNotices_nodes (body : Json) : entryNotices .nodes (name, body) =
    ((NameMap.ofList (given "portAttrs" body.fieldsOf)).entries.filter fun f =>
      f.2.isEmptyObject).map fun f => Notice.emptyPortAttributes name f.1 := by
  have hplace (port : String) : s!"nodes.{name}.portAttrs.{port}" =
      s!"{Stage.nodes.key}.{name}.portAttrs.{port}" := by
    simp [Stage.key, toString]
  simp only [entryNotices, hplace]
  rfl

def sectionNotices (root : Fields) : Stage × String × String → List Diagnostic
  | (stage, key, _) => (given key root).flatMap (entryNotices stage)

def stageLog (o : ReadOptions) (root : Fields) : Stage × String × String → List Diagnostic
  | (stage, key, plural) =>
    match root.lookup key with
    | none =>
      if o.reportMissing then
        [{ severity := .note, code := ⟨.note, 301⟩
           message := s!"section `{key}` is absent; no {plural} registered" }]
      else []
    | some _ =>
      sectionNotices root (stage, key, plural) ++
        [{ severity := .note, code := ⟨.note, 300⟩
           message := s!"deserialized {(given key root).length} {plural}" }]

theorem sectionNotices_row : sectionNotices root stage.row =
    (given stage.key root).flatMap (entryNotices stage) := rfl

theorem stageLog_row : stageLog o root stage.row =
    match root.lookup stage.key with
    | none => if o.reportMissing then [Notice.missingSection stage] else []
    | some _ => sectionNotices root stage.row ++
      [Notice.stageComplete stage (given stage.key root).length] := rfl

def StopsAt (o : ReadOptions) (root : Fields) (stage : Stage) (e : DocumentError) : Prop :=
  ∃ title s, root.lookup nameKey = some (.string title) ∧
    (stage.before.foldlM (readSection o root) (Schematic.new title)).result = .ok s ∧
      (readSection o root s stage).result = .error e

def emptyGroups (attrs : Option Fields) (declared : List (String × TypeId)) :
    List (String × TypeId) :=
  declared.filter fun e => ((attrs.getD []).lookup e.1).any Json.isEmptyObject

theorem tells_givenForPort (node : String) (attrs : Option Fields) (e : String × TypeId) :
    Tells ((emptyGroups attrs [e]).map fun e => Notice.emptyPortAttributes node e.1)
      (givenForPort node e.1 attrs) := by
  have hlookup : attrs.bind (·.lookup e.1) = (attrs.getD []).lookup e.1 := by
    cases attrs <;> rfl
  simp only [givenForPort, hlookup, emptyGroups, List.filter_singleton]
  cases (attrs.getD []).lookup e.1 with
  | none => exact .pure none
  | some j =>
    cases j with
    | object given =>
      cases given with
      | nil => exact (Tells.tell _).bind fun _ _ => .pure _
      | cons f rest => exact .pure _
    | null | bool _ | int _ | real _ | string _ | array _ => exact .fail _ _

theorem tells_readPorts (node : String) (attrs : Option Fields) (declared : List (String × TypeId))
    (start : NameMap Port) :
    Tells ((emptyGroups attrs declared).map fun e => Notice.emptyPortAttributes node e.1)
      (readPorts s node attrs declared start) := by
  induction declared generalizing start with
  | nil => exact .pure start
  | cons e rest ih =>
    obtain ⟨port, t⟩ := e
    have hsplit : emptyGroups attrs ((port, t) :: rest) =
        emptyGroups attrs [(port, t)] ++ emptyGroups attrs rest := by
      rw [emptyGroups, emptyGroups, emptyGroups, ← List.filter_append]
      rfl
    rw [readPorts, hsplit, List.map_append]
    exact (tells_givenForPort node attrs (port, t)).bind fun _ _ =>
      .ofExcept_bind fun attributes _ => ih (start.insert port ⟨t, attributes⟩)

theorem emptyGroups_eq {attrs : Option Fields} {declared : NameMap TypeId} (hd : declared.Sorted)
    (hnames : ((attrs.getD []).map Prod.fst).Nodup)
    (hknown : ∀ f ∈ attrs.getD [], ∃ t, declared.get? f.1 = some t) :
    (emptyGroups attrs declared.entries).map Prod.fst =
      ((NameMap.ofList (attrs.getD [])).entries.filter fun f => f.2.isEmptyObject).map Prod.fst := by
  have hgiven := NameMap.sorted_ofList (attrs.getD [])
  -- Both are sorted by name, so that it is enough that they have the same members.
  apply List.Pairwise.eq_of_mem_iff (r := fun a b : String => a < b)
  · exact List.pairwise_map.2 (hd.filter _)
  · exact List.pairwise_map.2 (hgiven.filter _)
  intro port
  simp only [emptyGroups, List.mem_map, List.mem_filter, Option.any_eq_true]
  constructor
  · rintro ⟨e, ⟨-, j, hj, hempty⟩, rfl⟩
    refine ⟨(e.1, j), ⟨?_, hempty⟩, rfl⟩
    rw [← hgiven.get?_eq_some_iff, NameMap.get?_ofList hnames, hj]
  · rintro ⟨⟨port, j⟩, ⟨hmem, hempty⟩, rfl⟩
    rw [← hgiven.get?_eq_some_iff, NameMap.get?_ofList hnames] at hmem
    obtain ⟨t, ht⟩ := hknown _ (mem_of_lookup_eq_some hmem)
    exact ⟨(port, t), ⟨hd.get?_eq_some_iff.1 ht, j, hmem, hempty⟩, rfl⟩

theorem tells_readNode (hb : (Json.object body).Distinct) :
    Tells (entryNotices .nodes (name, .object body)) (readNode s name body) := by
  refine .ofExcept_bind fun t _ => .ofExcept_bind fun attributes _ =>
    .ofExcept_bind fun declared hdeclared => .ofExcept_bind fun attrs hattrs =>
      .ofExcept_bind fun _ hknown => ?_
  have hgiven : attrs.getD [] = given "portAttrs" body := by
    rw [(optionalObject_eq_ok_iff.1 hattrs).2, given_eq]
  have hports := emptyGroups_eq (Schematic.sorted_effectivePorts hdeclared)
    (hgiven ▸ (hb.given "portAttrs").names) (checkGivenPorts_eq_ok_iff.1 hknown)
  have hnotices : entryNotices .nodes (name, .object body) =
      (emptyGroups attrs declared.entries).map fun e => Notice.emptyPortAttributes name e.1 := by
    rw [hgiven] at hports
    have hmap := congrArg (List.map (Notice.emptyPortAttributes name)) hports
    rw [List.map_map, List.map_map] at hmap
    rw [entryNotices_nodes]
    exact hmap.symm
  rw [hnotices]
  exact (tells_readPorts name attrs declared.entries ∅).bind_ofExcept fun ports =>
    (.ok ⟨t, attributes, ports⟩ : Except Fault Node)

theorem tells_readEntry {body : Json} (hb : body.Distinct) (delimiter : Char) :
    Tells (entryNotices stage (name, body)) (readEntry delimiter s stage name body) := by
  cases body with
  | object fields =>
    cases stage with
    | nodes => exact (tells_readNode hb).bind_ofExcept _
    | userDefinedTypes | portTypes | nodeTypes | connectionTypes | constraintTypes | connections
    | constraints => exact .ofExcept _
  | null | bool _ | int _ | real _ | string _ | array _ => exact .fail _ _

theorem tells_readEntries {entries : Fields} (hd : ∀ e ∈ entries, e.2.Distinct)
    (delimiter : Char) :
    Tells (entries.flatMap (entryNotices stage)) (readEntries delimiter stage s entries) := by
  induction entries generalizing s with
  | nil => exact .pure s
  | cons e rest ih =>
    obtain ⟨name, j⟩ := e
    obtain ⟨hj, hrest⟩ := List.forall_mem_cons.1 hd
    rw [readEntries, List.flatMap_cons]
    exact ((tells_readEntry hj delimiter).mapError _).bind fun _ _ => ih hrest

theorem log_readSection (hd : (Json.object root).Distinct) {s' : Schematic}
    (h : (readSection o root s stage).result = .ok s') :
    (readSection o root s stage).log = stageLog o root stage.row := by
  have hgiven := Json.distinct_object_iff.1 (hd.given stage.key)
  rw [stageLog_row, sectionNotices_row]
  unfold readSection given at *
  cases hj : root.lookup stage.key with
  | none => by_cases hm : o.reportMissing <;> simp only [hm] <;> rfl
  | some j =>
    rw [hj] at h hgiven
    cases j with
    | object entries =>
      have hentries : ∀ e ∈ entries, e.2.Distinct := hgiven.2
      rw [result_bind, bind_eq_ok_iff] at h
      obtain ⟨next, hnext, -⟩ := h
      simp only
      rw [bind_ok hnext, (tells_readEntries hentries o.delimiter).whole next hnext]
      rfl
    | null | bool _ | int _ | real _ | string _ | array _ => exact nomatch h

theorem log_readSection_of_error (hd : (Json.object root).Distinct) {e : DocumentError}
    (h : (readSection o root s stage).result = .error e) :
    (readSection o root s stage).log <+: sectionNotices root stage.row := by
  have hgiven := Json.distinct_object_iff.1 (hd.given stage.key)
  rw [sectionNotices_row]
  cases hj : root.lookup stage.key with
  | none =>
    rw [readSection_of_none hj] at h
    exact nomatch h
  | some j =>
    unfold readSection given at *
    rw [hj] at h hgiven ⊢
    cases j with
    | object entries =>
      have hentries : ∀ e ∈ entries, e.2.Distinct := hgiven.2
      -- Nothing can fail after the entries, so that the failure is theirs.
      cases hread : (readEntries o.delimiter stage s entries).result with
      | ok next => simp [hread, bind_eq_error_iff] at h
      | error cause =>
        simp only
        rw [bind_error hread]
        exact (tells_readEntries hentries o.delimiter).part
    | null | bool _ | int _ | real _ | string _ | array _ => exact List.nil_prefix

theorem log_readSections (hd : (Json.object root).Distinct) {stages : List Stage} {s' : Schematic}
    (h : (stages.foldlM (readSection o root) s).result = .ok s') :
    (stages.foldlM (readSection o root) s).log =
      (stages.map Stage.row).flatMap (stageLog o root) := by
  induction stages generalizing s with
  | nil => rfl
  | cons stage rest ih =>
    rw [List.foldlM_cons, result_bind, bind_eq_ok_iff] at h
    obtain ⟨next, hnext, hrest⟩ := h
    rw [List.foldlM_cons, bind_ok hnext, log_readSection hd hnext, ih hrest, List.map_cons,
      List.flatMap_cons]

theorem log_read {doc : Json} (hdoc : doc.Distinct) {s : Schematic}
    (h : (read o doc).result = .ok s) :
    (read o doc).log = stageRows.flatMap (stageLog o doc.fieldsOf) := by
  rw [read_eq_sections hdoc, result_bind, bind_eq_ok_iff] at h
  obtain ⟨⟨title, root⟩, hheader, h⟩ := h
  obtain ⟨rfl, -⟩ := readHeader_eq_ok_iff.1 hheader
  rw [read_eq_sections hdoc, bind_ok hheader, log_readSections hdoc h, ← stageRows_eq]
  rfl

theorem log_read_of_error {doc : Json} (hdoc : doc.Distinct) {e : DocumentError}
    (h : (read o doc).result = .error e) :
    (readHeader doc = .error e ∧ (read o doc).log = []) ∨
      ∃ earlier row later part, stageRows = earlier ++ row :: later ∧
        StopsAt o doc.fieldsOf row.1 e ∧ part <+: sectionNotices doc.fieldsOf row ∧
          (read o doc).log = earlier.flatMap (stageLog o doc.fieldsOf) ++ part := by
  rw [read_eq_sections hdoc] at h ⊢
  cases hheader : readHeader doc with
  | error cause =>
    rw [hheader, bind_error rfl] at h
    rw [bind_error rfl]
    obtain rfl := Except.error.inj h
    exact .inl ⟨rfl, rfl⟩
  | ok header =>
    obtain ⟨title, root⟩ := header
    obtain ⟨rfl, htitle⟩ := readHeader_eq_ok_iff.1 hheader
    rw [hheader, ofExcept_ok_bind] at h
    rw [ofExcept_ok_bind]
    obtain ⟨earlier, stage, later, s, hall, hearlier, hfails, hlog⟩ := foldlM_error h
    have hrows : stageRows = earlier.map Stage.row ++ stage.row :: later.map Stage.row := by
      rw [stageRows_eq, hall, List.map_append, List.map_cons]
    obtain rfl := Stage.eq_before hall
    refine .inr ⟨_, _, _, _, hrows, ⟨title, s, htitle, hearlier, hfails⟩,
      log_readSection_of_error hdoc hfails, ?_⟩
    rw [hlog, log_readSections hdoc hearlier]
    rfl

end Document

def Diagnostic.IsRemark (d : Diagnostic) : Prop :=
  d.severity ≠ .error ∧ d.code.HasThreeDigits

namespace Document

variable {o : ReadOptions} {root : Fields} {stage : Stage} {row : Stage × String × String}
  {d : Diagnostic}

theorem severity_of_entryNotices {f : String × Json} (h : d ∈ entryNotices stage f) :
    d.severity = .warning ∧ d.code.HasThreeDigits := by
  cases stage with
  | nodes =>
    obtain ⟨_, -, rfl⟩ := List.mem_map.1 h
    exact ⟨rfl, (by decide : (Code.mk .warning 300).HasThreeDigits)⟩
  | userDefinedTypes | portTypes | nodeTypes | connectionTypes | constraintTypes | connections
  | constraints => exact absurd h List.not_mem_nil

theorem severity_of_sectionNotices (h : d ∈ sectionNotices root row) :
    d.severity = .warning ∧ d.code.HasThreeDigits := by
  obtain ⟨f, -, h⟩ := List.mem_flatMap.1 h
  exact severity_of_entryNotices h

theorem isRemark_of_sectionNotices (h : d ∈ sectionNotices root row) : d.IsRemark := by
  obtain ⟨hseverity, hdigits⟩ := severity_of_sectionNotices h
  exact ⟨by rw [hseverity]; exact nofun, hdigits⟩

theorem isRemark_of_stageLog (h : d ∈ stageLog o root row) : d.IsRemark := by
  obtain ⟨stage, key, plural⟩ := row
  rw [stageLog] at h
  split at h
  · split at h
    · rw [List.mem_singleton.1 h]
      exact ⟨nofun, (by decide : (Code.mk .note 301).HasThreeDigits)⟩
    · exact absurd h List.not_mem_nil
  · obtain h | h := List.mem_append.1 h
    · exact isRemark_of_sectionNotices h
    · rw [List.mem_singleton.1 h]
      exact ⟨nofun, (by decide : (Code.mk .note 300).HasThreeDigits)⟩

theorem isRemark_of_read {doc : Json} (hdoc : doc.Distinct) (hd : d ∈ (read o doc).log) :
    d.IsRemark := by
  cases h : (read o doc).result with
  | ok s =>
    rw [log_read hdoc h] at hd
    obtain ⟨row, -, hd⟩ := List.mem_flatMap.1 hd
    exact isRemark_of_stageLog hd
  | error e =>
    obtain ⟨-, hlog⟩ | ⟨earlier, row, later, part, -, -, hpart, hlog⟩ := log_read_of_error hdoc h
    · rw [hlog] at hd
      exact absurd hd List.not_mem_nil
    · rw [hlog] at hd
      obtain hd | hd := List.mem_append.1 hd
      · obtain ⟨t, -, hd⟩ := List.mem_flatMap.1 hd
        exact isRemark_of_stageLog hd
      · exact isRemark_of_sectionNotices (hpart.subset hd)

theorem isRemark_of_readText {text : String} (hd : d ∈ (readText o text).log) : d.IsRemark := by
  unfold readText at hd
  split at hd
  · exact absurd hd List.not_mem_nil
  · next doc hparse => exact isRemark_of_read (Json.distinct_of_parse hparse) hd

end Document

theorem Log.errorCount_emitAll (l : Log) {ds : List Diagnostic}
    (h : ∀ d ∈ ds, d.severity ≠ .error) : (l.emitAll ds).errorCount = l.errorCount := by
  induction ds generalizing l with
  | nil => rfl
  | cons d rest ih =>
    obtain ⟨hd, hrest⟩ := List.forall_mem_cons.1 h
    have hstep : (l.emitAll (d :: rest)).errorCount = _ := ih (l.emit d) hrest
    rw [hstep, Log.emit, if_neg hd, Nat.add_zero]

namespace Verdict

variable {r : Reported DocumentError Schematic}

theorem errorCount_of_ok (hlog : ∀ d ∈ r.log, d.severity ≠ .error) {s : Schematic}
    (h : r.result = .ok s) : (ofReported r).log.errorCount = 0 := by
  rw [ofReported, h]
  exact Log.errorCount_emitAll {} hlog

theorem errorCount_of_error (hlog : ∀ d ∈ r.log, d.severity ≠ .error) {e : DocumentError}
    (h : r.result = .error e) : (ofReported r).log.errorCount = 1 := by
  rw [ofReported, h]
  simp only [Log.emit, Log.errorCount_emitAll {} hlog, e.reportedAs_diagnostic.severity, if_true]

theorem diagnostics_of_error {e : DocumentError} (h : r.result = .error e) :
    (ofReported r).log.diagnostics = r.log ++ [e.diagnostic] := by
  rw [ofReported, h, Log.diagnostics_emit, Log.diagnostics_emitAll]
  rfl

end Verdict

namespace Document

/--
Reading says nothing of error severity. What it says when it succeeds is known stage by stage; when
it fails that is so of the stages before the one that fails, of which there may be some warnings
besides. A verdict adds the failure itself, so that it counts one error or none.
-/
theorem read_logs_by_stage (o : ReadOptions) {doc : Json} (hdoc : doc.Distinct) :
    (∀ d ∈ (read o doc).log, d.severity ≠ .error) ∧
    (∀ s, (read o doc).result = .ok s →
      (read o doc).log = stageRows.flatMap (stageLog o doc.fieldsOf)) ∧
    (∀ e, (read o doc).result = .error e →
      (readHeader doc = .error e ∧ (read o doc).log = []) ∨
      ∃ earlier row later part, stageRows = earlier ++ row :: later ∧
        StopsAt o doc.fieldsOf row.1 e ∧ part <+: sectionNotices doc.fieldsOf row ∧
          (read o doc).log = earlier.flatMap (stageLog o doc.fieldsOf) ++ part) ∧
    ∀ text, let v := Verdict.ofText o text
      (v.log.errorCount = 0 ↔ ∃ s, (readText o text).result = .ok s) ∧
      (v.log.errorCount = 1 ↔ ∃ e, (readText o text).result = .error e) ∧
      ∀ e, (readText o text).result = .error e →
        ∃ d, e.ReportedAs d ∧ v.log.diagnostics = (readText o text).log ++ [d] := by
  refine ⟨fun d hd => (isRemark_of_read hdoc hd).1, fun s h => log_read hdoc h,
    fun e h => log_read_of_error hdoc h, fun text => ?_⟩
  have hlog : ∀ d ∈ (readText o text).log, d.severity ≠ .error := fun d hd =>
    (isRemark_of_readText hd).1
  refine ⟨?_, ?_, fun e h => ⟨_, e.reportedAs_diagnostic, Verdict.diagnostics_of_error h⟩⟩
  · cases h : (readText o text).result with
    | ok s => simp [Verdict.ofText, Verdict.errorCount_of_ok hlog h]
    | error e => simp [Verdict.ofText, Verdict.errorCount_of_error hlog h]
  · cases h : (readText o text).result with
    | ok s => simp [Verdict.ofText, Verdict.errorCount_of_ok hlog h]
    | error e => simp [Verdict.ofText, Verdict.errorCount_of_error hlog h]

def sluices : Json :=
  .object [
    ("schematicName", .string "sluices"),
    ("portTypes", .object [("Edge", .object [])]),
    ("nodeTypes", .object [
      ("Gate", .object [("portTypes",
        .object [("right", .string "Edge"), ("left", .string "Edge")])])]),
    ("nodes", .object [
      ("g", .object [("type", .string "Gate"),
        ("portAttrs", .object [("right", .object []), ("left", .object [])])]),
      ("h", .null)]),
    ("connections", .int 0)]

theorem read_logs_by_stage_sluices : sluices.Distinct ∧
    ∃ earlier row later part e, stageRows = earlier ++ row :: later ∧
      StopsAt {} sluices.fieldsOf row.1 e ∧ part <+: sectionNotices sluices.fieldsOf row ∧
      (read {} sluices).log = earlier.flatMap (stageLog {} sluices.fieldsOf) ++ part ∧
      (sectionNotices sluices.fieldsOf (.nodes, "nodes", "nodes")).map Diagnostic.location =
        [some "nodes.g.portAttrs.left", some "nodes.g.portAttrs.right"] := by
  have hdoc : sluices.Distinct := by
    simp [sluices, Json.Distinct, Json.DistinctFields]
  have hfails : (read {} sluices).result =
      .error (.entry .nodes "h" (.malformed "entry must be an object")) := rfl
  obtain ⟨hheader, -⟩ | ⟨earlier, row, later, part, hall, hstops, hpart, hlog⟩ :=
    (read_logs_by_stage {} hdoc).2.2.1 _ hfails
  · obtain ⟨_, hlayout⟩ := readHeader_error hheader
    cases hlayout
  · exact ⟨hdoc, earlier, row, later, part, _, hall, hstops, hpart, hlog, by decide +kernel⟩

end Document

end Schematics

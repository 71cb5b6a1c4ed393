import Mathlib.Algebra.BigOperators.Group.List.Basic
import Mathlib.Algebra.GroupWithZero.Nat
import Schematics.Proofs.Reordering
import Schematics.Proofs.StageLogs

namespace Schematics

variable {ε α : Type} {fields fields' root : Fields}

def Diagnostic.isWarning (d : Diagnostic) : Bool := d.severity = .warning

theorem Diagnostic.isVisible_of_error {d : Diagnostic} (h : d.severity = .error) (v : Verbosity) :
    d.isVisible v = true := by
  rw [isVisible, h]

def Reported.warnings (x : Reported ε α) : Nat := x.log.countP Diagnostic.isWarning

theorem Log.warningCount_emitAll (l : Log) (ds : List Diagnostic) :
    (l.emitAll ds).warningCount = l.warningCount + ds.countP Diagnostic.isWarning := by
  induction ds generalizing l with
  | nil => rfl
  | cons d rest ih =>
    have hrest : (l.emitAll (d :: rest)).warningCount = _ := ih (l.emit d)
    rw [hrest, Log.emit, List.countP_cons, Diagnostic.isWarning]
    simp only [decide_eq_true_eq]
    omega

theorem Verdict.warningCount_ofReported (r : Reported DocumentError Schematic) :
    (ofReported r).log.warningCount = r.warnings := by
  have hlog : (({} : Log).emitAll r.log).warningCount = r.warnings :=
    (Log.warningCount_emitAll {} r.log).trans (Nat.zero_add _)
  rw [ofReported]
  cases r.result with
  | ok s => exact hlog
  | error e =>
    have hseverity : e.diagnostic.severity = .error := e.reportedAs_diagnostic.severity
    rw [← hlog]
    simp [Log.emit, hseverity]

namespace Json

variable {weigh : Json → Nat}

def tally (weigh : Json → Nat) (fields : Fields) : Nat := (fields.map fun e => weigh e.2).sum

theorem tally_eq_sum_lookup (hf : (fields.map Prod.fst).Nodup) :
    tally weigh fields =
      ((fields.map Prod.fst).map fun name => (fields.lookup name).elim 0 weigh).sum := by
  rw [tally, List.map_map]
  apply congrArg List.sum
  apply List.map_congr_left
  intro e he
  have hlookup : fields.lookup e.1 = some e.2 := (lookup_eq_some_iff_mem hf).2 he
  rw [Function.comp_apply, hlookup]
  rfl

theorem Alike.tally_eq (h : Alike (.object fields) (.object fields'))
    (hw : ∀ j j', Alike j j' → weigh j = weigh j') : tally weigh fields = tally weigh fields' := by
  have hlookup : (fun name => (fields.lookup name).elim 0 weigh) =
      fun name => (fields'.lookup name).elim 0 weigh := by
    funext name
    have hrel := h.lookup name
    generalize fields.lookup name = x, fields'.lookup name = y at hrel ⊢
    cases hrel with
    | none => rfl
    | some halike => exact hw _ _ halike
  rw [tally_eq_sum_lookup h.left.names, tally_eq_sum_lookup h.right.names, hlookup]
  exact (h.names.map _).sum_eq

def emptiness : Json → Nat
  | .object [] => 1
  | _ => 0

theorem Alike.emptiness_eq {j j' : Json} (h : Alike j j') : j.emptiness = j'.emptiness := by
  cases h.reordered with
  | same => rfl
  | array => rfl
  | @object fields fields' hn =>
    have hlength := hn.length_eq
    rw [List.length_map, List.length_map] at hlength
    cases fields <;> cases fields' <;> first | rfl | exact nomatch hlength

theorem length_filter_isEmptyObject (fields : Fields) :
    (fields.filter fun f => f.2.isEmptyObject).length = tally emptiness fields := by
  induction fields with
  | nil => rfl
  | cons f rest ih =>
    have hone : f.2.emptiness = if f.2.isEmptyObject then 1 else 0 := by
      cases f.2 with
      | object fields => cases fields <;> rfl
      | null | bool _ | int _ | real _ | string _ | array _ => rfl
    have hcons : tally emptiness (f :: rest) = f.2.emptiness + tally emptiness rest := rfl
    rw [hcons, hone, ← ih, List.filter_cons]
    by_cases h : f.2.isEmptyObject
    · rw [if_pos h, if_pos h, List.length_cons, Nat.add_comm]
    · rw [if_neg h, if_neg h, Nat.zero_add]

end Json

namespace Document

variable {s s' : Schematic} {stage : Stage} {o : ReadOptions}

def entryWarnings (stage : Stage) (body : Fields) : Nat :=
  if stage = .nodes then Json.tally Json.emptiness (given "portAttrs" body) else 0

theorem length_entryNotices {f : String × Json} (hf : f.2.Distinct) :
    (entryNotices stage f).length = entryWarnings stage f.2.fieldsOf := by
  cases stage with
  | nodes =>
    have hperm := NameMap.perm_ofList (hf.fieldsOf.given "portAttrs").names
    rw [entryNotices, List.length_map, (hperm.filter _).length_eq, Json.length_filter_isEmptyObject]
    rfl
  | userDefinedTypes | portTypes | nodeTypes | connectionTypes | constraintTypes | connections
  | constraints => rfl

theorem length_sectionNotices (hd : (Json.object root).Distinct) :
    (sectionNotices root stage.row).length =
      Json.tally (fun j => entryWarnings stage j.fieldsOf) (given stage.key root) := by
  have hentries := (Json.distinct_object_iff.1 (hd.given stage.key)).2
  rw [sectionNotices_row, List.length_flatMap, Json.tally]
  apply congrArg List.sum
  apply List.map_congr_left
  intro f hf
  exact length_entryNotices (hentries f hf)

theorem countP_stageLog (hd : (Json.object root).Distinct) :
    (stageLog o root stage.row).countP Diagnostic.isWarning =
      Json.tally (fun j => entryWarnings stage j.fieldsOf) (given stage.key root) := by
  rw [← length_sectionNotices hd, stageLog_row]
  cases hj : root.lookup stage.key with
  | none =>
    have hnone : sectionNotices root stage.row = [] := by
      rw [sectionNotices_row, given, hj]
      rfl
    rw [hnone]
    by_cases hm : o.reportMissing <;> simp only [hm] <;> rfl
  | some j =>
    have hall : (sectionNotices root stage.row).countP Diagnostic.isWarning =
        (sectionNotices root stage.row).length := by
      apply List.countP_eq_length.2
      intro d hd
      rw [Diagnostic.isWarning, (severity_of_sectionNotices hd).1]
      rfl
    rw [List.countP_append, hall]
    rfl

theorem warnings_read (hd : (Json.object root).Distinct)
    (h : (read o (.object root)).result = .ok s) : (read o (.object root)).warnings =
      Json.tally (fun j => entryWarnings .nodes j.fieldsOf) (given Stage.nodes.key root) := by
  have hother (stage : Stage) (hs : stage ≠ .nodes) (entries : Fields) :
      Json.tally (fun j => entryWarnings stage j.fieldsOf) entries = 0 := by
    simp [Json.tally, entryWarnings, hs]
  have hlog : (read o (.object root)).log = stageRows.flatMap (stageLog o root) := log_read hd h
  rw [Reported.warnings, hlog, List.countP_flatMap, stageRows_eq]
  simp [Stage.all, countP_stageLog hd, hother]

theorem warnings_read_of_alike {root' : Fields} {o' : ReadOptions}
    (ha : Json.Alike (.object root) (.object root'))
    (h : (read o (.object root)).result = .ok s) (h' : (read o' (.object root')).result = .ok s') :
    (read o (.object root)).warnings = (read o' (.object root')).warnings := by
  rw [warnings_read ha.left h, warnings_read ha.right h']
  refine (ha.given Stage.nodes.key).tally_eq fun j j' hj => ?_
  exact (hj.fieldsOf.given "portAttrs").tally_eq fun _ _ => Json.Alike.emptiness_eq

end Document

end Schematics

import Schematics.Proofs.Warnings

namespace Schematics

def Diagnostic.isError (d : Diagnostic) : Bool := d.severity.isError

namespace Log

variable {l : Log} {d : Diagnostic}

inductive Call where
  | emit (d : Diagnostic)
  | takeAll
  | diagnostics

def Call.emitted? : Call → Option Diagnostic
  | .emit d => some d
  | _ => none

def perform (l : Log) : Call → List Diagnostic × Log
  | .emit d => ([], l.emit d)
  | .takeAll => l.takeAll
  | .diagnostics => (l.diagnostics, l)

def run (l : Log) : List Call → List (Call × List Diagnostic) × Log
  | [] => ([], l)
  | c :: rest =>
    let (answer, l) := l.perform c
    let (answers, l) := l.run rest
    ((c, answer) :: answers, l)

def emitted (calls : List Call) : List Diagnostic := calls.filterMap Call.emitted?

def takenBy : Call × List Diagnostic → List Diagnostic
  | (.takeAll, answer) => answer
  | _ => []

def taken (answers : List (Call × List Diagnostic)) : List Diagnostic := answers.flatMap takenBy

theorem takenBy_perform (l : Log) (c : Call) :
    takenBy (c, (l.perform c).1) ++ (l.perform c).2.diagnostics =
      l.diagnostics ++ c.emitted?.toList := by
  cases c with
  | emit d => exact diagnostics_emit l d
  | takeAll => rfl
  | diagnostics => exact (List.append_nil _).symm

theorem errorCount_perform (l : Log) (c : Call) :
    (l.perform c).2.errorCount = l.errorCount + c.emitted?.toList.countP Diagnostic.isError := by
  cases c with
  | emit d => simp [perform, emit, Call.emitted?, Diagnostic.isError, Severity.isError]
  | takeAll | diagnostics => rfl

theorem warningCount_perform (l : Log) (c : Call) :
    (l.perform c).2.warningCount =
      l.warningCount + c.emitted?.toList.countP Diagnostic.isWarning := by
  cases c with
  | emit d => simp [perform, emit, Call.emitted?, Diagnostic.isWarning]
  | takeAll | diagnostics => rfl

theorem emitted_cons (c : Call) (calls : List Call) :
    emitted (c :: calls) = c.emitted?.toList ++ emitted calls := by
  cases c <;> rfl

theorem emitted_append (calls more : List Call) :
    emitted (calls ++ more) = emitted calls ++ emitted more := List.filterMap_append

theorem takenBy_append (l : Log) (c : Call) (rest : List Call) :
    takenBy (c, (l.perform c).1) ++ ((l.perform c).2.diagnostics ++ emitted rest) =
      l.diagnostics ++ emitted (c :: rest) := by
  rw [← List.append_assoc, takenBy_perform, emitted_cons, List.append_assoc]

theorem taken_run (l : Log) (calls : List Call) :
    taken (l.run calls).1 ++ (l.run calls).2.diagnostics = l.diagnostics ++ emitted calls := by
  induction calls generalizing l with
  | nil => exact (List.append_nil _).symm
  | cons c rest ih =>
    have hlater := ih (l.perform c).2
    calc
      taken (l.run (c :: rest)).1 ++ (l.run (c :: rest)).2.diagnostics
        = takenBy (c, (l.perform c).1) ++ (taken ((l.perform c).2.run rest).1 ++
            ((l.perform c).2.run rest).2.diagnostics) := List.append_assoc ..
      _ = takenBy (c, (l.perform c).1) ++ ((l.perform c).2.diagnostics ++ emitted rest) := by
        rw [hlater]
      _ = l.diagnostics ++ emitted (c :: rest) := takenBy_append l c rest

theorem answer_run {calls : List Call} {before after : List (Call × List Diagnostic)}
    {answer : List Diagnostic} (h : (l.run calls).1 = before ++ (.diagnostics, answer) :: after) :
    taken before ++ answer = l.diagnostics ++ emitted (before.map Prod.fst) := by
  induction before generalizing l calls with
  | nil =>
    cases calls with
    | nil => cases h
    | cons c rest =>
      obtain ⟨hc, -⟩ := List.cons.inj h
      obtain ⟨rfl, rfl⟩ := Prod.mk.inj hc
      exact (List.append_nil _).symm
  | cons e before ih =>
    cases calls with
    | nil => cases h
    | cons c rest =>
      obtain ⟨rfl, hrest⟩ := List.cons.inj h
      have hlater : _ = (l.perform c).2.diagnostics ++ _ := ih hrest
      calc
        taken ((c, (l.perform c).1) :: before) ++ answer
          = takenBy (c, (l.perform c).1) ++ (taken before ++ answer) := List.append_assoc ..
        _ = takenBy (c, (l.perform c).1) ++
              ((l.perform c).2.diagnostics ++ emitted (before.map Prod.fst)) := by rw [hlater]
        _ = l.diagnostics ++ emitted (c :: before.map Prod.fst) := takenBy_append l c _

theorem errorCount_run (l : Log) (calls : List Call) : (l.run calls).2.errorCount =
    l.errorCount + (emitted calls).countP Diagnostic.isError := by
  induction calls generalizing l with
  | nil => rfl
  | cons c rest ih =>
    have hlater : (l.run (c :: rest)).2.errorCount = _ := ih (l.perform c).2
    rw [hlater, errorCount_perform, emitted_cons, List.countP_append, Nat.add_assoc]

theorem warningCount_run (l : Log) (calls : List Call) : (l.run calls).2.warningCount =
    l.warningCount + (emitted calls).countP Diagnostic.isWarning := by
  induction calls generalizing l with
  | nil => rfl
  | cons c rest ih =>
    have hlater : (l.run (c :: rest)).2.warningCount = _ := ih (l.perform c).2
    rw [hlater, warningCount_perform, emitted_cons, List.countP_append, Nat.add_assoc]

theorem hasErrors_run_iff (calls : List Call) :
    (run {} calls).2.hasErrors = true ↔ ∃ d ∈ emitted calls, d.severity = .error := by
  have hcount : (run {} calls).2.errorCount = 0 + _ := errorCount_run {} calls
  rw [hasErrors, decide_eq_true_iff, hcount, Nat.zero_add, List.countP_pos_iff]
  simp only [Diagnostic.isError, Severity.isError, decide_eq_true_iff]

theorem visible_sublist {v w : Verbosity}
    (h : ∀ d : Diagnostic, d.isVisible v = true → d.isVisible w = true) :
    (l.visible v).Sublist (l.visible w) := List.monotone_filter_right _ h

theorem isVisible_quiet (verbose : Bool) (h : d.isVisible { quiet := true, verbose } = true) :
    d.isVisible {} = true := by
  unfold Diagnostic.isVisible at h ⊢
  cases hs : d.severity <;> simp [hs] at h ⊢

theorem isVisible_default (h : d.isVisible {} = true) : d.isVisible { verbose := true } = true := by
  unfold Diagnostic.isVisible at h ⊢
  cases hs : d.severity <;> simp [hs] at h ⊢

theorem filter_isError_visible (l : Log) (v : Verbosity) :
    (l.visible v).filter Diagnostic.isError = l.diagnostics.filter Diagnostic.isError := by
  rw [visible, List.filter_filter]
  apply List.filter_congr
  intro d _
  rw [Bool.and_eq_left_iff_imp]
  exact fun h => d.isVisible_of_error (of_decide_eq_true h) v

/--
A fresh log after any calls: nothing that was given to it is lost, repeated or moved, whatever of it
was taken out; errors and warnings are counted as they were given, and errors are never forgotten.
What is shown leaves out no error, changes no order, and grows from quiet over default to verbose.
-/
theorem run_keeps_all (calls : List Call) :
    let (answers, l) := run {} calls
    taken answers ++ l.diagnostics = emitted calls ∧
    (∀ before answer after, answers = before ++ (.diagnostics, answer) :: after →
      taken before ++ answer = emitted (before.map Prod.fst)) ∧
    l.errorCount = (emitted calls).countP Diagnostic.isError ∧
    l.warningCount = (emitted calls).countP Diagnostic.isWarning ∧
    (l.hasErrors = true ↔ ∃ d ∈ emitted calls, d.severity = .error) ∧
    (l.hasErrors = true → ∀ more, (run {} (calls ++ more)).2.hasErrors = true) ∧
    (∀ v, (l.visible v).Sublist l.diagnostics ∧
      (l.visible v).filter Diagnostic.isError = l.diagnostics.filter Diagnostic.isError) ∧
    (∀ verbose, (l.visible { quiet := true, verbose }).Sublist (l.visible {})) ∧
    (l.visible {}).Sublist (l.visible { verbose := true }) := by
  have herrors : (run {} calls).2.errorCount = 0 + _ := errorCount_run {} calls
  have hwarnings : (run {} calls).2.warningCount = 0 + _ := warningCount_run {} calls
  rw [Nat.zero_add] at herrors hwarnings
  refine ⟨taken_run {} calls, fun _ _ _ => answer_run, herrors, hwarnings,
    hasErrors_run_iff calls, fun h more => ?_,
    fun v => ⟨List.filter_sublist, filter_isError_visible _ v⟩,
    fun verbose => visible_sublist fun d => isVisible_quiet verbose,
    visible_sublist fun d => isVisible_default⟩
  obtain ⟨d, hd, herror⟩ := (hasErrors_run_iff calls).1 h
  refine (hasErrors_run_iff _).2 ⟨d, ?_, herror⟩
  rw [emitted_append]
  exact List.mem_append_left _ hd

end Log

end Schematics

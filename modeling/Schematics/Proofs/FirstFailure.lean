import Schematics.Proofs.Progress

namespace Schematics

namespace Stage

theorem ne_of_mem_before {stage : Stage} : ∀ t ∈ stage.before, t ≠ stage := by
  cases stage <;> decide

theorem ne_of_mem_after {stage : Stage} : ∀ t ∈ stage.after, t ≠ stage := by
  cases stage <;> decide

theorem ne_of_mem_before_after {stage : Stage} : ∀ t ∈ stage.before, ∀ u ∈ stage.after, t ≠ u := by
  cases stage <;> decide

theorem key_ne_nameKey (stage : Stage) : stage.key ≠ Document.nameKey := by
  cases stage <;> decide

end Stage

namespace Document

variable {o : ReadOptions} {root root' : Fields} {stage : Stage} {earlier later : Fields}
  {name : String} {body : Json} {s : Schematic} {cause : Fault}

/-- The document without the sections after a stage, nor what stands in its own from an entry on. -/
def above (stage : Stage) (name : String) (root : Fields) : Fields :=
  (root.filter fun f => f.1 ∉ stage.after.map Stage.key).map fun f =>
    (f.1, if f.1 = stage.key then .object (f.2.fieldsOf.takeWhile fun e => e.1 ≠ name) else f.2)

theorem lookup_above (key : String) : (above stage name root).lookup key =
    (if key ∉ stage.after.map Stage.key then root.lookup key else none).map fun j =>
      if key = stage.key then .object (j.fieldsOf.takeWhile fun e => e.1 ≠ name) else j := by
  rw [above, lookup_map fun key (j : Json) =>
    if key = stage.key then .object (j.fieldsOf.takeWhile fun e => e.1 ≠ name) else j,
    lookup_filter (· ∉ stage.after.map Stage.key)]
  simp

theorem key_mem_after_iff {t : Stage} : t.key ∈ stage.after.map Stage.key ↔ t ∈ stage.after :=
  List.mem_map_of_injective fun _ _ => Stage.key_injective

theorem lookup_above_nameKey : (above stage name root).lookup nameKey = root.lookup nameKey := by
  have hname : nameKey ∉ stage.after.map Stage.key := by
    simpa using fun t _ => t.key_ne_nameKey
  simp [lookup_above, hname, stage.key_ne_nameKey.symm]

theorem lookup_above_of_before {t : Stage} (h : t ∈ stage.before) :
    (above stage name root).lookup t.key = root.lookup t.key := by
  have hafter : t ∉ stage.after := fun hm => Stage.ne_of_mem_before_after t h t hm rfl
  have hown : t.key ≠ stage.key := fun heq => Stage.ne_of_mem_before t h (Stage.key_injective heq)
  rw [lookup_above, if_pos (key_mem_after_iff.not.2 hafter)]
  simp [hown]

theorem lookup_above_of_after {t : Stage} (h : t ∈ stage.after) :
    (above stage name root).lookup t.key = none := by
  rw [lookup_above, if_neg (not_not.2 (key_mem_after_iff.2 h))]
  rfl

theorem lookup_above_self (hnames : ((earlier ++ (name, body) :: later).map Prod.fst).Nodup)
    (h : root.lookup stage.key = some (.object (earlier ++ (name, body) :: later))) :
    (above stage name root).lookup stage.key = some (.object earlier) := by
  have hafter : stage ∉ stage.after := fun hm => Stage.ne_of_mem_after stage hm rfl
  have hnew : ∀ e ∈ earlier, e.1 ≠ name := by
    rw [List.map_append] at hnames
    rintro e he rfl
    exact (List.nodup_append.1 hnames).2.2 e.1 (List.mem_map_of_mem he) e.1 List.mem_cons_self rfl
  have htake : (earlier ++ (name, body) :: later).takeWhile (fun e => e.1 ≠ name) = earlier := by
    rw [List.takeWhile_append_of_pos (by simpa using hnew)]
    simp
  rw [lookup_above, if_pos (key_mem_after_iff.not.2 hafter), h, Option.map_some, if_pos rfl,
    Json.fieldsOf, htake]

theorem readSections_of_none {stages : List Stage}
    (h : ∀ t ∈ stages, root.lookup t.key = none) :
    (stages.foldlM (readSection o root) s).result = .ok s := by
  rw [Reported.result_foldlM]
  induction stages with
  | nil => rfl
  | cons t rest ih =>
    rw [List.forall_mem_cons] at h
    rw [List.foldlM_cons, readSection_of_none h.1]
    exact ih h.2

theorem Meets.congr (h : Meets o root stage earlier name body s)
    (htitle : root'.lookup nameKey = root.lookup nameKey)
    (hbefore : ∀ t ∈ stage.before, root'.lookup t.key = root.lookup t.key)
    (hlisted : root'.lookup stage.key = some (.object (earlier ++ (name, body) :: later))) :
    Meets o root' stage earlier name body s := by
  obtain ⟨-, title, hlookup, hmade⟩ := h
  refine ⟨⟨later, hlisted⟩, title, htitle.trans hlookup, ?_⟩
  rw [readAbove, readSections_congr hbefore]
  exact hmade

theorem Meets.read_above (h : Meets o root stage earlier name body s)
    (hdoc : (Json.object root).Distinct) :
    (read o (.object (above stage name root))).result = .ok s := by
  obtain ⟨_, _, -, hmirrors⟩ := h.mirrors hdoc
  obtain ⟨⟨later, hlisted⟩, title, htitle, hmade⟩ := h
  obtain ⟨s', hbefore, hearlier⟩ := bind_eq_ok_iff.1 hmade
  have hheader : readHeader (.object (above stage name root)) =
      .ok (title, above stage name root) :=
    readHeader_eq_ok_iff.2 ⟨rfl, lookup_above_nameKey.trans htitle⟩
  have hsections : (Stage.all.foldlM (readSection o (above stage name root))
      (Schematic.new title)).result = .ok s := by
    have hown := lookup_above_self (hdoc.of_lookup hlisted).names hlisted
    -- The stages before read as they did, the entry's own stage only what stands above the entry,
    -- and the stages after find nothing.
    rw [Reported.result_foldlM, stage.all_eq, List.foldlM_append, ← Reported.result_foldlM,
      readSections_congr fun _ => lookup_above_of_before, bind_eq_ok_iff]
    refine ⟨s', hbefore, ?_⟩
    rw [List.foldlM_cons, bind_eq_ok_iff, readSection_of_lookup hown]
    refine ⟨s, hearlier, ?_⟩
    rw [← Reported.result_foldlM]
    exact readSections_of_none fun _ => lookup_above_of_after
  simp only [read, Reported.result_bind, Reported.result_ofExcept, bind_eq_ok_iff]
  exact ⟨_, hheader, s, hsections, verified_eq_ok hmirrors.verify⟩

/--
A document that fails with an entry fails with the first that cannot be entered: what stands above
it can be read, the entry alone is refused by what that makes, with the same cause, and every
document that is the same so far fails alike.
-/
theorem read_fails_at_first (o : ReadOptions) {doc : Json} (hdoc : doc.Distinct) {stage : Stage}
    {name : String} {cause : Fault}
    (h : (read o doc).result = .error (.entry stage name cause)) :
    ∃ root earlier body later, doc = .object root ∧
      root.lookup stage.key = some (.object (earlier ++ (name, body) :: later)) ∧
      (∃ s, (read o (.object (above stage name root))).result = .ok s ∧
        (readEntry o.delimiter s stage name body).result = .error cause) ∧
      ∀ root' later', root'.lookup nameKey = root.lookup nameKey →
        (∀ t ∈ stage.before, root'.lookup t.key = root.lookup t.key) →
        root'.lookup stage.key = some (.object (earlier ++ (name, body) :: later')) →
        (read o (.object root')).result = .error (.entry stage name cause) := by
  obtain ⟨root, earlier, body, s, rfl, hmeets, hcause⟩ := read_eq_entry_error_iff.1 h
  obtain ⟨later, hlisted⟩ := hmeets.listed
  refine ⟨root, earlier, body, later, rfl, hlisted, ⟨s, hmeets.read_above hdoc, hcause⟩, ?_⟩
  intro root' later' htitle hbefore hlisted'
  exact read_eq_entry_error_iff.2
    ⟨root', earlier, body, s, rfl, hmeets.congr htitle hbefore hlisted', hcause⟩

def presses : Json :=
  .object [
    ("connections", .int 0),
    ("schematicName", .string "presses"),
    ("nodeTypes", .object [("Press", .object [("portTypes", .object [])])]),
    ("nodes", .object [
      ("first", .object [("type", .string "Press")]),
      ("second", .object [("type", .string "Mill")]),
      ("third", .null)])]

theorem read_fails_at_first_presses :
    presses.Distinct ∧
    (read {} presses).result = .error (.entry .nodes "second" (.undeclared .nodeType "Mill")) ∧
    ∃ root s, presses = .object root ∧
      (read {} (.object (above .nodes "second" root))).result = .ok s := by
  have hdoc : presses.Distinct := by
    simp [presses, Json.Distinct, Json.DistinctFields]
  have hfails : (read {} presses).result =
      .error (.entry .nodes "second" (.undeclared .nodeType "Mill")) := rfl
  obtain ⟨root, -, -, -, hroot, -, ⟨s, hs, -⟩, -⟩ := read_fails_at_first {} hdoc hfails
  exact ⟨hdoc, hfails, root, s, hroot, hs⟩

end Document

end Schematics

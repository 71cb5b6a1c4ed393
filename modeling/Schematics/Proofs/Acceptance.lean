import Schematics.Proofs.DocumentReading

namespace Schematics

variable {doc : Sections} {delimiter : Char}

theorem fresh_of_instance {earlier later : List Entry} {e : Entry} (hc : e.1.category? = none)
    (hnames : ((doc e.1).map Prod.fst).Nodup) (h : doc.inOrder = earlier ++ e :: later) :
    Fresh earlier e := by
  rw [Sections.sectionsOf_own h, List.map_append, List.map_cons] at hnames
  have hnew : e.2.1 ∉ (sectionsOf earlier e.1).map Prod.fst := fun hm =>
    (List.nodup_append.1 hnames).2.2 _ hm _ List.mem_cons_self rfl
  unfold Fresh
  rw [hc]
  exact hnew

def typeName? (e : Entry) : Option String := e.1.category?.map fun _ => e.2.1

theorem names_typesOf (done : List Entry) :
    (typesOf done).map (fun t => t.2.1) = done.filterMap typeName? := by
  rw [typesOf, List.map_filterMap]
  apply List.filterMap_congr
  intro e _
  cases hc : e.1.category? <;> simp [typeName?, hc]

theorem fresh_iff (hnames : ∀ stage, ((doc stage).map Prod.fst).Nodup) :
    (∀ earlier e later, doc.inOrder = earlier ++ e :: later → Fresh earlier e) ↔
      doc.typeNames.Nodup := by
  have hbase : BaseType.names.Nodup := by decide
  rw [Sections.typeNames, ← Sections.typesOf_inOrder, names_typesOf,
    nodup_append_filterMap_iff hbase]
  constructor
  · intro h earlier e later hsplit name hname
    obtain ⟨c, hc, rfl⟩ := Option.map_eq_some_iff.1 hname
    have hfresh := h earlier e later hsplit
    rw [Fresh, hc, names_typesOf] at hfresh
    exact hfresh
  · intro h earlier e later hsplit
    cases hc : e.1.category? with
    | none => exact fresh_of_instance hc (hnames e.1) hsplit
    | some c =>
      rw [Fresh, hc, names_typesOf]
      exact h earlier e later hsplit e.2.1 (by simp [typeName?, hc])

theorem proper_iff : (∀ earlier e later, doc.inOrder = earlier ++ e :: later →
      doc.Proper delimiter (sectionsOf earlier e.1) e.2.2 e.1) ↔
    ∀ stage earlier name body later, doc stage = earlier ++ (name, body) :: later →
      doc.Proper delimiter earlier body stage := by
  constructor
  · intro h stage above name body below hsection
    obtain ⟨earlier, later, hsplit, rfl⟩ := Sections.exists_inOrder_eq hsection
    exact h earlier _ later hsplit
  · intro h earlier e later hsplit
    exact h e.1 _ e.2.1 e.2.2 _ (Sections.sectionsOf_own hsplit)

theorem admitted_iff (hnames : ∀ stage, ((doc stage).map Prod.fst).Nodup) :
    (∀ earlier e later, doc.inOrder = earlier ++ e :: later → Admitted doc delimiter earlier e) ↔
      doc.typeNames.Nodup ∧ ∀ stage earlier name body later,
        doc stage = earlier ++ (name, body) :: later → doc.Proper delimiter earlier body stage := by
  rw [← fresh_iff hnames, ← proper_iff]
  constructor
  · intro h
    exact ⟨fun earlier e later hsplit => (h earlier e later hsplit).1,
      fun earlier e later hsplit => (h earlier e later hsplit).2⟩
  · rintro ⟨hfresh, hproper⟩ earlier e later hsplit
    exact ⟨hfresh earlier e later hsplit, hproper earlier e later hsplit⟩

namespace Document

theorem distinct_names {root : Fields} (h : (Json.object root).Distinct) (stage : Stage) :
    ((sections root stage).map Prod.fst).Nodup := by
  rw [sections_eq, List.map_map]
  exact (h.given stage.key).names

theorem read_succeeds_iff (o : ReadOptions) {doc : Json} (hdoc : doc.Distinct) :
    (∃ s, (read o doc).result = .ok s) ↔
      ∃ root, doc = .object root ∧ Acceptable o.delimiter root := by
  simp only [read_eq_ok_iff hdoc]
  constructor
  · rintro ⟨s, name, root, rfl, hname, hlayout, hrun⟩
    have hadmitted := (run_entries name (distinct_bodies hdoc)).1.1 ⟨s, hrun⟩
    obtain ⟨hnames, hentries⟩ := (admitted_iff (distinct_names hdoc)).1 hadmitted
    exact ⟨root, rfl, ⟨name, hname⟩, fun stage => (hlayout stage).1, fun stage => (hlayout stage).2,
      hnames, hentries⟩
  · rintro ⟨root, rfl, ⟨name, hname⟩, hlayout, hbodies, hnames, hentries⟩
    have hadmitted := (admitted_iff (distinct_names hdoc)).2 ⟨hnames, hentries⟩
    obtain ⟨s, hrun⟩ := (run_entries name (distinct_bodies hdoc)).1.2 hadmitted
    exact ⟨s, name, root, rfl, hname, fun stage => ⟨hlayout stage, hbodies stage⟩, hrun⟩

def boilers : Json :=
  .object [
    ("schematicName", .string "boilers"),
    ("userDefinedTypes", .object [
      ("Row", .object [("elementType", .string "Int")]),
      ("Grid", .object [("elementType", .string "Row")])]),
    ("portTypes", .object [("Port", .object [("attributes", .object [("width", .string "Int")])])]),
    ("nodeTypes", .object [
      ("Vessel", .object [("attributes", .object [("marks", .string "Grid")]),
        ("portTypes", .object [("in", .string "Port")])]),
      ("Boiler", .object [("portTypes", .object [("out", .string "Port")]),
        ("supertype", .string "Vessel")])]),
    ("connectionTypes", .object [("Pipe", .object [])]),
    ("nodes", .object [
      ("v", .object [("type", .string "Vessel")]),
      ("b", .object [("type", .string "Boiler"),
        ("attributes", .object [("marks", .array [.array [.int 1, .int 2], .array []])]),
        ("portAttrs", .object [("in", .object [("width", .int 3)])])])]),
    ("connections", .object [
      ("p", .object [("type", .string "Pipe"), ("from", .string "b:out"), ("to", .string "v:in")])])]

theorem boilers_distinct : boilers.Distinct := by
  simp [boilers, Json.Distinct, Json.DistinctFields, Json.DistinctItems]

theorem exists_read_boilers : ∃ s, (read {} boilers).result = .ok s := by
  obtain ⟨s, hs, -⟩ := exists_ok_of_any (x := (read {} boilers).result) (p := fun _ => true)
    (by decide +kernel)
  exact ⟨s, hs⟩

theorem read_succeeds_iff_boilers :
    boilers.Distinct ∧ ∃ root, boilers = .object root ∧ Acceptable ':' root :=
  ⟨boilers_distinct, (read_succeeds_iff {} boilers_distinct).1 exists_read_boilers⟩

end Document

end Schematics

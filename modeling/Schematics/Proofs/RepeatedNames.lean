import Mathlib
import Schematics.Proofs.Agreement

/-!
A name that stands twice in a section of a document text. When the text is read as a tree, the last
body takes the place of the first and those before it are gone, so the entries are read as though the
name stood once; that it was repeated is not reported.
-/

namespace Schematics

universe u

namespace Json

section Merging

variable {α : Type u} {fields : List (String × α)} {name other : String} {a b : α}

theorem mem_names_putField : name ∈ (putField fields name a).map Prod.fst := by
  induction fields with
  | nil => simp [putField]
  | cons f rest ih =>
    by_cases ho : f.1 = name
    · simp [putField, ho]
    · simp [putField, ho, ih]

theorem mem_names_putField_of_mem (h : name ∈ fields.map Prod.fst) :
    name ∈ (putField fields other a).map Prod.fst := by
  induction fields with
  | nil => exact nomatch h
  | cons f rest ih =>
    by_cases ho : f.1 = other
    · simpa [putField, ho] using h
    · obtain rfl | h := List.mem_cons.1 h
      · simp [putField, ho]
      · simp only [putField, if_neg ho, List.map_cons]
        exact List.mem_cons_of_mem _ (ih h)

theorem putField_putField : putField (putField fields name a) name b = putField fields name b := by
  induction fields with
  | nil => simp [putField]
  | cons f rest ih =>
    by_cases ho : f.1 = name
    · simp [putField, ho]
    · simp [putField, ho, ih]

theorem putField_comm (h : name ∈ fields.map Prod.fst) (hne : other ≠ name) :
    putField (putField fields other a) name b = putField (putField fields name b) other a := by
  induction fields with
  | nil => exact nomatch h
  | cons f rest ih =>
    by_cases hname : f.1 = name
    · have hother : name ≠ other := hne.symm
      simp [putField, hname, hother]
    · have hrest : name ∈ rest.map Prod.fst :=
        (List.mem_cons.1 h).resolve_left fun heq => hname heq.symm
      by_cases hother : f.1 = other
      · simp [putField, hother, hne]
      · simp [putField, hname, hother, ih hrest]

theorem putField_foldl (between : List (String × α)) (h : name ∈ fields.map Prod.fst) :
    putField (between.foldl (fun merged f => putField merged f.1 f.2) fields) name b =
      (between.filter fun f => f.1 ≠ name).foldl (fun merged f => putField merged f.1 f.2)
        (putField fields name b) := by
  induction between generalizing fields with
  | nil => rfl
  | cons f rest ih =>
    rw [List.foldl_cons, ih (mem_names_putField_of_mem h)]
    by_cases hname : f.1 = name
    · rw [List.filter_cons_of_neg (by simpa using hname), hname, putField_putField]
    · rw [List.filter_cons_of_pos (by simpa using hname), List.foldl_cons, putField_comm h hname]

theorem mergeFields_repeated (front between back : List (String × α)) :
    mergeFields (front ++ (name, a) :: (between ++ (name, b) :: back)) =
      mergeFields (front ++ (name, b) :: ((between.filter fun f => f.1 ≠ name) ++ back)) := by
  simp only [mergeFields, List.foldl_append, List.foldl_cons]
  rw [putField_foldl between mem_names_putField, putField_putField]

end Merging

theorem collapseFields_eq_map (fields : List (String × Json)) :
    collapseFields fields = fields.map fun f => (f.1, f.2.collapse) := by
  induction fields with
  | nil => rfl
  | cons f rest ih => rw [collapseFields, ih, List.map_cons]

theorem collapse_repeated (front between back : List (String × Json)) (name : String) (a b : Json) :
    collapse (.object (front ++ (name, a) :: (between ++ (name, b) :: back))) =
      collapse (.object (front ++ (name, b) :: ((between.filter fun f => f.1 ≠ name) ++ back))) := by
  have hfilter : (between.filter fun f => f.1 ≠ name).map (fun f => (f.1, f.2.collapse)) =
      (between.map fun f => (f.1, f.2.collapse)).filter fun f => f.1 ≠ name := by
    rw [List.filter_map]
    rfl
  simp only [collapse, collapseFields_eq_map, List.map_append, List.map_cons, hfilter,
    mergeFields_repeated]

theorem collapse_object_congr (front back : List (String × Json)) (name : String) {j j' : Json}
    (h : j.collapse = j'.collapse) : collapse (.object (front ++ (name, j) :: back)) =
      collapse (.object (front ++ (name, j') :: back)) := by
  simp only [collapse, collapseFields_eq_map, List.map_append, List.map_cons, h]

end Json

namespace Schematic

variable {s : Schematic}

theorem Grounded.find?_of_multipleDefinition (h : s.Grounded) {name m : String} {shape : Shape}
    (hm : s.checkType name shape = .error (.multipleDefinition m)) :
    m = name ∧ (s.find? s.typeNames name).isSome = true := by
  cases h.refused_of_checkType hm with
  | taken hid => exact ⟨rfl, Option.isSome_of_eq_some (typeId_eq_ok_iff.1 hid)⟩
  | redeclared _ _ hredeclares => exact nomatch hredeclares

end Schematic

namespace Document

variable {o : ReadOptions} {root earlier : Fields} {stage : Stage} {name : String} {s : Schematic}

theorem other_section_of_earlier {doc : Sections} {done later : List Entry} {other : Stage}
    {e e' : String × Fields} (hnames : ((doc stage).map Prod.fst).Nodup)
    (hsplit : doc.inOrder = done ++ (stage, e) :: later) (he : e' ∈ sectionsOf done other)
    (hname : e'.1 = e.1) : other ≠ stage ∧ e.1 ∈ (doc other).map Prod.fst := by
  constructor
  · rintro rfl
    rw [Sections.sectionsOf_own hsplit, List.map_append] at hnames
    exact (List.nodup_append.1 hnames).2.2 _ (List.mem_map_of_mem he) _ List.mem_cons_self hname
  · have hmem : (other, e') ∈ doc.inOrder := hsplit ▸ List.mem_append_left _ (mem_sectionsOf.1 he)
    exact List.mem_map.2 ⟨e', Sections.mem_inOrder.1 hmem, hname⟩

theorem Meets.taken {body : Json} (h : Meets o root stage earlier name body s)
    (hdoc : (Json.object root).Distinct) {m : String}
    (hm : (readEntry o.delimiter s stage name body).result = .error (.multipleDefinition m)) :
    m = name ∧ (name ∈ BaseType.names ∨
      ∃ c : Category, c.stage ≠ stage ∧ name ∈ (sections root c.stage).map Prod.fst) := by
  have htypes : stage ∈ Stage.types := h.failsIn hdoc _ hm
  obtain ⟨done, rest, hsplit, hmirrors⟩ := h.mirrors hdoc
  cases body with
  | null | bool _ | int _ | real _ | string _ | array _ => cases Except.error.inj hm
  | object body =>
    obtain ⟨c, rfl⟩ | rfl | rfl | rfl := stage.types_or_instances
    · rw [readEntry, readBody_type, bind_eq_error_iff] at hm
      obtain hread | ⟨shape, -, hadd⟩ := hm
      · cases resolves_readShape hmirrors.built.consistent c body _ hread
      · rw [map_eq_error_iff, Schematic.addShape_eq, Schematic.addType, bind_eq_error_iff] at hadd
        obtain hcheck | ⟨_, -, hrecord⟩ := hadd
        · obtain ⟨rfl, htaken⟩ := hmirrors.built.grounded.find?_of_multipleDefinition hcheck
          refine ⟨rfl, ?_⟩
          by_contra hfree
          have hnew : s.find? s.typeNames m = none := by
            refine hmirrors.find?_typeNames_eq_none_iff.2 fun hmem => hfree ?_
            obtain hbase | htype := List.mem_append.1 hmem
            · exact .inl hbase
            · obtain ⟨⟨c', e⟩, he, hname⟩ := List.mem_map.1 htype
              exact .inr ⟨c', other_section_of_earlier (distinct_names hdoc c.stage) hsplit
                (mem_typesOf.1 he) hname⟩
          rw [hnew] at htaken
          cases htaken
        · cases hrecord
    all_goals exact absurd htypes (by decide)

def withSection (front : Fields) (stage : Stage) (entries back : Fields) : Json :=
  .object (front ++ (stage.key, .object entries) :: back)

/--
A text that gives a name twice in a section reads, log and all, as though it gave the last body where
the first stands, and none else. That the name is repeated is never the cause of a failure: no
instance is said to be there already, and a type only when a base type or another section has its
name.
-/
theorem readText_repeated (o : ReadOptions) {text name : String} {stage : Stage} {a b : Json}
    {front back above between below : Fields}
    (h : Json.spelled text = .ok (withSection front stage
      (above ++ (name, a) :: (between ++ (name, b) :: below)) back)) :
    readText o text = read o (withSection front stage
      (above ++ (name, b) :: ((between.filter fun e => e.1 ≠ name) ++ below)) back).collapse ∧
    ∀ stage' other cause, (readText o text).result = .error (.entry stage' other cause) →
      (∀ space m, cause ≠ .multipleAssignment space m) ∧
      ∀ m, cause = .multipleDefinition m → m = other ∧ ∃ root,
        Json.parse text = .ok (.object root) ∧ (other ∈ BaseType.names ∨
          ∃ c : Category, c.stage ≠ stage' ∧ other ∈ (sections root c.stage).map Prod.fst) := by
  have hparse : Json.parse text = .ok (withSection front stage
      (above ++ (name, b) :: ((between.filter fun e => e.1 ≠ name) ++ below)) back).collapse := by
    rw [Json.parse, h]
    exact congrArg Except.ok (Json.collapse_object_congr front back stage.key
      (Json.collapse_repeated above between below name a b))
  have hread : readText o text = read o (withSection front stage
      (above ++ (name, b) :: ((between.filter fun e => e.1 ≠ name) ++ below)) back).collapse := by
    rw [readText, hparse]
  refine ⟨hread, fun stage' other cause hfails => ?_⟩
  have hdistinct := Json.distinct_of_parse hparse
  rw [hread] at hfails
  obtain ⟨root, earlier, body, s, hroot, hmeets, hcause⟩ := read_eq_entry_error_iff.1 hfails
  rw [hroot] at hdistinct hparse
  have harises := hmeets.failsIn hdistinct cause hcause
  constructor
  · rintro space m rfl
    exact harises
  · rintro m rfl
    obtain ⟨rfl, htaken⟩ := hmeets.taken hdistinct hcause
    exact ⟨rfl, root, hparse, htaken⟩

def shelves : String :=
  "\x7b\"schematicName\":\"shelves\",\"nodeTypes\":\x7b\"Rack\":\x7b\"portTypes\":\x7b\x7d\x7d\x7d," ++
    "\"nodes\":\x7b\"a\":\x7b\"type\":\"Shelf\"\x7d,\"a\":\x7b\"type\":\"Rack\"\x7d\x7d\x7d"

def shelvesHead : Fields :=
  [("schematicName", .string "shelves"),
    ("nodeTypes", .object [("Rack", .object [("portTypes", .object [])])])]

theorem spelled_shelves : Json.spelled shelves = .ok (withSection shelvesHead .nodes
    ([] ++ ("a", .object [("type", .string "Shelf")]) ::
      ([] ++ ("a", .object [("type", .string "Rack")]) :: [])) []) := by
  cbv

theorem exists_readText_shelves : ∃ s, (readText {} shelves).result = .ok s := by
  obtain ⟨s, hs, -⟩ := exists_ok_of_any (x := (readText {} shelves).result) (p := fun _ => true)
    (by decide +kernel)
  exact ⟨s, hs⟩

theorem shelves_repeats_unnoticed :
    Json.spelled shelves = .ok (withSection shelvesHead .nodes
      [("a", .object [("type", .string "Shelf")]), ("a", .object [("type", .string "Rack")])] []) ∧
    ∃ s, (readText {} shelves).result = .ok s := ⟨spelled_shelves, exists_readText_shelves⟩

theorem readText_repeated_shelves :
    (∃ s, (readText {} shelves).result = .ok s) ∧
    readText {} shelves = read {}
      (withSection shelvesHead .nodes [("a", .object [("type", .string "Rack")])] []).collapse :=
  ⟨exists_readText_shelves, (readText_repeated {} spelled_shelves).1⟩

end Document

end Schematics

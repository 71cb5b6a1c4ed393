import Schematics.Proofs.TypedReading
import Schematics.Proofs.TypeOrder

namespace Schematics

def Json.itemAt? : Json → List Nat → Option Json
  | raw, [] => some raw
  | .array items, i :: path => items[i]?.bind fun raw => raw.itemAt? path
  | _, _ :: _ => none

def itemName (name : String) (path : List Nat) : String :=
  path.foldl (fun name i => s!"{name}[{i}]") name

inductive Precedes : List Nat → List Nat → Prop
  | head {i j : Nat} {p q : List Nat} (h : i < j) : Precedes (i :: p) (j :: q)
  | tail {i : Nat} {p q : List Nat} (h : Precedes p q) : Precedes (i :: p) (i :: q)

variable {s : Schematic} {t u element : TypeId} {d : TypeDef} {name : String} {raw : Json}
  {items : List Json} {f : Fault} {i : Nat} {path p q : List Nat}

namespace Json

theorem itemAt?_nil (raw : Json) : raw.itemAt? [] = some raw := by cases raw <;> rfl

theorem itemAt?_cons {j : Json} : raw.itemAt? (i :: path) = some j ↔
    ∃ items item, raw = .array items ∧ items[i]? = some item ∧ item.itemAt? path = some j := by
  cases raw with
  | array items => simp [itemAt?, Option.bind_eq_some_iff]
  | null | bool _ | int _ | real _ | string _ | object _ => simp [itemAt?]

theorem itemAt?_append {j : Json} : raw.itemAt? (p ++ q) = some j ↔
    ∃ item, raw.itemAt? p = some item ∧ item.itemAt? q = some j := by
  induction p generalizing raw with
  | nil => simp [itemAt?_nil]
  | cons i p ih =>
    simp only [List.cons_append, itemAt?_cons, ih]
    constructor
    · rintro ⟨items, item, rfl, hi, below, hp, hq⟩
      exact ⟨below, ⟨items, item, rfl, hi, hp⟩, hq⟩
    · rintro ⟨below, ⟨items, item, rfl, hi, hp⟩, hq⟩
      exact ⟨items, item, rfl, hi, below, hp, hq⟩

end Json

theorem Shape.element?_eq_some_iff {shape : Shape} :
    shape.element? = some element ↔ shape = .array element := by
  cases shape <;> simp [Shape.element?]

theorem precedes_cases (p q : List Nat) : p = q ∨ (Precedes p q ∨ Precedes q p) ∨
    (∃ i rest, q = p ++ i :: rest) ∨ ∃ i rest, p = q ++ i :: rest := by
  induction p generalizing q with
  | nil =>
    cases q with
    | nil => exact .inl rfl
    | cons j q => exact .inr (.inr (.inl ⟨j, q, rfl⟩))
  | cons i p ih =>
    cases q with
    | nil => exact .inr (.inr (.inr ⟨i, p, rfl⟩))
    | cons j q =>
      obtain hlt | rfl | hlt := lt_trichotomy i j
      · exact .inr (.inl (.inl (.head hlt)))
      · obtain rfl | (h | h) | ⟨k, rest, rfl⟩ | ⟨k, rest, rfl⟩ := ih q
        · exact .inl rfl
        · exact .inr (.inl (.inl (.tail h)))
        · exact .inr (.inl (.inr (.tail h)))
        · exact .inr (.inr (.inl ⟨k, rest, rfl⟩))
        · exact .inr (.inr (.inr ⟨k, rest, rfl⟩))
      · exact .inr (.inl (.inr (.head hlt)))

namespace Schematic

def elementAfter? (s : Schematic) : TypeId → Nat → Option TypeId
  | t, 0 => some t
  | t, n + 1 =>
    match s.typeDefinition t with
    | .ok d => d.shape.element?.bind fun element => s.elementAfter? element n
    | .error _ => none

theorem elementAfter?_succ {n : Nat} : s.elementAfter? t (n + 1) = some u ↔
    ∃ d, s.typeDefinition t = .ok d ∧ ∃ element, d.shape.element? = some element ∧
      s.elementAfter? element n = some u := by
  rw [elementAfter?]
  cases s.typeDefinition t <;> simp [Option.bind_eq_some_iff]

theorem elementAfter?_add {m n : Nat} : s.elementAfter? t (m + n) = some u ↔
    ∃ between, s.elementAfter? t m = some between ∧ s.elementAfter? between n = some u := by
  induction m generalizing t with
  | zero => simp [elementAfter?]
  | succ m ih =>
    simp only [Nat.succ_add, elementAfter?_succ, ih]
    constructor
    · rintro ⟨d, hd, element, he, between, hm, hn⟩
      exact ⟨between, ⟨d, hd, element, he, hm⟩, hn⟩
    · rintro ⟨between, ⟨d, hd, element, he, hm⟩, hn⟩
      exact ⟨d, hd, element, he, between, hm, hn⟩

theorem Takes.itemAt? (h : s.Takes t raw) {j : Json} (hj : raw.itemAt? path = some j) :
    ∃ u, s.elementAfter? t path.length = some u ∧ s.Takes u j := by
  induction path generalizing t raw with
  | nil =>
    rw [Json.itemAt?_nil, Option.some.injEq] at hj
    exact ⟨t, rfl, hj ▸ h⟩
  | cons i path ih =>
    obtain ⟨items, item, rfl, hi, hitem⟩ := Json.itemAt?_cons.1 hj
    obtain ⟨d, hd, element, hshape, hitems⟩ := takes_array_iff.1 h
    obtain ⟨u, hu, htakes⟩ := ih (hitems item (List.mem_of_getElem? hi)) hitem
    exact ⟨u, elementAfter?_succ.2 ⟨d, hd, element, by rw [hshape]; rfl, hu⟩, htakes⟩

/--
The path leads to a value that fails with the fault, when it is read alone for the type of its depth
and under the name with the indices. It does not fail for an item of its own, and what stands left of
it is taken.
-/
structure FailsAt (s : Schematic) (t : TypeId) (name : String) (raw : Json) (f : Fault)
    (path : List Nat) (item : Json) (u : TypeId) (d : TypeDef) : Prop where
  reached : raw.itemAt? path = some item
  type : s.elementAfter? t path.length = some u
  registered : s.typeDefinition u = .ok d
  fault : AttributeValue.read s u (itemName name path) item = .error f
  whole : ∀ items, item = .array items → d.shape.element? = none
  before : ∀ earlier, Precedes earlier path → ∀ j, raw.itemAt? earlier = some j →
    ∃ u', s.elementAfter? t earlier.length = some u' ∧ s.Takes u' j

variable {item item' : Json} {u' : TypeId} {d' : TypeDef} {f' : Fault}

theorem FailsAt.not_takes (h : s.FailsAt t name raw f path item u d) : ¬s.Takes u item := by
  intro htakes
  obtain ⟨v, hv⟩ := (AttributeValue.exists_read_iff s u (itemName name path) item).2 htakes
  exact nomatch h.fault.symm.trans hv

theorem FailsAt.not_precedes (h : s.FailsAt t name raw f p item u d)
    (h' : s.FailsAt t name raw f' q item' u' d') : ¬Precedes p q := by
  intro hpq
  obtain ⟨v, hv, htakes⟩ := h'.before p hpq item h.reached
  obtain rfl := Option.some.inj (h.type.symm.trans hv)
  exact h.not_takes htakes

theorem FailsAt.not_append (h : s.FailsAt t name raw f p item u d)
    (h' : s.FailsAt t name raw f' q item' u' d') (i : Nat) (rest : List Nat) : q ≠ p ++ i :: rest := by
  rintro rfl
  obtain ⟨between, hbetween, hbelow⟩ := Json.itemAt?_append.1 h'.reached
  obtain rfl := Option.some.inj (h.reached.symm.trans hbetween)
  obtain ⟨items, _, rfl, -, -⟩ := Json.itemAt?_cons.1 hbelow
  have htype := h'.type
  rw [List.length_append, elementAfter?_add] at htype
  obtain ⟨between, hbetween, hbelow⟩ := htype
  obtain rfl := Option.some.inj (h.type.symm.trans hbetween)
  obtain ⟨_, hd, element, helement, -⟩ := elementAfter?_succ.1 hbelow
  obtain rfl := Except.ok.inj (h.registered.symm.trans hd)
  exact nomatch (h.whole items rfl).symm.trans helement

theorem FailsAt.unique (h : s.FailsAt t name raw f p item u d)
    (h' : s.FailsAt t name raw f' q item' u' d') : p = q := by
  obtain heq | (hpq | hqp) | ⟨i, rest, heq⟩ | ⟨i, rest, heq⟩ := precedes_cases p q
  · exact heq
  · exact absurd hpq (h.not_precedes h')
  · exact absurd hqp (h'.not_precedes h)
  · exact absurd heq (h.not_append h' i rest)
  · exact absurd heq (h'.not_append h i rest)

theorem FailsAt.fault_eq (h : s.FailsAt t name raw f p item u d)
    (h' : s.FailsAt t name raw f' q item' u' d') : f = f' := by
  obtain rfl := h.unique h'
  obtain rfl := Option.some.inj (h.reached.symm.trans h'.reached)
  obtain rfl := Option.some.inj (h.type.symm.trans h'.type)
  exact Except.error.inj (h.fault.symm.trans h'.fault)

theorem failsAt_nil (hd : s.typeDefinition t = .ok d)
    (hwhole : ∀ items, raw = .array items → d.shape.element? = none)
    (h : AttributeValue.read s t name raw = .error f) : s.FailsAt t name raw f [] raw t d :=
  ⟨Json.itemAt?_nil raw, rfl, hd, h, hwhole, nofun⟩

theorem FailsAt.cons (hd : s.typeDefinition t = .ok d') (hs : d'.shape = .array element)
    (hi : items[i]? = some raw) (htaken : ∀ j < i, ∀ item, items[j]? = some item → s.Takes element item)
    (h : s.FailsAt element s!"{name}[{i}]" raw f path item u d) :
    s.FailsAt t name (.array items) f (i :: path) item u d := by
  have helement : d'.shape.element? = some element := Shape.element?_eq_some_iff.2 hs
  refine ⟨Json.itemAt?_cons.2 ⟨items, raw, rfl, hi, h.reached⟩,
    elementAfter?_succ.2 ⟨d', hd, element, helement, h.type⟩, h.registered, h.fault, h.whole, ?_⟩
  intro earlier hearlier j hj
  cases hearlier with
  | @head k _ rest _ hlt =>
    obtain ⟨_, sibling, ⟨⟩, hk, hbelow⟩ := Json.itemAt?_cons.1 hj
    obtain ⟨v, hv, htakes⟩ := (htaken k hlt sibling hk).itemAt? hbelow
    exact ⟨v, elementAfter?_succ.2 ⟨d', hd, element, helement, hv⟩, htakes⟩
  | @tail _ rest _ hrest =>
    obtain ⟨_, same, ⟨⟩, hk, hbelow⟩ := Json.itemAt?_cons.1 hj
    obtain rfl := Option.some.inj (hi.symm.trans hk)
    obtain ⟨v, hv, htakes⟩ := h.before rest hrest j hbelow
    exact ⟨v, elementAfter?_succ.2 ⟨d', hd, element, helement, hv⟩, htakes⟩

end Schematic

namespace AttributeValue

theorem readItems_eq_error_iff {index : Nat} : readItems s element name index items = .error f ↔
    ∃ i raw, items[i]? = some raw ∧ (∀ j < i, ∀ item, items[j]? = some item → s.Takes element item) ∧
      read s element s!"{name}[{index + i}]" raw = .error f := by
  induction items generalizing index with
  | nil => simp [readItems]
  | cons first rest ih =>
    rw [readItems, bind_eq_error_iff]
    simp only [bind_eq_error_iff, pure_eq_ok, reduceCtorEq, and_false, exists_false, or_false, ih]
    constructor
    · rintro (h | ⟨v, hv, i, raw, hi, htaken, h⟩)
      · exact ⟨0, first, rfl, nofun, h⟩
      · refine ⟨i + 1, raw, hi, fun j hj item hitem => ?_, ?_⟩
        · cases j with
          | zero =>
            obtain rfl := Option.some.inj hitem
            exact (exists_read_iff s element _ first).1 ⟨v, hv⟩
          | succ j => exact htaken j (Nat.lt_of_succ_lt_succ hj) item hitem
        · rwa [← Nat.add_assoc, Nat.add_right_comm]
    · rintro ⟨i, raw, hi, htaken, h⟩
      cases i with
      | zero =>
        obtain rfl := Option.some.inj hi
        exact .inl h
      | succ i =>
        obtain ⟨v, hv⟩ := (exists_read_iff s element s!"{name}[{index}]" first).2
          (htaken 0 i.succ_pos first rfl)
        refine .inr ⟨v, hv, i, raw, hi, fun j hj => htaken (j + 1) (Nat.succ_lt_succ hj), ?_⟩
        rwa [Nat.add_right_comm, Nat.add_assoc]

theorem read_array_eq_error_iff (hd : s.typeDefinition t = .ok d) (hs : d.shape = .array element) :
    read s t name (.array items) = .error f ↔ readItems s element name 0 items = .error f := by
  rw [read.eq_def, hd, ok_bind, hs]
  exact map_eq_error_iff

theorem exists_failsAt (h : s.Grounded) (raw : Json) (hd : s.typeDefinition t = .ok d)
    (hf : read s t name raw = .error f) : ∃ path item u d', s.FailsAt t name raw f path item u d' := by
  induction hn : sizeOf raw using Nat.strongRecOn generalizing t d name raw with
  | ind n ih =>
    by_cases harray : ∃ items element, raw = .array items ∧ d.shape = .array element
    · obtain ⟨items, element, rfl, hs⟩ := harray
      rw [read_array_eq_error_iff hd hs, readItems_eq_error_iff] at hf
      obtain ⟨i, raw, hi, htaken, hraw⟩ := hf
      rw [Nat.zero_add] at hraw
      have hlt : sizeOf raw < n := by
        have hmem := List.sizeOf_lt_of_mem (List.mem_of_getElem? hi)
        rw [← hn, Json.array.sizeOf_spec]
        omega
      have helement : d.shape.element? = some element := Shape.element?_eq_some_iff.2 hs
      obtain ⟨-, e, he, -⟩ :=
        h t d (Schematic.typeDefinition_eq_ok_iff.1 hd) element _ (.element helement)
      obtain ⟨path, item, u, d', hfails⟩ :=
        ih _ hlt raw (Schematic.typeDefinition_of_type? he) hraw rfl
      exact ⟨i :: path, item, u, d', hfails.cons hd hs hi htaken⟩
    · refine ⟨[], raw, t, d, Schematic.failsAt_nil hd (fun items hitems => ?_) hf⟩
      rw [Option.eq_none_iff_forall_ne_some]
      intro element helement
      exact harray ⟨items, element, hitems, Shape.element?_eq_some_iff.1 helement⟩

end AttributeValue

namespace Schematic

/--
When a raw value is not read for a registered type, one path leads to the first part of it that its
type refuses for itself, and the fault is that of reading this part alone under the path's name. No
other fault can be pinned on a path.
-/
theorem Reachable.readDeclared_fails_at_one (h : s.Reachable) (hd : s.typeDefinition t = .ok d)
    (name : String) (raw : Json) (f : Fault) :
    (AttributeValue.readDeclared s (some t) name raw = .error f →
      ∃! path, ∃ item u d', s.FailsAt t name raw f path item u d') ∧
    ∀ path item u d', s.FailsAt t name raw f path item u d' →
      AttributeValue.readDeclared s (some t) name raw = .error f := by
  constructor
  · intro hf
    obtain ⟨path, hpath⟩ := AttributeValue.exists_failsAt h.built.grounded raw hd hf
    refine ⟨path, hpath, ?_⟩
    rintro other ⟨_, _, _, hother⟩
    obtain ⟨_, _, _, hfails⟩ := hpath
    exact hother.unique hfails
  · intro path item u d' hfails
    cases hr : AttributeValue.readDeclared s (some t) name raw with
    | ok v =>
      have htakes := (AttributeValue.exists_read_iff s t name raw).1 ⟨v, hr⟩
      obtain ⟨u', hu', hitem⟩ := htakes.itemAt? hfails.reached
      obtain rfl := Option.some.inj (hfails.type.symm.trans hu')
      exact absurd hitem hfails.not_takes
    | error f' =>
      obtain ⟨_, _, _, _, hfails'⟩ := AttributeValue.exists_failsAt h.built.grounded raw hd hr
      rw [hfails.fault_eq hfails']

def charts : Schematic :=
  (new "charts").run
    [.userDefinedType "Row" (.array BaseType.real), .userDefinedType "Grid" (.array ⟨5⟩)]

theorem readDeclared_fails_at_one_charts : charts.Reachable ∧
    charts.typeDefinition ⟨6⟩ = .ok ⟨some ⟨6⟩, .array ⟨5⟩⟩ ∧
    AttributeValue.readDeclared charts (some ⟨6⟩) "marks"
      (.array [.array [.string "1"], .array [.int 2, .string "fast", .null], .bool true]) =
        .error (.invalidValue "marks[1][1]" "fast" "a finite floating-point number") ∧
    ∃! path, ∃ item u d', charts.FailsAt ⟨6⟩ "marks"
      (.array [.array [.string "1"], .array [.int 2, .string "fast", .null], .bool true])
      (.invalidValue "marks[1][1]" "fast" "a finite floating-point number") path item u d' := by
  have h : charts.Reachable := ⟨_, _, rfl⟩
  have hgrid : charts.typeDefinition ⟨6⟩ = .ok ⟨some ⟨6⟩, .array ⟨5⟩⟩ := rfl
  have hread : AttributeValue.readDeclared charts (some ⟨6⟩) "marks"
      (.array [.array [.string "1"], .array [.int 2, .string "fast", .null], .bool true]) =
        .error (.invalidValue "marks[1][1]" "fast" "a finite floating-point number") := by
    rfl
  exact ⟨h, hgrid, hread, (h.readDeclared_fails_at_one hgrid _ _ _).1 hread⟩

end Schematic

end Schematics

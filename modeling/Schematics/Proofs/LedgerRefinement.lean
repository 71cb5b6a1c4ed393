import Mathlib.Data.List.Nodup
import Schematics.Proofs.Ledger
import Schematics.Proofs.NameMaps
import Schematics.Proofs.TypeChecks

/-!
A schematic answers as the ledger of its accepted registrations does. The ledger of a schematic is
read off its tables; recording an item adds an entry to it, and under consistent indexes every
question has the same answer from both.
-/

namespace Schematics

universe u

variable {κ : Kind} {α β : Type u}

namespace Ledger

theorem row?_ofSlot (l : List (String × α)) (i : Nat) :
    row? l (.ofSlot i : Handle κ) = l[i]? := by
  simp [row?]

theorem row?_eq_some_iff {l : List (String × α)} {id : Handle κ} {e : String × α} :
    row? l id = some e ↔ ∃ i, id = .ofSlot i ∧ l[i]? = some e := by
  constructor
  · intro h
    obtain ⟨i, hi, he⟩ := Option.bind_eq_some_iff.1 h
    exact ⟨i, Handle.slot?_eq_some_iff.1 hi, he⟩
  · rintro ⟨i, rfl, he⟩
    rwa [row?_ofSlot]

theorem row?_map (f : α → β) (l : List (String × α)) (id : Handle κ) :
    row? (l.map fun e => (e.1, f e.2)) id = (row? l id).map fun e => (e.1, f e.2) := by
  cases h : id.slot? <;> simp [row?, h]

theorem handle?_map (f : α → β) (l : List (String × α)) (name : String) :
    (handle? (l.map fun e => (e.1, f e.2)) name : Option (Handle κ)) = handle? l name := by
  simp [handle?, List.findIdx?_map, Function.comp_def]

theorem handle?_eq_some_iff {l : List (String × α)} (h : (l.map Prod.fst).Nodup) {name : String}
    {id : Handle κ} : handle? l name = some id ↔ ∃ a, row? l id = some (name, a) := by
  constructor
  · intro hid
    obtain ⟨i, hi, rfl⟩ := Option.map_eq_some_iff.1 hid
    obtain ⟨hlt, hname, -⟩ := List.findIdx?_eq_some_iff_getElem.1 hi
    refine ⟨l[i].2, ?_⟩
    rw [row?_ofSlot, List.getElem?_eq_getElem hlt]
    simp only [decide_eq_true_eq] at hname
    simp [← hname]
  · rintro ⟨a, ha⟩
    obtain ⟨i, rfl, hi⟩ := row?_eq_some_iff.1 ha
    obtain ⟨hlt, he⟩ := List.getElem?_eq_some_iff.1 hi
    refine Option.map_eq_some_iff.2
      ⟨i, List.findIdx?_eq_some_iff_getElem.2 ⟨hlt, by simp [he], ?_⟩, rfl⟩
    intro j hji
    have hjlt : j < l.length := by omega
    have hne := List.nodup_iff_getElem?_ne_getElem?.1 h j i hji (by simpa using hlt)
    simp only [List.getElem?_map, List.getElem?_eq_getElem hjlt, List.getElem?_eq_getElem hlt, he,
      Option.map_some, ne_eq, Option.some.injEq] at hne
    simpa using hne

theorem lookup_eq_some_iff {l : List (String × α)} (h : (l.map Prod.fst).Nodup) {name : String}
    {a : α} : l.lookup name = some a ↔ ∃ id : Handle κ, row? l id = some (name, a) := by
  rw [lookup_eq_some_iff_mem h, List.mem_iff_getElem?]
  constructor
  · rintro ⟨i, hi⟩
    exact ⟨.ofSlot i, (row?_ofSlot l i).trans hi⟩
  · rintro ⟨id, hid⟩
    obtain ⟨i, -, hi⟩ := row?_eq_some_iff.1 hid
    exact ⟨i, hi⟩

theorem found_eq_ok_iff {space : Namespace} {text : String} {o : Option α} {a : α} :
    found space text o = .ok a ↔ o = some a := by
  cases o <;> simp [found]

end Ledger

namespace InstanceTable

def listed (names : Interner) (t : InstanceTable κ α) : List (String × α) :=
  t.items.values.map fun e => ((names.resolve? e.symbol).getD s!"#{e.symbol.index}", e.value)

variable {names : Interner} {t : InstanceTable κ α}

theorem length_listed (names : Interner) (t : InstanceTable κ α) :
    (t.listed names).length = t.size := by
  simp [listed, Arena.values, InstanceTable.size, Arena.size]

theorem next_eq (names : Interner) (t : InstanceTable κ α) :
    t.items.next = .ofSlot (t.listed names).length := by
  rw [length_listed]
  rfl

theorem row?_listed (names : Interner) (t : InstanceTable κ α) (id : Handle κ) :
    Ledger.row? (t.listed names) id = (t.items.get? id).map fun e =>
      ((names.resolve? e.symbol).getD s!"#{e.symbol.index}", e.value) := by
  cases h : id.slot? <;> simp [Ledger.row?, Arena.get?, listed, Arena.values, h]

theorem Consistent.row?_eq_some_iff (h : t.Consistent names) (hn : names.Consistent)
    {id : Handle κ} {name : String} {v : α} :
    Ledger.row? (t.listed names) id = some (name, v) ↔
      ∃ symbol, names.get? name = some symbol ∧ t.items.get? id = some ⟨symbol, v⟩ := by
  rw [row?_listed]
  constructor
  · intro hv
    obtain ⟨⟨symbol, w⟩, hw, he⟩ := Option.map_eq_some_iff.1 hv
    obtain ⟨other, ho⟩ := h.named id _ hw
    simp only [ho, Option.getD_some, Prod.mk.injEq] at he
    obtain ⟨rfl, rfl⟩ := he
    exact ⟨symbol, (hn _ _).2 ho, hw⟩
  · rintro ⟨symbol, hs, hv⟩
    simp [hv, (hn _ _).1 hs]

theorem Consistent.nodup (h : t.Consistent names) (hn : names.Consistent) :
    ((t.listed names).map Prod.fst).Nodup := by
  rw [List.nodup_iff_getElem?_ne_getElem?]
  intro i j hij hj heq
  rw [List.length_map] at hj
  simp only [List.getElem?_map, List.getElem?_eq_getElem hj,
    List.getElem?_eq_getElem (Nat.lt_trans hij hj), Option.map_some, Option.some.injEq] at heq
  have hentry (k : Nat) (hk : k < (t.listed names).length) :
      Ledger.row? (t.listed names) (.ofSlot k : Handle κ) =
        some ((t.listed names)[k].1, (t.listed names)[k].2) := by
    rw [Ledger.row?_ofSlot, List.getElem?_eq_getElem hk]
  obtain ⟨si, hsi, hi⟩ := (h.row?_eq_some_iff hn).1 (hentry i (Nat.lt_trans hij hj))
  obtain ⟨sj, hsj, hj⟩ := (h.row?_eq_some_iff hn).1 (hentry j hj)
  rw [heq, hsj, Option.some.injEq] at hsi
  subst hsi
  have hidi := (h.indexed _ _).2 ⟨_, hi, trivial⟩
  rw [(h.indexed _ _).2 ⟨_, hj, trivial⟩, Option.some.injEq] at hidi
  have hslot := congrArg Handle.slot? hidi
  simp only [Handle.slot?_ofSlot, Option.some.injEq] at hslot
  omega

theorem Consistent.find?_eq (h : t.Consistent names) (hn : names.Consistent) (name : String) :
    (names.get? name).bind (t.byName[·]?) = Ledger.handle? (t.listed names) name := by
  apply Option.ext
  intro id
  rw [Ledger.handle?_eq_some_iff (h.nodup hn)]
  simp only [h.row?_eq_some_iff hn, Option.bind_eq_some_iff, h.indexed _ id, and_true]
  exact ⟨fun ⟨s, hs, v, hv⟩ => ⟨v, s, hs, hv⟩, fun ⟨v, s, hs, hv⟩ => ⟨s, hs, v, hv⟩⟩

theorem Consistent.listed_intern (h : t.Consistent names) (hn : names.Consistent) (name : String) :
    t.listed (names.intern name).2 = t.listed names := by
  apply List.ext_getElem?
  intro i
  rw [← Ledger.row?_ofSlot (κ := κ), ← Ledger.row?_ofSlot (κ := κ), row?_listed,
    row?_listed]
  cases he : t.items.get? (.ofSlot i) with
  | none => rfl
  | some e =>
    obtain ⟨other, ho⟩ := h.named _ e he
    simp [ho, Interner.resolve?_intern_of_some hn ho name]

theorem Consistent.listed_insert (h : t.Consistent names) (hn : names.Consistent) (name : String)
    (v : α) : (t.insert (names.intern name).1 v).listed (names.intern name).2 =
      t.listed names ++ [(name, v)] := by
  rw [← h.listed_intern hn name]
  simp [listed, InstanceTable.insert, Arena.alloc, Arena.values, Interner.resolve?_intern_self hn name]

end InstanceTable

namespace Schematic

variable {α : Type} {s : Schematic}

theorem instanceEntry_eq_found (t : InstanceTable κ α) (space : Namespace) (id : Handle κ) :
    instanceEntry t space id = Ledger.found space id.text (t.items.get? id) := by
  unfold instanceEntry
  cases t.items.get? id <;> rfl

theorem instanceId_eq_found (h : s.names.Consistent) {t : InstanceTable κ α}
    (ht : t.Consistent s.names) (space : Namespace) (name : String) :
    s.instanceId t space name =
      Ledger.found space name (Ledger.handle? (t.listed s.names) name) := by
  unfold instanceId find?
  rw [ht.find?_eq h]
  cases Ledger.handle? (t.listed s.names) name <;> rfl

theorem value_eq_found (names : Interner) (t : InstanceTable κ α) (space : Namespace)
    (id : Handle κ) : Named.value <$> instanceEntry t space id =
      Ledger.found space id.text ((Ledger.row? (t.listed names) id).map Prod.snd) := by
  rw [instanceEntry_eq_found, InstanceTable.row?_listed]
  cases t.items.get? id <;> rfl

theorem name_eq_found {t : InstanceTable κ α} (ht : t.Consistent s.names) (space : Namespace)
    (id : Handle κ) : (do s.nameOf (← instanceEntry t space id).symbol) =
      Ledger.found space id.text ((Ledger.row? (t.listed s.names) id).map Prod.fst) := by
  rw [instanceEntry_eq_found, InstanceTable.row?_listed]
  cases he : t.items.get? id with
  | none => rfl
  | some e =>
    obtain ⟨name, hname⟩ := ht.named id e he
    simp [Ledger.found, bind, Except.bind, nameOf, hname]

theorem byName_eq_found (h : s.names.Consistent) {t : InstanceTable κ α}
    (ht : t.Consistent s.names) (space : Namespace) (name : String) :
    (do Named.value <$> instanceEntry t space (← s.instanceId t space name)) =
      Ledger.found space name ((t.listed s.names).lookup name) := by
  rw [instanceId_eq_found h ht]
  have hnodup := ht.nodup h
  cases hid : (Ledger.handle? (t.listed s.names) name : Option (Handle κ)) with
  | none =>
    have hnone : (t.listed s.names).lookup name = none := by
      apply Option.eq_none_iff_forall_ne_some.2
      intro v hv
      obtain ⟨id, he⟩ := (Ledger.lookup_eq_some_iff (κ := κ) hnodup).1 hv
      rw [(Ledger.handle?_eq_some_iff hnodup).2 ⟨v, he⟩] at hid
      exact nomatch hid
    rw [hnone]
    rfl
  | some id =>
    obtain ⟨v, hv⟩ := (Ledger.handle?_eq_some_iff hnodup).1 hid
    rw [(Ledger.lookup_eq_some_iff hnodup).2 ⟨id, hv⟩]
    change Named.value <$> instanceEntry t space id = _
    rw [value_eq_found s.names, hv]
    rfl

def ledger (s : Schematic) : Ledger where
  types := (s.typeTable.listed s.names).map fun e => (e.1, e.2.shape)
  nodes := s.nodes.listed s.names
  connections := s.connections.listed s.names
  constraints := s.constraints.listed s.names

theorem ledger_new (name : String) : (new name).ledger = Ledger.new := rfl

theorem Consistent.ledger_record (h : s.Consistent) (i : Item) :
    (s.record i).ledger = s.ledger.record i := by
  cases i with
  | type name shape =>
    have ht := h.types.listed_insert h.names name ⟨some s.types.next, shape⟩
    have hn := h.nodes.listed_intern h.names name
    have hc := h.connections.listed_intern h.names name
    have hk := h.constraints.listed_intern h.names name
    simp only [ledger, Ledger.record, Ledger.mk.injEq]
    refine ⟨?_, hn, hc, hk⟩
    exact (congrArg (List.map fun e => (e.1, e.2.shape)) ht).trans List.map_append
  | node name n =>
    have ht := h.types.listed_intern h.names name
    have hn := h.nodes.listed_insert h.names name n
    have hc := h.connections.listed_intern h.names name
    have hk := h.constraints.listed_intern h.names name
    simp only [ledger, Ledger.record, Ledger.mk.injEq]
    exact ⟨congrArg (List.map fun e => (e.1, e.2.shape)) ht, hn, hc, hk⟩
  | connection name c =>
    have ht := h.types.listed_intern h.names name
    have hn := h.nodes.listed_intern h.names name
    have hc := h.connections.listed_insert h.names name c
    have hk := h.constraints.listed_intern h.names name
    simp only [ledger, Ledger.record, Ledger.mk.injEq]
    exact ⟨congrArg (List.map fun e => (e.1, e.2.shape)) ht, hn, hc, hk⟩
  | constraint name c =>
    have ht := h.types.listed_intern h.names name
    have hn := h.nodes.listed_intern h.names name
    have hc := h.connections.listed_intern h.names name
    have hk := h.constraints.listed_insert h.names name c
    simp only [ledger, Ledger.record, Ledger.mk.injEq]
    exact ⟨congrArg (List.map fun e => (e.1, e.2.shape)) ht, hn, hc, hk⟩

theorem nextFor_ledger (s : Schematic) (i : Item) : s.nextFor i = s.ledger.nextFor i := by
  cases i with
  | type name shape =>
    have h := s.typeTable.next_eq s.names
    simp only [nextFor, Ledger.nextFor, ledger, List.length_map]
    exact congrArg _ h
  | node name n => exact congrArg (Sigma.mk Kind.node) (s.nodes.next_eq s.names)
  | connection name c => exact congrArg (Sigma.mk Kind.connection) (s.connections.next_eq s.names)
  | constraint name c => exact congrArg (Sigma.mk Kind.constraint) (s.constraints.next_eq s.names)

theorem Consistent.nodup_types (h : s.Consistent) : (s.ledger.types.map Prod.fst).Nodup := by
  have hn := h.types.nodup h.names
  simpa [ledger, Function.comp_def] using hn

theorem Consistent.row?_types (h : s.Consistent) (id : TypeId) :
    Ledger.row? (s.typeTable.listed s.names) id =
      (Ledger.row? s.ledger.types id).map fun e => (e.1, ⟨some id, e.2⟩) := by
  rw [ledger, Ledger.row?_map, Option.map_map]
  cases he : Ledger.row? (s.typeTable.listed s.names) id with
  | none => rfl
  | some e =>
    obtain ⟨name, d⟩ := e
    obtain ⟨symbol, -, hd⟩ := (h.types.row?_eq_some_iff h.names).1 he
    have hid : d.id = some id := h.ids id _ hd
    simp [← hid]

theorem Consistent.row?_types_eq_some_iff (h : s.Consistent) {id : TypeId} {name : String}
    {shape : Shape} : Ledger.row? s.ledger.types id = some (name, shape) ↔
      ∃ symbol, s.names.get? name = some symbol ∧
        s.types.get? id = some ⟨symbol, ⟨some id, shape⟩⟩ := by
  have hentry : Ledger.row? (s.typeTable.listed s.names) id = some (name, ⟨some id, shape⟩) ↔ _ :=
    h.types.row?_eq_some_iff h.names
  rw [h.row?_types] at hentry
  refine Iff.trans ?_ hentry
  simp [Option.map_eq_some_iff]

theorem Consistent.typeDef_eq (h : s.Consistent) {id : TypeId} {symbol : Symbol} {d : TypeDef}
    (hd : s.types.get? id = some ⟨symbol, d⟩) : d = ⟨some id, d.shape⟩ := by
  have hid : d.id = some id := h.ids id _ hd
  rw [← hid]

theorem Consistent.find?_category (h : s.Consistent) (c : Category) (name : String) (id : TypeId) :
    s.find? (s.categories.of c) name = some id ↔
      ∃ shape, Ledger.row? s.ledger.types id = some (name, shape) ∧ shape.category = c := by
  simp only [find?, Option.bind_eq_some_iff, h.categories c _ id, h.row?_types_eq_some_iff]
  constructor
  · rintro ⟨symbol, hs, d, hd, hc⟩
    refine ⟨d.shape, ⟨symbol, hs, ?_⟩, hc⟩
    rw [hd, ← h.typeDef_eq hd]
  · rintro ⟨shape, ⟨symbol, hs, hd⟩, hc⟩
    exact ⟨symbol, hs, _, hd, hc⟩

theorem Consistent.typeIn?_eq_some_iff (h : s.Consistent) {c : Category} {name : String}
    {id : TypeId} {d : TypeDef} : s.ledger.typeIn? c name = some (id, d) ↔
      s.find? (s.categories.of c) name = some id ∧ (s.types.get? id).map Named.value = some d := by
  have hvalue : (s.types.get? id).map Named.value =
      (Ledger.row? s.ledger.types id).map fun e => ⟨some id, e.2⟩ := by
    have he := congrArg (Option.map Prod.snd) (h.row?_types id)
    rw [InstanceTable.row?_listed, Option.map_map, Option.map_map] at he
    exact he
  rw [hvalue, h.find?_category]
  simp only [Ledger.typeIn?, Option.bind_eq_some_iff, Option.map_eq_some_iff,
    Option.filter_eq_some_iff, Ledger.handle?_eq_some_iff h.nodup_types, Prod.mk.injEq]
  constructor
  · rintro ⟨other, ⟨shape, he⟩, e, ⟨hfound, hc⟩, rfl, rfl⟩
    rw [he, Option.some.injEq] at hfound
    subst hfound
    exact ⟨⟨shape, he, by simpa using hc⟩, _, he, rfl⟩
  · rintro ⟨⟨shape, he, hc⟩, e, hfound, rfl⟩
    rw [he, Option.some.injEq] at hfound
    subst hfound
    exact ⟨id, ⟨shape, he⟩, _, ⟨he, by simpa using hc⟩, rfl, rfl⟩

theorem Consistent.lookup_eq_found (h : s.Consistent) (c : Category) (name : String) :
    s.lookup c name = Ledger.found c.space name (s.ledger.typeIn? c name) := by
  unfold lookup
  cases hid : s.find? (s.categories.of c) name with
  | none =>
    have hnone : s.ledger.typeIn? c name = none := by
      apply Option.eq_none_iff_forall_ne_some.2
      rintro ⟨id, d⟩ ht
      rw [(h.typeIn?_eq_some_iff.1 ht).1] at hid
      exact nomatch hid
    rw [hnone]
    rfl
  | some id =>
    obtain ⟨symbol, -, hsymbol⟩ := Option.bind_eq_some_iff.1 hid
    obtain ⟨d, hd, hc⟩ := (h.categories c symbol id).1 hsymbol
    have ht : s.ledger.typeIn? c name = some (id, d) :=
      h.typeIn?_eq_some_iff.2 ⟨hid, by rw [hd]; rfl⟩
    rw [ht]
    simp [hd, readsAs, hc, Ledger.found]

theorem Consistent.typeList_eq (h : s.Consistent) : s.typeList = s.ledger.typeList := by
  apply List.ext_getElem?
  intro i
  have he := h.row?_types (.ofSlot i)
  rw [Ledger.row?_ofSlot, Ledger.row?_ofSlot] at he
  have hl : s.typeList[i]? = ((s.typeTable.listed s.names)[i]?).map fun e =>
      (Handle.ofSlot i, e.1, e.2) := by
    simp only [typeList, Arena.entries, InstanceTable.listed, typeTable, List.getElem?_map,
      List.getElem?_zipIdx, Option.map_map, Nat.zero_add]
    rfl
  rw [hl, he]
  simp only [Ledger.typeList, List.getElem?_map, List.getElem?_zipIdx, Option.map_map,
    Nat.zero_add]
  rfl

theorem mem_typeList {l : Ledger} {id : TypeId} {name : String} {d : TypeDef} :
    (id, name, d) ∈ l.typeList ↔
      ∃ shape, Ledger.row? l.types id = some (name, shape) ∧ d = ⟨some id, shape⟩ := by
  simp only [Ledger.typeList, List.mem_map, List.mem_zipIdx_iff_getElem?, Prod.mk.injEq,
    Ledger.row?_eq_some_iff]
  constructor
  · rintro ⟨⟨⟨other, shape⟩, i⟩, hi, rfl, rfl, rfl⟩
    exact ⟨shape, ⟨i, rfl, hi⟩, rfl⟩
  · rintro ⟨shape, ⟨i, rfl, hi⟩, rfl⟩
    exact ⟨((name, shape), i), hi, rfl, rfl, rfl⟩

theorem Consistent.nodup_typesIn (h : s.Consistent) (c : Category) :
    (((s.ledger.typeList.filter fun t => t.2.2.category = c).map
      fun t => (t.2.1, t.1, t.2.2)).map Prod.fst).Nodup := by
  have hsub : (s.ledger.typeList.filter fun t => t.2.2.category = c).Sublist s.ledger.typeList :=
    List.filter_sublist
  have hall : s.ledger.typeList.map (fun t => t.2.1) = s.ledger.types.map Prod.fst := by
    rw [← List.zipIdx_map_fst 0 s.ledger.types, List.map_map, Ledger.typeList, List.map_map]
    rfl
  rw [List.map_map]
  exact (hsub.map fun t => t.2.1).nodup (hall ▸ h.nodup_types)

theorem Consistent.typesIn_eq (h : s.Consistent) (c : Category) :
    s.typesIn c = s.ledger.typesIn c := by
  apply NameMap.ofList_eq_of_mem_iff (h.nodup_typesIn c)
  rintro ⟨name, id, d⟩
  simp only [List.mem_filterMap, List.mem_map, List.mem_filter, decide_eq_true_eq]
  constructor
  · rintro ⟨⟨symbol, other⟩, hindex, hread⟩
    obtain ⟨v, hv, hc⟩ := (h.categories c symbol other).1
      (Std.TreeMap.mem_toList_iff_getElem?_eq_some.1 hindex)
    obtain ⟨n, hn⟩ := h.types.named other _ hv
    simp only [hv, Option.bind_some, readsAs, hc, label, hn, decide_true, Bool.or_true, if_true,
      Option.getD_some, Option.some.injEq, Prod.mk.injEq] at hread
    obtain ⟨rfl, rfl, rfl⟩ := hread
    refine ⟨(other, n, v), ⟨mem_typeList.2 ⟨v.shape, ?_, h.typeDef_eq hv⟩, hc⟩, rfl⟩
    rw [h.row?_types_eq_some_iff]
    exact ⟨symbol, (h.names _ _).2 hn, by rw [hv, ← h.typeDef_eq hv]⟩
  · rintro ⟨⟨other, n, v⟩, ⟨hmem, hc⟩, heq⟩
    simp only [Prod.mk.injEq] at heq
    obtain ⟨rfl, rfl, rfl⟩ := heq
    obtain ⟨shape, he, rfl⟩ := mem_typeList.1 hmem
    obtain ⟨symbol, hs, hd⟩ := h.row?_types_eq_some_iff.1 he
    refine ⟨(symbol, other), Std.TreeMap.mem_toList_iff_getElem?_eq_some.2
      ((h.categories c symbol other).2 ⟨_, hd, hc⟩), ?_⟩
    simp [hd, readsAs, hc, label, (h.names _ _).1 hs]

theorem typeEntry_eq (s : Schematic) (id : TypeId) :
    s.typeEntry id = instanceEntry s.typeTable .type id := by
  unfold typeEntry instanceEntry typeTable
  cases s.types.get? id <;> rfl

theorem typeId_eq (s : Schematic) (name : String) :
    s.typeId name = s.instanceId s.typeTable .type name := by
  unfold typeId instanceId typeTable
  cases s.find? s.typeNames name <;> rfl

theorem Consistent.typeDefinition_eq_found (h : s.Consistent) (id : TypeId) :
    s.typeDefinition id = Ledger.found .type id.text
      ((Ledger.row? s.ledger.types id).map fun e => ⟨some id, e.2⟩) := by
  have hvalue := value_eq_found s.names s.typeTable .type id
  rw [h.row?_types, Option.map_map] at hvalue
  rw [typeDefinition, typeEntry_eq]
  exact hvalue

theorem Consistent.type?_eq_some_iff_row (h : s.Consistent) {id : TypeId} {d : TypeDef} :
    s.type? id = some d ↔
      ∃ name, Ledger.row? s.ledger.types id = some (name, d.shape) ∧ d.id = some id := by
  rw [← typeDefinition_eq_ok_iff, h.typeDefinition_eq_found, Ledger.found_eq_ok_iff]
  cases Ledger.row? s.ledger.types id with
  | none => simp
  | some e =>
    obtain ⟨name, shape⟩ := e
    obtain ⟨other, shape'⟩ := d
    simp [eq_comm, and_comm]

theorem Consistent.typeName_eq_found (h : s.Consistent) (id : TypeId) :
    s.typeName id = Ledger.found .type id.text ((Ledger.row? s.ledger.types id).map Prod.fst) := by
  have hname := name_eq_found h.types .type id
  rw [h.row?_types, Option.map_map] at hname
  rw [typeName, typeEntry_eq]
  exact hname

theorem Consistent.typeId_eq_found (h : s.Consistent) (name : String) :
    s.typeId name = Ledger.found .type name (Ledger.handle? s.ledger.types name) := by
  rw [ledger, Ledger.handle?_map, typeId_eq]
  exact instanceId_eq_found h.names h.types .type name

theorem Consistent.ask_eq (h : s.Consistent) (q : Query α) : s.ask q = s.ledger.ask q := by
  cases q with
  | typeId name => exact h.typeId_eq_found name
  | typeName id => exact h.typeName_eq_found id
  | typeDefinition id => exact h.typeDefinition_eq_found id
  | typeIn c name => exact h.lookup_eq_found c name
  | node name => exact byName_eq_found h.names h.nodes .node name
  | nodeId name => exact instanceId_eq_found h.names h.nodes .node name
  | nodeById id => exact value_eq_found s.names s.nodes .node id
  | nodeName id => exact name_eq_found h.nodes .node id
  | connection name => exact byName_eq_found h.names h.connections .connection name
  | connectionId name => exact instanceId_eq_found h.names h.connections .connection name
  | connectionById id => exact value_eq_found s.names s.connections .connection id
  | connectionName id => exact name_eq_found h.connections .connection id
  | constraint name => exact byName_eq_found h.names h.constraints .constraint name
  | constraintId name => exact instanceId_eq_found h.names h.constraints .constraint name
  | constraintById id => exact value_eq_found s.names s.constraints .constraint id
  | constraintName id => exact name_eq_found h.constraints .constraint id
  | types => exact congrArg Except.ok h.typeList_eq
  | typesIn c => exact congrArg Except.ok (h.typesIn_eq c)
  | nodes | connections | constraints => rfl
  | typeCount =>
    have hl := s.typeTable.length_listed s.names
    exact congrArg Except.ok (by rw [ledger, List.length_map, hl]; rfl)
  | nodeCount => exact congrArg Except.ok (s.nodes.length_listed s.names).symm
  | connectionCount => exact congrArg Except.ok (s.connections.length_listed s.names).symm
  | constraintCount => exact congrArg Except.ok (s.constraints.length_listed s.names).symm

theorem nodeById_eq_ok_iff (h : s.Consistent) {id : NodeId} {n : Node} :
    s.nodeById id = .ok n ↔ ∃ name, Ledger.row? s.ledger.nodes id = some (name, n) := by
  have hask : s.nodeById id = _ := h.ask_eq (.nodeById id)
  rw [hask, Ledger.ask, Ledger.found_eq_ok_iff, Option.map_eq_some_iff]
  exact ⟨fun ⟨⟨name, _⟩, hrow, hn⟩ => ⟨name, hn ▸ hrow⟩, fun ⟨_, hrow⟩ => ⟨_, hrow, rfl⟩⟩

theorem Consistent.nodeId_eq_ok_iff (h : s.Consistent) {id : NodeId} {name : String} :
    s.nodeId name = .ok id ↔ ∃ n, Ledger.row? s.ledger.nodes id = some (name, n) := by
  have hask : s.nodeId name = _ := h.ask_eq (.nodeId name)
  rw [hask, Ledger.ask, Ledger.found_eq_ok_iff]
  exact Ledger.handle?_eq_some_iff (h.nodes.nodup h.names)

theorem Consistent.nodeName_eq_ok_iff (h : s.Consistent) {id : NodeId} {name : String} :
    s.nodeName id = .ok name ↔ ∃ n, Ledger.row? s.ledger.nodes id = some (name, n) := by
  have hask : s.nodeName id = _ := h.ask_eq (.nodeName id)
  rw [hask, Ledger.ask, Ledger.found_eq_ok_iff, Option.map_eq_some_iff]
  constructor
  · rintro ⟨⟨_, n⟩, hrow, rfl⟩
    exact ⟨n, hrow⟩
  · rintro ⟨n, hrow⟩
    exact ⟨_, hrow, rfl⟩

theorem Built.ledger_run (h : s.Built) (rs : List Registration) :
    (s.run rs).ledger = (s.accepted rs).foldl Ledger.record s.ledger := by
  induction rs generalizing s with
  | nil => rfl
  | cons r rest ih =>
    change ((s.attempt r).run rest).ledger = _
    cases hr : s.register r with
    | error f =>
      simp only [attempt, accepted, hr]
      exact ih h
    | ok done =>
      obtain ⟨issued, s'⟩ := done
      obtain ⟨-, hi, -, rfl⟩ := register_eq_ok_iff.1 hr
      simp only [attempt, accepted, hr, List.foldl_cons]
      rw [ih (h.record hi), h.consistent.ledger_record]

theorem run_refines_ledger (name : String) (rs : List Registration) :
    let s := (new name).run rs
    let l := ((new name).accepted rs).foldl Ledger.record Ledger.new
    (∀ {α : Type} (q : Query α), s.ask q = l.ask q) ∧
      (∀ r issued s', s.register r = .ok (issued, s') →
        issued = l.nextFor r.item ∧ s'.ledger = l.record r.item) ∧
      (l.types.map Prod.fst).Nodup ∧ (l.nodes.map Prod.fst).Nodup ∧
      (l.connections.map Prod.fst).Nodup ∧ (l.constraints.map Prod.fst).Nodup := by
  intro s l
  have hbuilt : s.Built := (built_new name).run rs
  have hl : s.ledger = l := (built_new name).ledger_run rs
  have h := hbuilt.consistent
  rw [← hl]
  refine ⟨fun q => h.ask_eq q, fun r issued s' hr => ?_, h.nodup_types, h.nodes.nodup h.names,
    h.connections.nodup h.names, h.constraints.nodup h.names⟩
  obtain ⟨-, -, rfl, rfl⟩ := register_eq_ok_iff.1 hr
  exact ⟨s.nextFor_ledger r.item, h.ledger_record r.item⟩

theorem run_refines_ledger_shared_name :
    let rs : List Registration :=
      [.portType "Power" {}, .constraintType "Power" {},
        .nodeType "Battery" { ports := .ofList [("terminal", ⟨5⟩)] }, .node "Power" ⟨⟨6⟩, ∅, ∅⟩]
    let s := (new "shared").run rs
    let n : Node := ⟨⟨6⟩, ∅, .ofList [("terminal", ⟨⟨5⟩, ∅⟩)]⟩
    s.ask (.nodeId "Power") = .ok ⟨0⟩ ∧ s.ask (.typeId "Power") = .ok ⟨5⟩ ∧
      s.ask (.typeIn .constraint "Power") = .error (.undeclared .constraintType "Power") ∧
      s.register (.node "Battery" n) = .ok (⟨.node, ⟨1⟩⟩, s.recordNode "Battery" n) := by
  intro rs s n
  have h := run_refines_ledger "shared" rs
  have hr : s.register (.node "Battery" n) =
      .ok (s.nextFor (.node "Battery" n), s.recordNode "Battery" n) := rfl
  have hnext := (h.2.1 _ _ _ hr).1
  refine ⟨(h.1 (.nodeId "Power")).trans rfl, (h.1 (.typeId "Power")).trans rfl,
    (h.1 (.typeIn .constraint "Power")).trans rfl, ?_⟩
  rw [hr, hnext]
  rfl

end Schematic

end Schematics

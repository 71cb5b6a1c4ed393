import Schematics.Listing
import Schematics.Proofs.Denotation
import Schematics.Proofs.DistinctFields

namespace Schematics

namespace Decimal

theorem splitSign_of_digits {cs : List Char} (h : ∀ c ∈ cs, c.isDigit = true) :
    splitSign cs = (false, cs) := by
  unfold splitSign
  split
  · exact nomatch h '-' List.mem_cons_self
  · exact nomatch h '+' List.mem_cons_self
  · rfl

theorem value_toDigits (n : Nat) : value (Nat.toDigits 10 n) = n := by
  rw [value, ← Nat.ofDigitChars_eq_foldl, Nat.ofDigitChars_ten_toDigits]

theorem readInt?_toString (i : Int) : readInt? (toString i) = some i := by
  have hdigits (n : Nat) : ∀ c ∈ Nat.toDigits 10 n, c.isDigit = true := fun c hc =>
    Nat.isDigit_of_mem_toDigits (by decide) (by decide) hc
  have hvalid (n : Nat) :
      ((Nat.toDigits 10 n).isEmpty || !(Nat.toDigits 10 n).all Char.isDigit) = false := by
    rw [List.all_eq_true.2 (hdigits n), List.isEmpty_eq_false_iff.2 Nat.toDigits_ne_nil]
    rfl
  rw [Int.toString_eq_repr, Int.repr_eq_if, readInt?]
  by_cases hi : 0 ≤ i
  · rw [if_pos hi, Nat.repr_eq_ofList_toDigits, String.toList_ofList,
      splitSign_of_digits (hdigits _)]
    simp only [hvalid, value_toDigits, Bool.false_eq_true, if_false, Option.some.injEq]
    omega
  · have hsign : splitSign ("-" ++ (-i).toNat.repr).toList =
        (true, Nat.toDigits 10 (-i).toNat) := by
      rw [Nat.repr_eq_ofList_toDigits, String.toList_append,
        String.toList_ofList (l := Nat.toDigits 10 _)]
      rfl
    rw [if_neg hi, hsign]
    simp only [hvalid, value_toDigits, Bool.false_eq_true, if_false, if_true, Option.some.injEq]
    omega

theorem readInt64?_toString (i : Int64) : readInt64? (toString i.toInt) = some i := by
  rw [readInt64?, readInt?_toString, Option.bind_some, toInt64?,
    if_pos ⟨i.minValue_le_toInt, i.toInt_le⟩, Int64.ofInt_toInt]

end Decimal

mutual

def Value.reals : Value → List Float
  | .real x => [x]
  | .array _ _ items => itemReals items
  | _ => []

def itemReals : List Value → List Float
  | [] => []
  | v :: rest => v.reals ++ itemReals rest

end

def listedPorts (ports : NameMap Port) : NameMap Json :=
  ports.map fun (p : Port) => attributesJson p.attributes

def attributeReals (values : Attributes) : List Float := values.entries.flatMap fun e => e.2.reals

def portReals (ports : NameMap Port) : List Float :=
  ports.entries.flatMap fun e => attributeReals e.2.attributes

theorem mem_itemReals {items : List Value} {v : Value} (hv : v ∈ items) {x : Float}
    (hx : x ∈ v.reals) : x ∈ itemReals items := by
  induction items with
  | nil => exact nomatch hv
  | cons w rest ih =>
    rw [itemReals, List.mem_append]
    obtain rfl | hv := List.mem_cons.1 hv
    · exact .inl hx
    · exact .inr (ih hv)

def ReadsBack (x : Float) : Prop := Decimal.readReal? (Json.realText x) = some x

instance (x : Float) : Decidable (ReadsBack x) := inferInstanceAs (Decidable (_ = _))

theorem listingJsons_eq_map (items : List Value) :
    listingJsons items = items.map Value.listingJson := by
  induction items with
  | nil => rfl
  | cons v rest ih => rw [listingJsons, ih, List.map_cons]

variable {doc : Sections} {c : Category} {name : String} {fields : Fields}

theorem Shape.Writes.listed {shape : Shape} {text : String} {v : Value} (h : shape.Writes text v)
    (hr : ∀ x ∈ v.reals, ReadsBack x) : ∃ text', v.listingJson.HasText text' ∧ shape.Writes text' v := by
  cases h with
  | true => exact ⟨_, .boolTrue, Shape.Writes.true⟩
  | false => exact ⟨_, .boolFalse, Shape.Writes.false⟩
  | int => exact ⟨_, .int _, .int (Decimal.readInt64?_eq_some_iff.1 (Decimal.readInt64?_toString _))⟩
  | string => exact ⟨_, .string _, .string⟩
  | @real _ x _ _ _ _ hx _ =>
    have hlisted : (Value.real x).listingJson = .real x := by rw [Value.listingJson, if_pos hx.finite]
    have hback : Decimal.readReal? (Json.realText x) = some x := hr x List.mem_cons_self
    obtain ⟨negative, q, htext, hq, hnearest, hsign⟩ := Decimal.readReal?_eq_some_iff_nearest.1 hback
    rw [hlisted]
    exact ⟨_, Json.hasText_scalarText rfl, .real htext hq hnearest hsign⟩

theorem Denotes.listed {raw : Json} {v : Value} (h : Denotes doc name raw v)
    (hr : ∀ x ∈ v.reals, ReadsBack x) : Denotes doc name v.listingJson v := by
  induction h with
  | scalar hn _ h =>
    obtain ⟨text, htext, hwrites⟩ := h.listed hr
    exact .scalar hn htext hwrites
  | @array name element body items values id elementId hn he hi hj hl _ ih =>
    have hitems : List.Forall₂ (fun _ v => (∀ x ∈ v.reals, ReadsBack x) →
        Denotes doc element v.listingJson v) items values :=
      List.forall₂_iff_zip.2 ⟨hl, fun hz => ih _ _ hz⟩
    have hlisted : List.Forall₂ (Denotes doc element) (listingJsons values) values := by
      rw [listingJsons_eq_map, List.forall₂_map_left_iff, List.forall₂_same]
      intro v hv
      obtain ⟨_, -, hd⟩ := exists_of_forall₂_right hitems hv
      exact hd fun x hx => hr x (mem_itemReals hv hx)
    rw [Value.listingJson]
    exact Denotes.array_iff.2 ⟨body, element, id, elementId, values, hn, he, hi, hj, hlisted, rfl⟩

namespace Sections

theorem SpellsValues.listed {m : Attributes} (h : doc.SpellsValues c name fields m)
    (hr : ∀ x ∈ attributeReals m, ReadsBack x) :
    doc.SpellsValues c name (attributesJson m).fieldsOf m := by
  refine ⟨h.1, fun member => ?_⟩
  have hlookup : (attributesJson m).fieldsOf.lookup member =
      (m.get? member).map Value.listingJson := NameMap.get?_map Value.listingJson m member
  rw [hlookup]
  cases hv : m.get? member with
  | none => exact .none
  | some v =>
    have hmem := h.1.get?_eq_some_iff.1 hv
    obtain ⟨raw, -, t, ht, hd⟩ := h.of_entry hmem
    exact .some ⟨t, ht, hd.listed fun x hx => hr x (List.mem_flatMap.2 ⟨_, hmem, hx⟩)⟩

theorem SpellsPorts.listed {ports : NameMap Port} (h : doc.SpellsPorts name fields ports)
    (hr : ∀ x ∈ portReals ports, ReadsBack x) :
    doc.SpellsPorts name (listedPorts ports).entries ports := by
  refine ⟨h.sorted, h.complete, fun port p hport => ?_⟩
  obtain ⟨t, ht, hnumbers, hvalues⟩ := h.spelled port p hport
  have hmem := h.sorted.get?_eq_some_iff.1 hport
  have hlookup : (listedPorts ports).entries.lookup port =
      some (attributesJson p.attributes) := by
    refine (NameMap.get?_map (fun (p : Port) => attributesJson p.attributes) ports port).trans ?_
    rw [hport, Option.map_some]
  refine ⟨t, ht, hnumbers, ?_⟩
  rw [given, hlookup]
  exact hvalues.listed fun x hx => hr x (List.mem_flatMap.2 ⟨_, hmem, hx⟩)

end Sections

theorem Value.listingJson_distinct (v : Value) : v.listingJson.Distinct := by
  cases v with
  | array _ _ items =>
    rw [listingJson, listingJsons_eq_map, Json.distinct_array_iff]
    intro j hj
    obtain ⟨v, hv, rfl⟩ := List.mem_map.1 hj
    exact v.listingJson_distinct
  | real x =>
    rw [listingJson]
    split <;> trivial
  | bool _ | int _ | string _ | type _ | node _ | connection _ | constraint _ => trivial

theorem attributesJson_distinct {m : Attributes} (h : m.Sorted) : (attributesJson m).Distinct := by
  refine Json.distinct_object_iff.2 ⟨(h.map Value.listingJson).nodup, fun f hf => ?_⟩
  obtain ⟨e, -, rfl⟩ := List.mem_map.1 hf
  exact e.2.listingJson_distinct

theorem listedPorts_distinct {ports : NameMap Port} (h : ports.Sorted)
    (hp : ∀ port p, ports.get? port = some p → p.attributes.Sorted) :
    (Json.object (listedPorts ports).entries).Distinct := by
  refine Json.distinct_object_iff.2 ⟨(h.map _).nodup, fun f hf => ?_⟩
  obtain ⟨⟨port, p⟩, he, rfl⟩ := List.mem_map.1 hf
  exact attributesJson_distinct (hp port p (h.get?_eq_some_iff.2 he))

end Schematics

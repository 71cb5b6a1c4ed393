import Schematics.Proofs.ListedReading
import Schematics.Proofs.PrintedNumbers
import Schematics.Proofs.QuotedTexts

/-!
Values that are read for one type are listed with different texts, unless they are the same. A text
tells where it ends: a number or a truth value at the next comma or bracket, a string at its closing
quote and an array at its closing bracket.
-/

namespace Schematics

def Stops (r : List Char) : Prop := ∀ c, r.head? = some c → c = ',' ∨ c = ']'

structure Unbroken (cs : List Char) : Prop where
  nonempty : cs ≠ []
  inside : ∀ c ∈ cs, c ≠ ',' ∧ c ≠ ']'

theorem append_inj_of_stops {cs ds r r' : List Char} (hcs : ∀ c ∈ cs, c ≠ ',' ∧ c ≠ ']')
    (hds : ∀ c ∈ ds, c ≠ ',' ∧ c ≠ ']') (hr : Stops r) (hr' : Stops r') (h : cs ++ r = ds ++ r') :
    cs = ds ∧ r = r' := by
  induction cs generalizing ds with
  | nil =>
    cases ds with
    | nil => exact ⟨rfl, h⟩
    | cons d ds =>
      obtain ⟨hcomma, hbracket⟩ := hds d List.mem_cons_self
      obtain hd | hd := hr d (congrArg List.head? h)
      · exact absurd hd hcomma
      · exact absurd hd hbracket
  | cons c cs ih =>
    cases ds with
    | nil =>
      obtain ⟨hcomma, hbracket⟩ := hcs c List.mem_cons_self
      obtain hc | hc := hr' c (congrArg List.head? h.symm)
      · exact absurd hc hcomma
      · exact absurd hc hbracket
    | cons d ds =>
      obtain ⟨rfl, hrest⟩ := List.cons.inj h
      obtain ⟨rfl, rfl⟩ := ih (fun c hc => hcs c (List.mem_cons_of_mem _ hc))
        (fun d hd => hds d (List.mem_cons_of_mem _ hd)) hrest
      exact ⟨rfl, rfl⟩

theorem Unbroken.append_inj {cs ds r r' : List Char} (hcs : Unbroken cs) (hds : Unbroken ds)
    (hr : Stops r) (hr' : Stops r') (h : cs ++ r = ds ++ r') : cs = ds ∧ r = r' :=
  append_inj_of_stops hcs.inside hds.inside hr hr' h

namespace Decimal

variable {cs : List Char} {q : ℚ} {negative : Bool}

theorem ExponentText.char_of_mem {e : Int} (h : ExponentText cs e) {c : Char} (hc : c ∈ cs) :
    c.isDigit = true ∨ c ∈ ['-', '+', '.', 'e', 'E'] := by
  cases h with
  | none => exact nomatch hc
  | marked hm h =>
    obtain rfl | hc := List.mem_cons.1 hc
    · obtain rfl | rfl := hm <;> decide
    · obtain hd | rfl | rfl := h.digit_or_sign hc
      · exact .inl hd
      · decide
      · decide

theorem IntText.ne_nil {i : Int} (h : IntText cs i) : cs ≠ [] := by
  obtain ⟨-, -, hne⟩ := h
  exact List.append_ne_nil_of_right_ne_nil _ hne

theorem RealText.ne_nil (h : RealText cs negative q) : cs ≠ [] := by
  obtain ⟨-, ⟨-, hf, hne, -⟩⟩ := h
  apply List.append_ne_nil_of_right_ne_nil
  apply List.append_ne_nil_of_left_ne_nil
  cases hf with
  | none => exact hne
  | point => exact List.append_ne_nil_of_right_ne_nil _ (List.cons_ne_nil _ _)

theorem RealText.char_of_mem (h : RealText cs negative q) {c : Char} (hc : c ∈ cs) :
    c.isDigit = true ∨ c ∈ ['-', '+', '.', 'e', 'E'] := by
  obtain ⟨hs, ⟨hw, hf, -, he⟩⟩ := h
  obtain hc | hc := List.mem_append.1 hc
  · obtain rfl | rfl := hs.eq_of_mem hc <;> decide
  obtain hc | hc := List.mem_append.1 hc
  · obtain hc | hc := List.mem_append.1 hc
    · exact .inl (hw c hc)
    · cases hf with
      | none => exact nomatch hc
      | point hd =>
        obtain rfl | hc := List.mem_cons.1 hc
        · decide
        · exact .inl (hd c hc)
  · exact he.char_of_mem hc

theorem unbroken_int (i : Int64) : Unbroken (toString i.toInt).toList := by
  have htext := readInt64?_eq_some_iff.1 (readInt64?_toString i)
  refine ⟨htext.ne_nil, fun c hc => ?_⟩
  have hchar := htext.digit_or_sign hc
  constructor <;> rintro rfl <;> exact absurd hchar (by decide)

theorem unbroken_real (l : Layout) {x : Float} (hx : x.isFinite = true) :
    Unbroken (l.write x).toList := by
  obtain ⟨q, -, htext⟩ := exists_realText_write l hx
  refine ⟨htext.ne_nil, fun c hc => ?_⟩
  have hchar := htext.char_of_mem hc
  constructor <;> rintro rfl <;> exact absurd hchar (by decide)

theorem unbroken_bool (b : Bool) : Unbroken (Json.boolText b).toList := by
  cases b with
  | false =>
    have htext : (Json.boolText false).toList = ['f', 'a', 'l', 's', 'e'] := by simp [Json.boolText]
    rw [htext]
    exact ⟨List.cons_ne_nil _ _, by simp⟩
  | true =>
    have htext : (Json.boolText true).toList = ['t', 'r', 'u', 'e'] := by simp [Json.boolText]
    rw [htext]
    exact ⟨List.cons_ne_nil _ _, by simp⟩

end Decimal

section

variable {s : Schematic} {t element : TypeId} {shape : Shape} {text text' : String} {raw raw' : Json}
  {v w : Value} {r r' : List Char}

theorem Shape.Writes.listingText_append_inj (h : shape.Writes text v) (h' : shape.Writes text' w)
    (hr : Stops r) (hr' : Stops r')
    (heq : v.listingText.toList ++ r = w.listingText.toList ++ r') : v = w ∧ r = r' := by
  cases h with
  | true | false =>
    cases h' with
    | true | false =>
      obtain ⟨htext, rfl⟩ := (Decimal.unbroken_bool _).append_inj (Decimal.unbroken_bool _) hr hr' heq
      first | exact ⟨rfl, rfl⟩ | exact absurd htext (by decide +kernel)
  | @int _ i _ =>
    cases h' with
    | @int _ j _ =>
      obtain ⟨htext, rfl⟩ := (Decimal.unbroken_int i).append_inj (Decimal.unbroken_int j) hr hr' heq
      have hi := Decimal.readInt64?_toString i
      rw [String.toList_injective htext, Decimal.readInt64?_toString j] at hi
      obtain rfl := Option.some.inj hi
      exact ⟨rfl, rfl⟩
  | string =>
    cases h' with
    | string =>
      obtain ⟨rfl, rfl⟩ := Text.quoted_append_inj heq
      exact ⟨rfl, rfl⟩
  | @real _ x _ _ _ _ hx _ =>
    cases h' with
    | @real _ y _ _ _ _ hy _ =>
      obtain ⟨htext, rfl⟩ := (Decimal.unbroken_real .listing hx.finite).append_inj
        (Decimal.unbroken_real .listing hy.finite) hr hr' heq
      have hback := Decimal.readReal?_write .listing hx.finite
      rw [String.toList_injective htext, Decimal.readReal?_write .listing hy.finite] at hback
      obtain rfl := Option.some.inj hback
      exact ⟨rfl, rfl⟩

theorem exists_cons_of_unbroken {cs : List Char} (h : Unbroken cs) :
    ∃ c rest, cs = c :: rest ∧ c ≠ ']' := by
  obtain ⟨c, rest, rfl⟩ := List.exists_cons_of_ne_nil h.nonempty
  exact ⟨c, rest, rfl, (h.inside c List.mem_cons_self).2⟩

theorem Shape.Writes.exists_listingText_eq (h : shape.Writes text v) :
    ∃ c cs, v.listingText.toList = c :: cs ∧ c ≠ ']' := by
  cases h with
  | true | false => exact exists_cons_of_unbroken (Decimal.unbroken_bool _)
  | int => exact exists_cons_of_unbroken (Decimal.unbroken_int _)
  | string => exact ⟨_, _, String.toList_ofList, by decide⟩
  | real _ _ hx _ => exact exists_cons_of_unbroken (Decimal.unbroken_real .listing hx.finite)

theorem listingTexts_eq_map (values : List Value) :
    listingTexts values = values.map Value.listingText := by
  induction values with
  | nil => rfl
  | cons v rest ih => rw [listingTexts, ih, List.map_cons]

theorem intercalate_cons (separator cs : List Char) (texts : List (List Char)) :
    separator.intercalate (cs :: texts) = cs ++ texts.flatMap (separator ++ ·) := by
  induction texts generalizing cs with
  | nil => rw [List.intercalate_singleton, List.flatMap_nil, List.append_nil]
  | cons ds texts ih => rw [List.intercalate_cons_cons, ih, List.flatMap_cons, List.append_assoc,
      List.append_assoc]

def furtherTexts (values : List Value) : List Char :=
  (values.map fun v => v.listingText.toList).flatMap ([',', ' '] ++ ·)

theorem toList_listingText_array (values : List Value) :
    (Value.array t element values).listingText.toList =
      '[' :: ([',', ' '].intercalate (values.map fun v => v.listingText.toList) ++ [']']) := by
  simp [Value.listingText, listingTexts_eq_map, bracketed, String.toList_intercalate,
    Function.comp_def]

theorem listingText_nil_append (r : List Char) :
    (Value.array t element []).listingText.toList ++ r = '[' :: ']' :: r := by
  rw [toList_listingText_array]
  rfl

theorem listingText_cons_append (v : Value) (values : List Value) (r : List Char) :
    (Value.array t element (v :: values)).listingText.toList ++ r =
      '[' :: (v.listingText.toList ++ (furtherTexts values ++ ']' :: r)) := by
  rw [toList_listingText_array, List.map_cons, intercalate_cons, List.cons_append, List.append_assoc,
    List.append_assoc]
  rfl

theorem furtherTexts_cons_append (v : Value) (values : List Value) (r : List Char) :
    furtherTexts (v :: values) ++ r =
      ',' :: ' ' :: (v.listingText.toList ++ (furtherTexts values ++ r)) := by
  simp [furtherTexts]

theorem stops_further (values : List Value) (r : List Char) :
    Stops (furtherTexts values ++ ']' :: r) := by
  intro c hc
  cases values with
  | nil => exact .inr (Option.some.inj hc).symm
  | cons v values =>
    rw [furtherTexts_cons_append] at hc
    exact .inl (Option.some.inj hc).symm

theorem Schematic.Writes.exists_listingText_eq (h : s.Writes t raw v) :
    ∃ c cs, v.listingText.toList = c :: cs ∧ c ≠ ']' := by
  cases h with
  | scalar _ _ h => exact h.exists_listingText_eq
  | array => exact ⟨_, _, toList_listingText_array _, by decide⟩

/-- The text of a value is told from that of any other of the type, whatever follows the two. -/
def Schematic.ToldApart (s : Schematic) (t : TypeId) (v : Value) : Prop :=
  ∀ raw w r r', s.Writes t raw w → Stops r → Stops r' →
    v.listingText.toList ++ r = w.listingText.toList ++ r' → v = w ∧ r = r'

variable {values values' : List Value}

theorem furtherTexts_append_inj (hv : ∀ v ∈ values, s.ToldApart element v)
    (hw : ∀ w ∈ values', ∃ raw, s.Writes element raw w)
    (heq : furtherTexts values ++ ']' :: r = furtherTexts values' ++ ']' :: r') :
    values = values' ∧ r = r' := by
  induction values generalizing values' with
  | nil =>
    cases values' with
    | nil => exact ⟨rfl, (List.cons.inj heq).2⟩
    | cons w values' =>
      rw [furtherTexts_cons_append] at heq
      exact absurd (List.cons.inj heq).1 (by decide)
  | cons v values ih =>
    cases values' with
    | nil =>
      rw [furtherTexts_cons_append] at heq
      exact absurd (List.cons.inj heq).1 (by decide)
    | cons w values' =>
      rw [furtherTexts_cons_append, furtherTexts_cons_append, List.cons.injEq, List.cons.injEq] at heq
      obtain ⟨raw, hraw⟩ := hw w List.mem_cons_self
      obtain ⟨rfl, hrest⟩ := hv v List.mem_cons_self raw w _ _ hraw (stops_further _ _)
        (stops_further _ _) heq.2.2
      obtain ⟨rfl, rfl⟩ := ih (fun v hv' => hv v (List.mem_cons_of_mem _ hv'))
        (fun w hw' => hw w (List.mem_cons_of_mem _ hw')) hrest
      exact ⟨rfl, rfl⟩

theorem array_append_inj (hv : ∀ v ∈ values, (∃ raw, s.Writes element raw v) ∧ s.ToldApart element v)
    (hw : ∀ w ∈ values', ∃ raw, s.Writes element raw w)
    (heq : (Value.array t element values).listingText.toList ++ r =
      (Value.array t element values').listingText.toList ++ r') : values = values' ∧ r = r' := by
  -- An empty array closes at once, which the text of no item does.
  have hopen {v : Value} (hv : ∃ raw, s.Writes element raw v) {x y : List Char} :
      v.listingText.toList ++ x ≠ ']' :: y := by
    obtain ⟨raw, hraw⟩ := hv
    obtain ⟨c, cs, htext, hc⟩ := hraw.exists_listingText_eq
    rw [htext]
    exact fun h => hc (List.cons.inj h).1
  cases values with
  | nil =>
    cases values' with
    | nil => exact ⟨rfl, List.append_cancel_left heq⟩
    | cons w values' =>
      rw [listingText_nil_append, listingText_cons_append, List.cons.injEq] at heq
      exact absurd heq.2.symm (hopen (hw w List.mem_cons_self))
  | cons v values =>
    cases values' with
    | nil =>
      rw [listingText_nil_append, listingText_cons_append, List.cons.injEq] at heq
      exact absurd heq.2 (hopen (hv v List.mem_cons_self).1)
    | cons w values' =>
      rw [listingText_cons_append, listingText_cons_append, List.cons.injEq] at heq
      obtain ⟨raw, hraw⟩ := hw w List.mem_cons_self
      obtain ⟨rfl, hrest⟩ := (hv v List.mem_cons_self).2 raw w _ _ hraw (stops_further _ _)
        (stops_further _ _) heq.2
      obtain ⟨rfl, rfl⟩ := furtherTexts_append_inj
        (fun v hv' => (hv v (List.mem_cons_of_mem _ hv')).2)
        (fun w hw' => hw w (List.mem_cons_of_mem _ hw')) hrest
      exact ⟨rfl, rfl⟩

theorem Schematic.Writes.toldApart (h : s.Writes t raw v) : s.ToldApart t v := by
  induction h with
  | scalar hd _ h =>
    intro raw' w r r' hw hr hr' heq
    cases hw with
    | scalar hd' _ h' =>
      obtain rfl := Except.ok.inj (hd.symm.trans hd')
      exact h.listingText_append_inj h' hr hr' heq
    | array hd' hshape =>
      obtain rfl := Except.ok.inj (hd.symm.trans hd')
      rw [hshape] at h
      exact nomatch h
  | @array t element d items values hd hshape hl h ih =>
    intro raw' w r r' hw hr hr' heq
    cases hw with
    | scalar hd' _ h' =>
      obtain rfl := Except.ok.inj (hd.symm.trans hd')
      rw [hshape] at h'
      exact nomatch h'
    | @array _ element' _ items' values' hd' hshape' hl' h' =>
      obtain rfl := Except.ok.inj (hd.symm.trans hd')
      obtain rfl := Shape.array.inj (hshape.symm.trans hshape')
      have hitems : List.Forall₂ (fun raw v => s.Writes element raw v ∧ s.ToldApart element v)
          items values :=
        List.forall₂_iff_zip.2 ⟨hl, fun hz => ⟨h _ _ hz, ih _ _ hz⟩⟩
      have hitems' : List.Forall₂ (s.Writes element) items' values' :=
        List.forall₂_iff_zip.2 ⟨hl', fun hz => h' _ _ hz⟩
      have hv : ∀ v ∈ values, (∃ raw, s.Writes element raw v) ∧ s.ToldApart element v := by
        intro v hv
        obtain ⟨raw, -, hwrites, htold⟩ := exists_of_forall₂_right hitems hv
        exact ⟨⟨raw, hwrites⟩, htold⟩
      have hw : ∀ w ∈ values', ∃ raw, s.Writes element raw w := by
        intro w hw
        obtain ⟨raw, -, hwrites⟩ := exists_of_forall₂_right hitems' hw
        exact ⟨raw, hwrites⟩
      obtain ⟨rfl, rfl⟩ := array_append_inj hv hw heq
      exact ⟨rfl, rfl⟩

theorem AttributeValue.eq_of_listingText_eq {name name' : String}
    (hv : readDeclared s (some t) name raw = .ok v)
    (hw : readDeclared s (some t) name' raw' = .ok w) (h : v.listingText = w.listingText) : v = w := by
  have hwrites : s.Writes t raw v := (read_eq_ok_iff s t name raw).1 hv
  have hwrites' : s.Writes t raw' w := (read_eq_ok_iff s t name' raw').1 hw
  have hstop : Stops [] := fun _ hc => nomatch hc
  exact (hwrites.toldApart raw' w [] [] hwrites' hstop hstop (by rw [h])).1

end

namespace Schematic

def notices : Schematic := (new "notices").run [.userDefinedType "Row" (.array BaseType.string)]

theorem eq_of_listingText_eq_notices :
    let v : Value := .array ⟨5⟩ BaseType.string [.string "true", .string "b"]
    let w : Value := .array ⟨5⟩ BaseType.string [.string "true\", \"b"]
    (∃ v', AttributeValue.readDeclared notices (some ⟨5⟩) "on" (.array [.bool true, .string "b"]) =
      .ok v' ∧ v'.listingText = v.listingText ∧ v' = v) ∧ v.listingText ≠ w.listingText := by
  intro v w
  have hbool : AttributeValue.readDeclared notices (some ⟨5⟩) "on" (.array [.bool true, .string "b"]) =
      .ok v := rfl
  have hv : AttributeValue.readDeclared notices (some ⟨5⟩) "on" (.array [.string "true", .string "b"]) =
      .ok v := rfl
  have hw : AttributeValue.readDeclared notices (some ⟨5⟩) "on" (.array [.string "true\", \"b"]) =
      .ok w := rfl
  have hne : v ≠ w := by simp [v, w]
  exact ⟨⟨v, hbool, rfl, AttributeValue.eq_of_listingText_eq hbool hv rfl⟩,
    fun h => hne (AttributeValue.eq_of_listingText_eq hv hw h)⟩

end Schematic

end Schematics

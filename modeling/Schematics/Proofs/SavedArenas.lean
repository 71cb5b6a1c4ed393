import Schematics.Arena.Saved
import Schematics.Proofs.ParsedTexts

namespace Schematics

namespace Json

variable {fuel : Nat} {cs rest : List Char} {p : Position} {js : List Json}

/--
A text that is read as the tree in the place of an item: in a list in a field of an object, ahead of
the comma or the bracket behind it.
-/
def ItemText (text : String) (j : Json) : Prop :=
  ∀ rest p fuel, rest.head? = some ',' ∨ rest.head? = some ']' →
    2 * (text.toList ++ rest).length + 2 ≤ fuel →
      ∃ q, value fuel (maxDepth - 2) ⟨text.toList ++ rest, p⟩ = .ok (j, ⟨rest, q⟩)

theorem itemText_quote (s : String) : ItemText (quote s) (.string s) := readsAs_quote s

theorem toList_enclosed (texts : List String) (rest : List Char) :
    (enclosed "[" "]" texts).toList ++ rest =
      '[' :: ([','].intercalate (texts.map String.toList) ++ ([] ++ ']' :: rest)) := by
  simp [enclosed, String.toList_intercalate]

theorem exists_value_enclosed {texts : List String} (h : List.Forall₂ ItemText texts js)
    (rest : List Char) (p : Position)
    (hfuel : 2 * ((enclosed "[" "]" texts).toList ++ rest).length + 2 ≤ fuel) :
    ∃ q, value fuel (maxDepth - 1) ⟨(enclosed "[" "]" texts).toList ++ rest, p⟩ =
      .ok (.array js, ⟨rest, q⟩) := by
  have hitems : List.Forall₂ (ReadsAs (fun rest => rest.head? = some ',' ∨ rest.head? = some ']')
      (maxDepth - 2)) (texts.map String.toList) js := List.forall₂_map_left_iff.2 h
  rw [toList_enclosed] at hfuel ⊢
  exact exists_value_list (fun _ => .inl rfl) (List.forall_mem_nil _) (.inr rfl) hitems p
    (by rw [List.length_cons] at hfuel; omega)

theorem wantedFields_end (wanted : String → Bool) (first : Bool) :
    wantedFields wanted (fuel + 1) first ['\x7d'] = some ([], []) := rfl

theorem wantedFields_named (wanted : String → Bool) (fuel : Nat) {name : String} {tree : Json}
    {c : Cursor}
    (hname : stringEnd rest {} [] = .ok (name, ⟨':' :: cs, p⟩)) (hwanted : wanted name = true)
    (hvalue : value (2 * cs.length + 2) (maxDepth - 1) ⟨cs, {}⟩ = .ok (tree, c)) :
    wantedFields wanted (fuel + 1) true ('"' :: rest) =
      (wantedFields wanted fuel false c.rest).map fun r => ((name, tree) :: r.1, r.2) := by
  have hblank : pastBlank ('"' :: rest) = '"' :: rest := rfl
  have hquote : pastLetters ['"'] ('"' :: rest) = some rest := rfl
  have hcolon : pastLetters [':'] (pastBlank (':' :: cs)) = some cs := rfl
  rw [wantedFields]
  simp [hblank, hquote, hname, hcolon, hwanted, hvalue, Except.toOption, Option.map_eq_bind]

theorem wanted?_of_value {tree : Json} (name : String)
    (h : ∀ p, ∃ q, value (2 * (cs ++ ['\x7d']).length + 2) (maxDepth - 1) ⟨cs ++ ['\x7d'], p⟩ =
      .ok (tree, ⟨['\x7d'], q⟩)) :
    wanted? (· = name)
        (.ofList ('\x7b' :: ((quote name).toList ++ ':' :: (cs ++ ['\x7d'])))) =
      some [(name, tree)] := by
  obtain ⟨q, hvalue⟩ := h {}
  obtain ⟨q', hname⟩ := exists_stringEnd_escaped name.toList (':' :: (cs ++ ['\x7d'])) {} []
  rw [List.reverse_nil, List.nil_append, String.ofList_toList] at hname
  obtain ⟨inner, hinner⟩ : ∃ inner, inner =
    name.toList.flatMap escapeChar ++ '"' :: ':' :: (cs ++ ['\x7d']) := ⟨_, rfl⟩
  rw [← hinner] at hname
  have htext : (quote name).toList ++ ':' :: (cs ++ ['\x7d']) = '"' :: inner := by
    rw [hinner, quote, String.toList_ofList, List.cons_append, List.append_assoc,
      List.singleton_append]
  have hopen (behind : List Char) :
      pastLetters ['\x7b'] (pastBlank ('\x7b' :: behind)) = some behind := rfl
  have hfields := wantedFields_named (fun n => decide (n = name)) (inner.length + 1) hname
    (decide_eq_true rfl) hvalue
  rw [wantedFields_end] at hfields
  rw [wanted?, String.toList_ofList, hopen, htext]
  calc
    _ = (wantedFields (fun n => decide (n = name)) (inner.length + 1 + 1) true ('"' :: inner)).bind
        fun r => if (pastBlank r.2).isEmpty then some r.1 else none := rfl
    _ = some [(name, tree)] := by rw [hfields]; rfl

end Json

universe u

variable {κ : Kind} {α : Type u} {f : Codec α}

def Codec.Faithful (f : Codec α) : Prop :=
  ∀ x, ∃ j, Json.ItemText (f.write x).compact j ∧ f.read? j = some x

theorem Codec.text_faithful : Codec.text.Faithful := fun s =>
  ⟨.string s, Json.itemText_quote s, rfl⟩

namespace Arena

theorem exists_itemTexts (hf : f.Faithful) (items : List α) :
    ∃ js, List.Forall₂ Json.ItemText (Json.compactItems (items.map f.write)) js ∧
      js.mapM f.read? = some items := by
  induction items with
  | nil => exact ⟨[], .nil, rfl⟩
  | cons x items ih =>
    obtain ⟨j, htext, hread⟩ := hf x
    obtain ⟨js, htexts, hreads⟩ := ih
    refine ⟨j :: js, .cons htext htexts, ?_⟩
    rw [List.mapM_cons, hread, hreads]
    rfl

theorem toList_saveWith (f : Codec α) (a : Arena κ α) :
    (a.saveWith f).toList = '\x7b' :: ((Json.quote "items").toList ++ ':' ::
      ((Json.enclosed "[" "]" (Json.compactItems (a.values.map f.write))).toList ++ ['\x7d'])) := by
  have hfield : a.saveWith f = Json.enclosed "\x7b" "\x7d" [Json.quote "items" ++ ":" ++
      Json.enclosed "[" "]" (Json.compactItems (a.values.map f.write))] := rfl
  rw [hfield]
  simp [Json.enclosed]

theorem loadWith?_saveWith (hf : f.Faithful) (a : Arena κ α) :
    loadWith? f (a.saveWith f) = some a := by
  obtain ⟨js, htexts, hreads⟩ := exists_itemTexts hf a.values
  have hlist (p : Json.Position) := Json.exists_value_enclosed htexts ['\x7d'] p le_rfl
  have hwanted := Json.wanted?_of_value "items" hlist
  rw [← toList_saveWith f a, String.ofList_toList] at hwanted
  rw [loadWith?, hwanted]
  simp only [ofFields?, itemsOf?, hreads, Option.map_some, values, Array.toArray_toList]

end Arena

end Schematics

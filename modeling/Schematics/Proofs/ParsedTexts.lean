import Schematics.Proofs.ListedTexts

namespace Schematics

namespace Json

variable {x : Char} {cs rest read : List Char} {p : Position}

theorem stringEnd_plain (hquote : x ≠ '"') (hbackslash : x ≠ '\\') (hcontrol : ¬x < ' ') :
    stringEnd (x :: rest) p read = stringEnd rest (p.after x) (x :: read) := by
  rw [stringEnd]
  · exact if_neg hcontrol
  · exact hquote
  all_goals
    intros
    exact hbackslash ‹x = '\\'›

theorem hexDigits_control {n : Nat} (h : n < 32) :
    hexDigits 4 n = ['0', '0', Nat.digitChar (n / 16), Nat.digitChar (n % 16)] := by
  interval_cases n <;> rfl

theorem hexValue?_control {n : Nat} (h : n < 32) :
    Text.hexValue? ['0', '0', Nat.digitChar (n / 16), Nat.digitChar (n % 16)] = some n := by
  interval_cases n <;> rfl

theorem stringEnd_control {n : Nat} (h : n < 32) :
    stringEnd ('\\' :: 'u' :: (hexDigits 4 n ++ rest)) p read =
      stringEnd rest (p.right 6) (.ofNat n :: read) := by
  rw [hexDigits_control h]
  simp only [List.cons_append, List.nil_append]
  rw [stringEnd, hexValue?_control h]
  have hlow : isLowSurrogate n = false := by simp [isLowSurrogate]; omega
  have hhigh : isHighSurrogate n = false := by simp [isHighSurrogate]; omega
  simp only [hlow, hhigh, Bool.false_eq_true, if_false]

theorem exists_stringEnd_escapeChar (x : Char) (rest : List Char) (p : Position)
    (read : List Char) :
    ∃ q, stringEnd (escapeChar x ++ rest) p read = stringEnd rest q (x :: read) := by
  unfold escapeChar
  split
  · exact ⟨_, rfl⟩
  · exact ⟨_, rfl⟩
  · exact ⟨_, rfl⟩
  · exact ⟨_, rfl⟩
  · exact ⟨_, rfl⟩
  · exact ⟨_, rfl⟩
  · exact ⟨_, rfl⟩
  · next hquote hbackslash _ _ _ _ _ =>
    split
    · next hcontrol =>
      have hsmall : x.toNat < 32 := hcontrol
      refine ⟨p.right 6, ?_⟩
      rw [List.cons_append, List.cons_append, stringEnd_control hsmall, Char.ofNat_toNat]
    · next hcontrol => exact ⟨_, stringEnd_plain hquote hbackslash hcontrol⟩

theorem exists_stringEnd_escaped (cs rest : List Char) (p : Position) (read : List Char) :
    ∃ q, stringEnd (cs.flatMap escapeChar ++ '"' :: rest) p read =
      .ok (.ofList (read.reverse ++ cs), ⟨rest, q⟩) := by
  induction cs generalizing p read with
  | nil =>
    refine ⟨p.right 1, ?_⟩
    rw [List.flatMap_nil, List.nil_append, stringEnd, List.append_nil]
  | cons x cs ih =>
    rw [List.flatMap_cons, List.append_assoc]
    obtain ⟨q, hq⟩ := exists_stringEnd_escapeChar x (cs.flatMap escapeChar ++ '"' :: rest) p read
    obtain ⟨q', hq'⟩ := ih q (x :: read)
    refine ⟨q', ?_⟩
    rw [hq, hq', List.reverse_cons, List.append_assoc, List.singleton_append]

variable {fuel depth : Nat} {c c' : Cursor} {j : Json} {js : List Json}

theorem skipBlankFrom_idem (cs : List Char) (p : Position) :
    (Cursor.skipBlankFrom cs p).skipBlank = Cursor.skipBlankFrom cs p := by
  induction cs generalizing p with
  | nil => rfl
  | cons x rest ih =>
    by_cases hx : Cursor.isBlank x = true
    · rw [Cursor.skipBlankFrom, if_pos hx]
      exact ih (p.after x)
    · rw [Cursor.skipBlankFrom, if_neg hx, Cursor.skipBlank, Cursor.skipBlankFrom, if_neg hx]

theorem skipBlank_skipBlank (c : Cursor) : c.skipBlank.skipBlank = c.skipBlank :=
  skipBlankFrom_idem c.rest c.position

theorem value_skipBlank (h : value fuel depth c = .ok (j, c')) :
    value fuel depth c.skipBlank = .ok (j, c') := by
  cases fuel with
  | zero => cases h
  | succ fuel =>
    rw [value] at h ⊢
    rwa [skipBlank_skipBlank]

theorem ahead_of_value (h : value fuel depth c = .ok (j, c')) :
    ∃ x cs, c.skipBlank.rest = x :: cs ∧ x ≠ ']' := by
  cases fuel with
  | zero => cases h
  | succ fuel =>
    cases hrest : c.skipBlank.rest with
    | nil =>
      rw [value] at h
      simp only [hrest] at h
      cases h
    | cons x cs =>
      refine ⟨x, cs, rfl, ?_⟩
      rintro rfl
      rw [value] at h
      simp only [hrest] at h
      cases h

theorem items_first {k : Cursor} (h : value fuel depth c = .ok (j, c'))
    (hrest : items fuel depth false c' = .ok (js, k)) :
    items (fuel + 1) depth true c = .ok (j :: js, k) := by
  obtain ⟨x, cs, hahead, hx⟩ := ahead_of_value h
  rw [items]
  simp only [hahead, hx, Bool.not_true, Bool.false_and, Bool.false_eq_true, if_false, if_true,
    value_skipBlank h]
  simp [bind, Except.bind, hrest, pure, Except.pure]

theorem items_next {k : Cursor} {cs : List Char}
    (h : value fuel depth ⟨cs, p.right 1⟩ = .ok (j, c'))
    (hrest : items fuel depth false c' = .ok (js, k)) :
    items (fuel + 1) depth false ⟨',' :: cs, p⟩ = .ok (j :: js, k) := by
  obtain ⟨x, rest, hahead, hx⟩ := ahead_of_value h
  have hcomma : (⟨',' :: cs, p⟩ : Cursor).skipBlank = ⟨',' :: cs, p⟩ := rfl
  have hskip : (⟨',' :: cs, p⟩ : Cursor).skip 1 = ⟨cs, p.right 1⟩ := rfl
  rw [items, hcomma]
  simp only [hskip, Bool.not_false, Bool.true_and, Bool.false_eq_true, if_false, hahead,
    List.head?_cons, value_skipBlank h]
  simp [bind, Except.bind, hrest, pure, Except.pure, hx]

theorem items_end (first : Bool) (cs : List Char) :
    items (fuel + 1) depth first ⟨']' :: cs, p⟩ = .ok ([], ⟨cs, p.right 1⟩) := rfl

theorem value_string (cs : List Char) (p : Position) :
    value (fuel + 1) depth ⟨'"' :: cs, p⟩ =
      (fun r => (.string r.1, r.2)) <$> stringEnd cs (p.right 1) [] := rfl

theorem value_list (cs : List Char) (p : Position) :
    value (fuel + 1) (depth + 1) ⟨'[' :: cs, p⟩ =
      (fun r => (.array r.1, r.2)) <$> items fuel depth true ⟨cs, p.right 1⟩ := rfl

def Blank (cs : List Char) : Prop := ∀ c ∈ cs, Cursor.isBlank c = true

variable {blanks text : List Char} {ends : List Char → Prop}

theorem exists_skipBlank_append (hb : Blank blanks) (cs : List Char) (p : Position) :
    ∃ q, (⟨blanks ++ cs, p⟩ : Cursor).skipBlank = (⟨cs, q⟩ : Cursor).skipBlank := by
  induction blanks generalizing p with
  | nil => exact ⟨p, rfl⟩
  | cons x rest ih =>
    obtain ⟨hx, hrest⟩ := List.forall_mem_cons.1 hb
    obtain ⟨q, hq⟩ := ih hrest (p.after x)
    refine ⟨q, ?_⟩
    rw [← hq, List.cons_append, Cursor.skipBlank, Cursor.skipBlankFrom, if_pos hx]
    rfl

def ReadsAs (ends : List Char → Prop) (depth : Nat) (text : List Char) (j : Json) : Prop :=
  ∀ rest p fuel, ends rest → 2 * (text ++ rest).length + 2 ≤ fuel →
    ∃ q, value fuel depth ⟨text ++ rest, p⟩ = .ok (j, ⟨rest, q⟩)

theorem readsAs_quote (s : String) : ReadsAs ends depth (quote s).toList (.string s) := by
  intro rest p fuel _ hfuel
  obtain ⟨fuel, rfl⟩ : ∃ k, fuel = k + 1 := ⟨fuel - 1, by omega⟩
  obtain ⟨q, hq⟩ := exists_stringEnd_escaped s.toList rest (p.right 1) []
  refine ⟨q, ?_⟩
  rw [quote, String.toList_ofList, List.cons_append, List.append_assoc, List.singleton_append,
    value_string, hq, List.reverse_nil, List.nil_append, String.ofList_toList]
  rfl

theorem exists_items_end (hb : Blank blanks) (first : Bool) (rest : List Char) (p : Position) :
    ∃ q, items (fuel + 1) depth first ⟨blanks ++ ']' :: rest, p⟩ = .ok ([], ⟨rest, q⟩) := by
  obtain ⟨q, hskip⟩ := exists_skipBlank_append hb (']' :: rest) p
  have hend : items (fuel + 1) depth first ⟨']' :: rest, q⟩ = _ := items_end first rest
  refine ⟨q.right 1, ?_⟩
  rw [items] at hend ⊢
  rw [hskip]
  exact hend

def FieldAhead (fuel depth : Nat) (c : Cursor) (f : String × Json) (c' : Cursor) : Prop :=
  ∃ cs p ds q, c.skipBlank = ⟨'"' :: cs, p⟩ ∧
    stringEnd cs (p.right 1) [] = .ok (f.1, ⟨':' :: ds, q⟩) ∧
      value fuel depth ⟨ds, q.right 1⟩ = .ok (f.2, c')

variable {f : String × Json} {fs : List (String × Json)} {k : Cursor}

def FieldReadsAs (ends : List Char → Prop) (depth : Nat) (text : List Char) (f : String × Json) :
    Prop :=
  ∃ blanks inner, Blank blanks ∧ text = blanks ++ ((quote f.1).toList ++ ':' :: inner) ∧
    ReadsAs ends depth inner f.2

theorem FieldReadsAs.ahead (h : FieldReadsAs ends depth text f) {rest : List Char}
    (hends : ends rest) (p : Position) (fuel : Nat) (hfuel : 2 * (text ++ rest).length + 2 ≤ fuel) :
    ∃ q, FieldAhead fuel depth ⟨text ++ rest, p⟩ f ⟨rest, q⟩ := by
  obtain ⟨blanks, inner, hb, rfl, hinner⟩ := h
  have hsplit : blanks ++ ((quote f.1).toList ++ ':' :: inner) ++ rest =
      blanks ++ ('"' :: (f.1.toList.flatMap escapeChar ++ '"' :: ':' :: (inner ++ rest))) := by
    simp [quote]
  obtain ⟨p', hskip⟩ := exists_skipBlank_append hb
    ('"' :: (f.1.toList.flatMap escapeChar ++ '"' :: ':' :: (inner ++ rest))) p
  obtain ⟨q, hname⟩ :=
    exists_stringEnd_escaped f.1.toList (':' :: (inner ++ rest)) (p'.right 1) []
  rw [List.reverse_nil, List.nil_append, String.ofList_toList] at hname
  have hlength : (inner ++ rest).length ≤
      (blanks ++ ((quote f.1).toList ++ ':' :: inner) ++ rest).length := by
    simp only [List.length_append, List.length_cons]
    omega
  obtain ⟨q', hvalue⟩ := hinner rest (q.right 1) fuel hends (by omega)
  rw [hsplit]
  exact ⟨q', _, p', _, q, hskip, hname, hvalue⟩

def further (texts : List (List Char)) : List Char := texts.flatMap ([','] ++ ·)

variable {texts : List (List Char)}

theorem intercalate_comma (t : List Char) (texts : List (List Char)) :
    [','].intercalate (t :: texts) = t ++ further texts := intercalate_cons [','] t texts

theorem further_cons_append (t rest : List Char) (texts : List (List Char)) :
    further (t :: texts) ++ rest = ',' :: (t ++ (further texts ++ rest)) := by
  simp [further]

theorem ends_further (hcomma : ∀ cs, ends (',' :: cs)) {behind : List Char} (hbehind : ends behind)
    (texts : List (List Char)) : ends (further texts ++ behind) := by
  cases texts with
  | nil => exact hbehind
  | cons t texts => exact hcomma _

/-- Lists and objects are parsed alike: parts with commas between them, up to a closing bracket. -/
structure Sequence {α : Type} (blanks : List Char) (close : Char)
    (run : Nat → Bool → Cursor → Except Error (List α × Cursor))
    (ahead : Nat → Cursor → α → Cursor → Prop) : Prop where
  last (fuel : Nat) (first : Bool) (rest : List Char) (p : Position) :
    ∃ q, run (fuel + 1) first ⟨blanks ++ close :: rest, p⟩ = .ok ([], ⟨rest, q⟩)
  first {fuel : Nat} {c c' k : Cursor} {a : α} {as : List α} (h : ahead fuel c a c')
    (hrest : run fuel false c' = .ok (as, k)) : run (fuel + 1) true c = .ok (a :: as, k)
  next {fuel : Nat} {cs : List Char} {p : Position} {c' k : Cursor} {a : α} {as : List α}
    (h : ahead fuel ⟨cs, p.right 1⟩ a c') (hrest : run fuel false c' = .ok (as, k)) :
    run (fuel + 1) false ⟨',' :: cs, p⟩ = .ok (a :: as, k)

theorem sequence_items (hb : Blank blanks) (depth : Nat) : Sequence blanks ']'
    (fun fuel => items fuel depth) fun fuel c j c' => value fuel depth c = .ok (j, c') where
  last _ := exists_items_end hb
  first := items_first
  next := items_next

section Parts

variable {α : Type} {close : Char} {run : Nat → Bool → Cursor → Except Error (List α × Cursor)}
  {ahead : Nat → Cursor → α → Cursor → Prop} {readsAs : List Char → α → Prop} {as : List α}
  (hahead : ∀ {text a rest}, readsAs text a → ends rest → ∀ p fuel,
    2 * (text ++ rest).length + 2 ≤ fuel → ∃ q, ahead fuel ⟨text ++ rest, p⟩ a ⟨rest, q⟩)
  (hcomma : ∀ cs, ends (',' :: cs))
include hahead hcomma

theorem Sequence.exists_further (hrun : Sequence blanks close run ahead)
    (hclose : ends (blanks ++ close :: rest)) (h : List.Forall₂ readsAs texts as) (fuel : Nat)
    (p : Position) (hfuel : 2 * (further texts ++ (blanks ++ close :: rest)).length + 2 ≤ fuel) :
    ∃ q, run fuel false ⟨further texts ++ (blanks ++ close :: rest), p⟩ = .ok (as, ⟨rest, q⟩) := by
  induction h generalizing p fuel with
  | nil =>
    obtain ⟨fuel, rfl⟩ : ∃ k, fuel = k + 1 := ⟨fuel - 1, by omega⟩
    exact hrun.last fuel false rest p
  | @cons t a texts as ht _ ih =>
    rw [further_cons_append] at hfuel ⊢
    obtain ⟨fuel, rfl⟩ : ∃ k, fuel = k + 1 := ⟨fuel - 1, by omega⟩
    rw [List.length_cons] at hfuel
    obtain ⟨q, hq⟩ := hahead ht (ends_further hcomma hclose texts) (p.right 1) fuel (by omega)
    rw [List.length_append] at hfuel
    obtain ⟨q', hq'⟩ := ih fuel q (by omega)
    exact ⟨q', hrun.next hq hq'⟩

theorem Sequence.exists_whole (hrun : Sequence blanks close run ahead)
    (hclose : ends (blanks ++ close :: rest)) (h : List.Forall₂ readsAs texts as) (fuel : Nat)
    (p : Position)
    (hfuel : 2 * ([','].intercalate texts ++ (blanks ++ close :: rest)).length + 3 ≤ fuel) :
    ∃ q, run fuel true ⟨[','].intercalate texts ++ (blanks ++ close :: rest), p⟩ =
      .ok (as, ⟨rest, q⟩) := by
  obtain ⟨fuel, rfl⟩ : ∃ k, fuel = k + 1 := ⟨fuel - 1, by omega⟩
  cases h with
  | nil => exact hrun.last fuel true rest p
  | @cons t a texts as ht hfurther =>
    rw [intercalate_comma, List.append_assoc] at hfuel ⊢
    obtain ⟨q, hq⟩ := hahead ht (ends_further hcomma hclose texts) p fuel (by omega)
    rw [List.length_append] at hfuel
    obtain ⟨q', hq'⟩ := hrun.exists_further hahead hcomma hclose hfurther fuel q (by omega)
    exact ⟨q', hrun.first hq hq'⟩

end Parts

variable (hcomma : ∀ cs, ends (',' :: cs)) (hb : Blank blanks)
include hcomma hb

theorem exists_value_list {rest : List Char} (hclose : ends (blanks ++ ']' :: rest))
    (h : List.Forall₂ (ReadsAs ends depth) texts js) (p : Position)
    (hfuel : 2 * ([','].intercalate texts ++ (blanks ++ ']' :: rest)).length + 4 ≤ fuel) :
    ∃ q, value fuel (depth + 1) ⟨'[' :: ([','].intercalate texts ++ (blanks ++ ']' :: rest)), p⟩ =
      .ok (.array js, ⟨rest, q⟩) := by
  obtain ⟨fuel, rfl⟩ : ∃ k, fuel = k + 1 := ⟨fuel - 1, by omega⟩
  obtain ⟨q, hq⟩ := (sequence_items hb depth).exists_whole
    (fun ht hends p fuel => ht _ p fuel hends) hcomma hclose h fuel (p.right 1) (by omega)
  rw [value_list]
  exact ⟨q, congrArg (Functor.map _) hq⟩

end Json

end Schematics

import Mathlib.Tactic.IntervalCases
import Schematics.Text.Hexadecimal
import Schematics.Text.Quoted

namespace Schematics

namespace Text

theorem hexDigit?_digitChar {d : Nat} (h : d < 16) : hexDigit? d.digitChar = some d := by
  interval_cases d <;> rfl

theorem digitChar_ne_brace {d : Nat} (h : d < 16) : d.digitChar ≠ '\x7d' := by
  interval_cases d <;> decide

theorem hexValue?_append (xs : List Char) (x : Char) :
    hexValue? (xs ++ [x]) = (hexValue? xs).bind fun n => (hexDigit? x).map (16 * n + ·) := by
  rw [hexValue?, List.foldlM_append]
  simp only [List.foldlM_cons, List.foldlM_nil, bind_pure]
  rfl

theorem hexValue?_toDigits (n : Nat) : hexValue? (Nat.toDigits 16 n) = some n := by
  induction n using Nat.strongRecOn with
  | ind n ih =>
    by_cases hn : n < 16
    · rw [Nat.toDigits_of_lt_base hn, ← List.nil_append [n.digitChar], hexValue?_append,
        hexDigit?_digitChar hn]
      simp [hexValue?]
    · have hmod : n % 16 < 16 := Nat.mod_lt n (by decide)
      rw [Nat.toDigits_of_base_le (by decide) (by omega), hexValue?_append, ih (n / 16) (by omega),
        Option.bind_some, hexDigit?_digitChar hmod, Option.map_some, Nat.div_add_mod]

theorem ne_brace_of_mem_toDigits {n : Nat} {c : Char} (hc : c ∈ Nat.toDigits 16 n) : c ≠ '\x7d' := by
  induction n using Nat.strongRecOn with
  | ind n ih =>
    by_cases hn : n < 16
    · rw [Nat.toDigits_of_lt_base hn] at hc
      obtain rfl := List.mem_singleton.1 hc
      exact digitChar_ne_brace hn
    · rw [Nat.toDigits_of_base_le (by decide) (by omega)] at hc
      obtain hc | hc := List.mem_append.1 hc
      · exact ih (n / 16) (by omega) hc
      · obtain rfl := List.mem_singleton.1 hc
        exact digitChar_ne_brace (Nat.mod_lt n (by decide))

def escaped? : List Char → Option (Char × List Char)
  | '0' :: rest => some ('\x00', rest)
  | 't' :: rest => some ('\t', rest)
  | 'r' :: rest => some ('\r', rest)
  | 'n' :: rest => some ('\n', rest)
  | 'u' :: '\x7b' :: rest =>
    (hexValue? (rest.takeWhile (· ≠ '\x7d'))).map fun n =>
      (Char.ofNat n, (rest.dropWhile (· ≠ '\x7d')).tail)
  | c :: rest => some (c, rest)
  | [] => none

def unescape? : List Char → Option (Char × List Char)
  | [] => none
  | c :: rest => if c = '\\' then escaped? rest else if c = '"' then none else some (c, rest)

theorem escaped?_hidden (c : Char) (rest : List Char) :
    escaped? ('u' :: '\x7b' :: (Nat.toDigits 16 c.toNat ++ '\x7d' :: rest)) = some (c, rest) := by
  have hdigits : ∀ x ∈ Nat.toDigits 16 c.toNat, (decide (x ≠ '\x7d')) = true := fun x hx =>
    decide_eq_true (ne_brace_of_mem_toDigits hx)
  simp only [escaped?, List.takeWhile_append_of_pos hdigits, List.dropWhile_append_of_pos hdigits]
  simp [hexValue?_toDigits]

theorem unescape?_escape (c : Char) (rest : List Char) :
    unescape? (escape c ++ rest) = some (c, rest) := by
  unfold escape
  split
  · rfl
  · rfl
  · rfl
  · rfl
  · rfl
  · rfl
  · next hquote hbackslash =>
    split
    · simp only [List.cons_append, List.append_assoc, List.nil_append]
      exact escaped?_hidden c rest
    · rw [List.singleton_append, unescape?, if_neg hbackslash, if_neg hquote]

variable {c d : Char} {cs ds x y : List Char}

theorem escape_append_inj (h : escape c ++ x = escape d ++ y) : c = d ∧ x = y := by
  have hread := congrArg unescape? h
  rw [unescape?_escape, unescape?_escape, Option.some.injEq] at hread
  exact Prod.mk.inj hread

theorem escape_append_ne (c : Char) : escape c ++ x ≠ '"' :: y := by
  intro h
  have hread := congrArg unescape? h
  rw [unescape?_escape] at hread
  exact nomatch hread

theorem flatMap_escape_inj (h : cs.flatMap escape ++ '"' :: x = ds.flatMap escape ++ '"' :: y) :
    cs = ds ∧ x = y := by
  induction cs generalizing ds with
  | nil =>
    cases ds with
    | nil => exact ⟨rfl, (List.cons.inj h).2⟩
    | cons d ds =>
      rw [List.flatMap_cons, List.append_assoc] at h
      exact absurd h.symm (escape_append_ne d)
  | cons c cs ih =>
    cases ds with
    | nil =>
      rw [List.flatMap_cons, List.append_assoc] at h
      exact absurd h (escape_append_ne c)
    | cons d ds =>
      rw [List.flatMap_cons, List.flatMap_cons, List.append_assoc, List.append_assoc] at h
      obtain ⟨rfl, hrest⟩ := escape_append_inj h
      obtain ⟨rfl, rfl⟩ := ih hrest
      exact ⟨rfl, rfl⟩

theorem quoted_append_inj {s s' : String}
    (h : (quoted s).toList ++ x = (quoted s').toList ++ y) : s = s' ∧ x = y := by
  simp only [quoted, String.toList_ofList, List.cons_append, List.append_assoc, List.nil_append,
    List.cons.injEq, true_and] at h
  obtain ⟨hs, rfl⟩ := flatMap_escape_inj h
  exact ⟨String.toList_injective hs, rfl⟩

end Text

end Schematics

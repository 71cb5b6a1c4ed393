import Schematics.Proofs.PrettyTexts
import Schematics.Proofs.Warnings

namespace Schematics

namespace Diagnostic

open Json

variable {d : Diagnostic} {j : Json} {name : String} {texts : List String}

theorem mem_listed {f : String × Json} (h : f ∈ listed name texts) :
    f = (name, .array (texts.map .string)) := by
  unfold listed at h
  split at h
  · exact nomatch h
  · exact List.mem_singleton.1 h

theorem fits_strings {depth : Nat} (texts : List String) :
    Fits (depth + 1) (.array (texts.map .string)) := by
  refine .array fun j hj => ?_
  obtain ⟨s, -, rfl⟩ := List.mem_map.1 hj
  exact .string s

theorem distinct_strings (texts : List String) : (array (texts.map .string)).Distinct := by
  refine distinct_array_iff.2 fun j hj => ?_
  obtain ⟨s, -, rfl⟩ := List.mem_map.1 hj
  trivial

theorem Describes.exists_fields (h : d.Describes j) : ∃ fields, j = .object fields ∧
    (fields.map Prod.fst).Nodup ∧ ∀ f ∈ fields, (∃ s, f.2 = .string s) ∨
      (∃ c, f.2 = .object [("category", .string c), ("number", .int d.code.number)]) ∨
        ∃ texts : List String, f.2 = .array (texts.map .string) := by
  obtain ⟨-, -⟩ := h
  refine ⟨_, rfl, ?_, fun f hf => ?_⟩
  · cases d.location <;> by_cases hnotes : d.notes = [] <;> by_cases hhelp : d.help = [] <;>
      simp [listed, hnotes, hhelp]
  · simp only [List.cons_append, List.nil_append, List.append_assoc, List.mem_cons, List.mem_append,
      List.mem_map] at hf
    obtain rfl | rfl | rfl | ⟨l, -, rfl⟩ | hf | hf := hf
    · exact .inl ⟨_, rfl⟩
    · exact .inr (.inl ⟨_, rfl⟩)
    · exact .inl ⟨_, rfl⟩
    · exact .inl ⟨l, rfl⟩
    · exact .inr (.inr ⟨d.notes, mem_listed hf ▸ rfl⟩)
    · exact .inr (.inr ⟨d.help, mem_listed hf ▸ rfl⟩)

theorem Describes.fits (h : d.Describes j) (hd : d.code.HasThreeDigits) (depth : Nat) :
    Fits (depth + 2) j := by
  obtain ⟨fields, rfl, -, hfields⟩ := h.exists_fields
  have hnumber : d.code.number ≤ maxSignificand :=
    Nat.le_trans (Nat.le_of_lt hd.2) (by decide)
  refine .object fun f hf => ?_
  obtain ⟨s, hs⟩ | ⟨c, hc⟩ | ⟨texts, htexts⟩ := hfields f hf
  · exact hs ▸ .string s
  · exact hc ▸ .object (by simp [Fits.string, Fits.int hnumber])
  · exact htexts ▸ fits_strings texts

theorem Describes.distinct (h : d.Describes j) : j.Distinct := by
  obtain ⟨fields, rfl, hnames, hfields⟩ := h.exists_fields
  refine distinct_object_iff.2 ⟨hnames, fun f hf => ?_⟩
  obtain ⟨s, hs⟩ | ⟨c, hc⟩ | ⟨texts, htexts⟩ := hfields f hf
  · rw [hs]
    trivial
  · rw [hc]
    exact distinct_object_iff.2 (by simp [Distinct])
  · rw [htexts]
    exact distinct_strings texts

end Diagnostic

namespace CommandLine

variable {i : Invocation} {o : ReadOptions} {path text : String}

def announcement (i : Invocation) (path : String) : List String :=
  if i.action = .check ∧ i.format = .text ∧ i.verbosity.quiet = false then [s!"   Checking {path}"]
  else []

def resultLines (i : Invocation) (warnings : Nat) : List String :=
  if i.verbosity.quiet then [] else [s!"   Result: 1 error(s), {warnings} warning(s)"]

inductive Rejection (i : Invocation) (coloured : Bool) (path : String) (shown : List Diagnostic)
    (warnings : Nat) : Outcome → Prop
  | text {groups : List (List String)} (ha : i.action = .check) (hf : i.format = .text)
    (hl : List.Forall₂ (Diagnostic.Lines coloured) shown groups) :
    Rejection i coloured path shown warnings
      { exitCode := 1
        messages := Text.ofLines
          (announcement i path ++ groups.flatten ++ resultLines i warnings) }
  | json {reports : List Json} {output : String} (ha : i.action = .check) (hf : i.format = .json)
    (hr : List.Forall₂ Diagnostic.Describes shown reports)
    (ho : Json.parse output = .ok (.object
      [("ok", .bool false), ("summary", .null), ("diagnostics", .array reports)])) :
    Rejection i coloured path shown warnings { exitCode := 1, output }
  | dump {groups : List (List String)} (ha : i.action = .dump)
    (hl : List.Forall₂ (Diagnostic.Lines coloured) shown groups) :
    Rejection i coloured path shown warnings
      { exitCode := 1, messages := Text.ofLines groups.flatten }

variable {coloured : Bool} {shown : List Diagnostic} {warnings : Nat} {r : Outcome}

theorem Rejection.exitCode (h : Rejection i coloured path shown warnings r) : r.exitCode = 1 := by
  cases h <;> rfl

theorem Rejection.output (h : Rejection i coloured path shown warnings r) (ha : i.action = .dump) :
    r.output = "" := by
  cases h with
  | text hcheck | json hcheck => exact nomatch ha.symm.trans hcheck
  | dump => rfl

end CommandLine

end Schematics

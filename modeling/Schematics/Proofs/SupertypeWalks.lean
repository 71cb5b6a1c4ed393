import Mathlib.Data.List.Nodup
import Mathlib.Data.List.Perm.Subperm
import Schematics.Proofs.TypeOrder

/-!
Climbing from a type to its supertypes, whatever the types are that a schematic holds: links may
lead in a circle, to types of another category or to none. A climb that remembers where it has been
ends before it has followed more links than there are types, and its answer says where it ended.
-/

namespace Schematics

namespace Schematic

variable {s : Schematic} {start id next t : TypeId} {c : Category} {chain : List TypeId}
  {link : Option TypeId}

inductive Leads (s : Schematic) (start : TypeId) (c : Category) :
    List TypeId → Option TypeId → Prop
  | start {d : TypeDef} (hd : s.type? start = some d) (hc : d.category = c) :
    Leads s start c [start] d.shape.supertype
  | link {chain : List TypeId} {next : TypeId} {d : TypeDef} (h : Leads s start c chain (some next))
    (hnew : next ∉ chain) (hd : s.type? next = some d) (hc : d.category = c) :
    Leads s start c (chain ++ [next]) d.shape.supertype

/--
A climb that remembers the types in `chain` and has `link` to follow: how many links it follows
until it ends, and its answer.
-/
inductive Climbs (s : Schematic) (start : TypeId) (c : Category) :
    List TypeId → Option TypeId → Nat → Except Fault (List TypeId) → Prop
  | top {chain : List TypeId} : Climbs s start c chain none 0 (.ok chain)
  | cycle {chain : List TypeId} {next : TypeId} (hmet : next ∈ chain) :
    Climbs s start c chain (some next) 1 (.error (.supertypeCycle (s.describe start)))
  | missing {chain : List TypeId} {next : TypeId} (hnew : next ∉ chain)
    (hd : s.type? next = none) : Climbs s start c chain (some next) 1
      (.error (.internal s!"supertype {next.text} of {start.text} is not registered"))
  | foreign {chain : List TypeId} {next : TypeId} {d : TypeDef} (hnew : next ∉ chain)
    (hd : s.type? next = some d) (hc : d.category ≠ c) : Climbs s start c chain (some next) 1
      (.error (.internal
        s!"supertype {next.text} of {start.text} is a {d.category.text}, expected a {c.text}"))
  | follow {chain : List TypeId} {next : TypeId} {d : TypeDef} {links : Nat}
    {answer : Except Fault (List TypeId)} (hnew : next ∉ chain) (hd : s.type? next = some d)
    (hc : d.category = c) (h : Climbs s start c (chain ++ [next]) d.shape.supertype links answer) :
    Climbs s start c chain (some next) (links + 1) answer

theorem Leads.head? (h : s.Leads start c chain link) : chain.head? = some start := by
  induction h with
  | start hd hc => rfl
  | link h hnew hd hc ih => rw [List.head?_append, ih, Option.some_or]

theorem Leads.nodup (h : s.Leads start c chain link) : chain.Nodup := by
  induction h with
  | start hd hc => exact List.nodup_singleton _
  | link h hnew hd hc ih => exact List.nodup_append.2 ⟨ih, List.nodup_singleton _, by grind⟩

theorem Leads.registered (h : s.Leads start c chain link) : ∀ t ∈ chain, ∃ d, s.type? t = some d ∧
    d.category = c ∧ (d.shape.supertype = link ∨ ∃ u ∈ chain, d.shape.supertype = some u) := by
  induction h with
  | @start d hd hc =>
    intro t ht
    obtain rfl := List.mem_singleton.1 ht
    exact ⟨d, hd, hc, .inl rfl⟩
  | @link chain next d h hnew hd hc ih =>
    intro t ht
    obtain ht | ht := List.mem_append.1 ht
    · obtain ⟨d', hd', hc', hnext | ⟨u, hu, hnext⟩⟩ := ih t ht
      · exact ⟨d', hd', hc', .inr ⟨next, by simp, hnext⟩⟩
      · exact ⟨d', hd', hc', .inr ⟨u, List.mem_append_left _ hu, hnext⟩⟩
    · obtain rfl := List.mem_singleton.1 ht
      exact ⟨d, hd, hc, .inl rfl⟩

theorem Leads.length_le (h : s.Leads start c chain link) : chain.length ≤ s.types.size := by
  have hinjective : Function.Injective (Handle.raw : TypeId → Nat) := fun a b hab => by
    cases a
    cases b
    exact congrArg Handle.mk hab
  have hsub : chain.map Handle.raw ⊆ List.range' 1 s.types.size := by
    intro raw hraw
    obtain ⟨t, ht, rfl⟩ := List.mem_map.1 hraw
    obtain ⟨d, hd, -⟩ := h.registered t ht
    obtain ⟨hpos, hle⟩ := raw_le_size hd
    rw [List.mem_range'_1]
    omega
  have hcount := ((h.nodup.map hinjective).subperm hsub).length_le
  rwa [List.length_map, List.length_range'] at hcount

theorem climb_of_type? {d : TypeDef} (hd : s.type? next = some d) (hc : d.category = c)
    (links : Nat) : s.climb start c (links + 1) (some next) =
      ((next, d) :: ·) <$> s.climb start c links d.shape.supertype := by
  obtain ⟨symbol, he⟩ := type?_eq_some_iff.1 hd
  rw [climb]
  simp only [he, hc, if_true]

theorem climb_of_closed (h : ∀ t ∈ chain, ∃ d, s.type? t = some d ∧ d.category = c ∧
    ∃ u ∈ chain, d.shape.supertype = some u) (ht : t ∈ chain) (links : Nat) :
    s.climb start c links (some t) = .error (.supertypeCycle (s.describe start)) := by
  induction links generalizing t with
  | zero => rfl
  | succ links ih =>
    obtain ⟨d, hd, hc, u, hu, hnext⟩ := h t ht
    rw [climb_of_type? hd hc, hnext, ih hu]
    rfl

theorem Leads.closed (h : s.Leads start c chain (some next)) (hmet : next ∈ chain) :
    ∀ t ∈ chain, ∃ d, s.type? t = some d ∧ d.category = c ∧
      ∃ u ∈ chain, d.shape.supertype = some u := by
  intro t ht
  obtain ⟨d, hd, hc, hnext | hnext⟩ := h.registered t ht
  · exact ⟨d, hd, hc, next, hmet, hnext⟩
  · exact ⟨d, hd, hc, hnext⟩

def beyond (s : Schematic) (start : TypeId) (c : Category) (chain : List TypeId) (links : Nat)
    (link : Option TypeId) : Except Fault (List TypeId) :=
  (fun line => chain ++ line.map Prod.fst) <$> s.climb start c links link

theorem beyond_none (links : Nat) : s.beyond start c chain links none = .ok chain := by
  simp [beyond, climb, Functor.map, Except.map]

theorem beyond_of_type? {d : TypeDef} (hd : s.type? next = some d) (hc : d.category = c)
    (links : Nat) : s.beyond start c chain (links + 1) (some next) =
      s.beyond start c (chain ++ [next]) links d.shape.supertype := by
  rw [beyond, beyond, climb_of_type? hd hc]
  cases s.climb start c links d.shape.supertype with
  | error f => rfl
  | ok line => simp [Functor.map, Except.map]

theorem Leads.exists_climbs (h : s.Leads start c chain link) {links : Nat}
    (hlinks : links + chain.length = s.types.size + 1) :
    ∃ n ≤ links, s.Climbs start c chain link n (s.beyond start c chain links link) := by
  -- As many links are left as there are types that were not met, and one more, so that they cannot
  -- run out before the climb has come back to a type that it remembers.
  induction links generalizing chain link with
  | zero =>
    have hle := h.length_le
    omega
  | succ links ih =>
    cases link with
    | none =>
      rw [beyond_none]
      exact ⟨0, Nat.zero_le _, .top⟩
    | some next =>
      by_cases hmet : next ∈ chain
      · rw [beyond, climb_of_closed (h.closed hmet) hmet]
        exact ⟨1, by omega, .cycle hmet⟩
      · cases hd : s.type? next with
        | none =>
          have he : s.types.get? next = none := Option.map_eq_none_iff.1 hd
          rw [beyond, climb, he]
          exact ⟨1, by omega, .missing hmet hd⟩
        | some d =>
          by_cases hc : d.category = c
          · rw [beyond_of_type? hd hc]
            obtain ⟨n, hn, hclimbs⟩ := ih (h.link hmet hd hc) (by
              rw [List.length_append, List.length_singleton]
              omega)
            exact ⟨n + 1, by omega, .follow hmet hd hc hclimbs⟩
          · obtain ⟨symbol, he⟩ := type?_eq_some_iff.1 hd
            rw [beyond, climb, he]
            simp only [hc, if_false]
            exact ⟨1, by omega, .foreign hmet hd hc⟩

theorem supertypeChain_of_type? {d : TypeDef} (hd : s.type? id = some d) :
    s.supertypeChain id = s.beyond id d.category [id] s.types.size d.shape.supertype := by
  rw [supertypeChain, lineage_of_type? hd, beyond]
  cases s.climb id d.category s.types.size d.shape.supertype <;> rfl

theorem exists_climbs_of_type? {d : TypeDef} (hd : s.type? id = some d) :
    ∃ links ≤ s.types.size,
      s.Climbs id d.category [id] d.shape.supertype links (s.supertypeChain id) := by
  rw [supertypeChain_of_type? hd]
  exact (Leads.start hd rfl).exists_climbs rfl

theorem Climbs.unique {n n' : Nat} {answer answer' : Except Fault (List TypeId)}
    (h : s.Climbs start c chain link n answer) (h' : s.Climbs start c chain link n' answer') :
    answer = answer' := by
  induction h generalizing n' with
  | top =>
    cases h'
    rfl
  | cycle hmet =>
    cases h' with
    | cycle => rfl
    | missing hnew | foreign hnew | follow hnew => exact absurd hmet hnew
  | missing hnew hd =>
    cases h' with
    | cycle hmet => exact absurd hmet hnew
    | missing => rfl
    | foreign hnew hd' | follow hnew hd' => cases hd.symm.trans hd'
  | foreign hnew hd hc =>
    cases h' with
    | cycle hmet => exact absurd hmet hnew
    | missing hnew hd' => cases hd.symm.trans hd'
    | foreign hnew hd' =>
      obtain rfl := Option.some.inj (hd.symm.trans hd')
      rfl
    | follow hnew hd' hc' =>
      obtain rfl := Option.some.inj (hd.symm.trans hd')
      exact absurd hc' hc
  | follow hnew hd hc h ih =>
    cases h' with
    | cycle hmet => exact absurd hmet hnew
    | missing hnew hd' => cases hd.symm.trans hd'
    | foreign hnew hd' hc' =>
      obtain rfl := Option.some.inj (hd.symm.trans hd')
      exact absurd hc hc'
    | follow hnew hd' hc' h' =>
      obtain rfl := Option.some.inj (hd.symm.trans hd')
      exact ih h'

theorem Leads.answer_eq (h : s.Leads id c chain link) {n : Nat}
    {answer : Except Fault (List TypeId)} (hclimbs : s.Climbs id c chain link n answer) :
    s.supertypeChain id = answer := by
  induction h generalizing n with
  | @start d hd hc =>
    obtain rfl := hc
    obtain ⟨links, -, hwhole⟩ := exists_climbs_of_type? hd
    exact hwhole.unique hclimbs
  | link h hnew hd hc ih => exact ih (.follow hnew hd hc hclimbs)

inductive Ends (s : Schematic) (start : TypeId) : Except Fault (List TypeId) → Prop
  | top {c : Category} {chain : List TypeId} (h : s.Leads start c chain none) :
    Ends s start (.ok chain)
  | cycle {c : Category} {chain : List TypeId} {next : TypeId}
    (h : s.Leads start c chain (some next)) (hmet : next ∈ chain) :
    Ends s start (.error (.supertypeCycle (s.describe start)))
  | astray {c : Category} {chain : List TypeId} {next : TypeId}
    (h : s.Leads start c chain (some next)) (hd : ∀ d, s.type? next = some d → d.category ≠ c)
    (message : String) : Ends s start (.error (.internal message))

theorem Climbs.ends {n : Nat} {answer : Except Fault (List TypeId)}
    (h : s.Climbs start c chain link n answer) (hleads : s.Leads start c chain link) :
    s.Ends start answer := by
  induction h with
  | top => exact .top hleads
  | cycle hmet => exact .cycle hleads hmet
  | missing hnew hd =>
    refine .astray hleads (fun d hd' => ?_) _
    cases hd.symm.trans hd'
  | foreign hnew hd hc =>
    refine .astray hleads (fun d' hd' => ?_) _
    obtain rfl := Option.some.inj (hd.symm.trans hd')
    exact hc
  | follow hnew hd hc h ih => exact ih (hleads.link hnew hd hc)

theorem ends_of_type? {d : TypeDef} (hd : s.type? id = some d) :
    s.Ends id (s.supertypeChain id) := by
  obtain ⟨links, -, hclimbs⟩ := exists_climbs_of_type? hd
  exact hclimbs.ends (.start hd rfl)

theorem supertypeChain_of_unknown (h : s.type? id = none) :
    s.supertypeChain id = .error (.undeclared .type id.text) := by
  have he : s.types.get? id = none := Option.map_eq_none_iff.1 h
  rw [supertypeChain, lineage, typeDefinition, typeEntry, he]
  rfl

theorem ends_or_unknown (s : Schematic) (id : TypeId) : s.Ends id (s.supertypeChain id) ∨
    s.type? id = none ∧ s.supertypeChain id = .error (.undeclared .type id.text) := by
  cases hd : s.type? id with
  | none => exact .inr ⟨rfl, supertypeChain_of_unknown hd⟩
  | some d => exact .inl (ends_of_type? hd)

theorem supertypeChain_eq_ok_iff :
    s.supertypeChain id = .ok chain ↔ ∃ c, s.Leads id c chain none := by
  constructor
  · intro h
    obtain hends | ⟨-, hunknown⟩ := s.ends_or_unknown id
    · rw [h] at hends
      cases hends with
      | top hleads => exact ⟨_, hleads⟩
    · cases h.symm.trans hunknown
  · rintro ⟨c, hleads⟩
    exact hleads.answer_eq .top

theorem supertypeChain_eq_cycle_iff {name : String} :
    s.supertypeChain id = .error (.supertypeCycle name) ↔ name = s.describe id ∧
      ∃ c chain next, s.Leads id c chain (some next) ∧ next ∈ chain := by
  constructor
  · intro h
    obtain hends | ⟨-, hunknown⟩ := s.ends_or_unknown id
    · rw [h] at hends
      cases hends with
      | cycle hleads hmet => exact ⟨rfl, _, _, _, hleads, hmet⟩
    · cases h.symm.trans hunknown
  · rintro ⟨rfl, c, chain, next, hleads, hmet⟩
    exact hleads.answer_eq (.cycle hmet)

theorem exists_internal_iff : (∃ message, s.supertypeChain id = .error (.internal message)) ↔
    ∃ c chain next, s.Leads id c chain (some next) ∧
      ∀ d, s.type? next = some d → d.category ≠ c := by
  constructor
  · rintro ⟨message, h⟩
    obtain hends | ⟨-, hunknown⟩ := s.ends_or_unknown id
    · rw [h] at hends
      cases hends with
      | astray hleads hd => exact ⟨_, _, _, hleads, hd⟩
    · cases h.symm.trans hunknown
  · rintro ⟨c, chain, next, hleads, hastray⟩
    have hnew : next ∉ chain := by
      intro hmet
      obtain ⟨d, hd, hc, -⟩ := hleads.registered next hmet
      exact hastray d hd hc
    cases hd : s.type? next with
    | none => exact ⟨_, hleads.answer_eq (.missing hnew hd)⟩
    | some d => exact ⟨_, hleads.answer_eq (.foreign hnew hd (hastray d hd))⟩

theorem supertypeChain_eq_undeclared_iff {space : Namespace} {name : String} :
    s.supertypeChain id = .error (.undeclared space name) ↔
      space = .type ∧ name = id.text ∧ s.type? id = none := by
  constructor
  · intro h
    obtain hends | ⟨hd, hunknown⟩ := s.ends_or_unknown id
    · rw [h] at hends
      cases hends
    · cases h.symm.trans hunknown
      exact ⟨rfl, rfl, hd⟩
  · rintro ⟨rfl, rfl, hd⟩
    exact supertypeChain_of_unknown hd

/--
Whatever types a schematic holds, a climb from one of them that remembers where it has been ends
after following no more links than there are types, and that is the chain of supertypes or the fault
that is answered. The answer is a chain exactly when the links come to a type without a supertype;
there is a circle exactly when they come back to a type met before, and a contradiction exactly when
they come to a type that is missing or of another category. Only a type that is not registered has
no climb.
-/
theorem supertypeChain_exactly (s : Schematic) (id : TypeId) :
    (∀ d, s.type? id = some d → ∃ links ≤ s.types.size,
      s.Climbs id d.category [id] d.shape.supertype links (s.supertypeChain id)) ∧
    (∀ chain, s.supertypeChain id = .ok chain ↔ ∃ c, s.Leads id c chain none) ∧
    (∀ chain, s.supertypeChain id = .ok chain → chain.head? = some id ∧ chain.Nodup) ∧
    (∀ name, s.supertypeChain id = .error (.supertypeCycle name) ↔ name = s.describe id ∧
      ∃ c chain next, s.Leads id c chain (some next) ∧ next ∈ chain) ∧
    ((∃ message, s.supertypeChain id = .error (.internal message)) ↔
      ∃ c chain next, s.Leads id c chain (some next) ∧
        ∀ d, s.type? next = some d → d.category ≠ c) ∧
    ∀ space name, s.supertypeChain id = .error (.undeclared space name) ↔
      space = .type ∧ name = id.text ∧ s.type? id = none := by
  refine ⟨fun d => exists_climbs_of_type?, fun _ => supertypeChain_eq_ok_iff, fun chain h => ?_,
    fun _ => supertypeChain_eq_cycle_iff, exists_internal_iff,
    fun _ _ => supertypeChain_eq_undeclared_iff⟩
  obtain ⟨c, hleads⟩ := supertypeChain_eq_ok_iff.1 h
  exact ⟨hleads.head?, hleads.nodup⟩

example : supertypeChain
    { name := "", types := ⟨#[⟨⟨0⟩, { shape := .port { supertype := some ⟨2⟩ } }⟩,
      ⟨⟨0⟩, { shape := .port { supertype := some ⟨1⟩ } }⟩]⟩ } ⟨1⟩ =
    .error (.supertypeCycle "#1") := by rfl

end Schematic

end Schematics

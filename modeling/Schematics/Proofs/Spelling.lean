import Mathlib.Data.List.Forall2
import Schematics.Proofs.NameMaps
import Schematics.Proofs.Success

namespace Schematics

variable {α β ε : Type}

def Spells (R : String → α → β → Prop) (fields : List (String × α)) (m : NameMap β) : Prop :=
  m.Sorted ∧ ∀ name, Option.Rel (R name) (fields.lookup name) (m.get? name)

theorem rel_some_left {R : α → β → Prop} {a : α} {y : Option β} :
    Option.Rel R (some a) y ↔ ∃ b, y = some b ∧ R a b := by
  constructor
  · rintro (⟨h⟩)
    exact ⟨_, rfl, h⟩
  · rintro ⟨b, rfl, h⟩
    exact .some h

theorem rel_some_right {R : α → β → Prop} {x : Option α} {b : β} :
    Option.Rel R x (some b) ↔ ∃ a, x = some a ∧ R a b := by
  constructor
  · rintro (⟨h⟩)
    exact ⟨_, rfl, h⟩
  · rintro ⟨a, rfl, h⟩
    exact .some h

theorem rel_none_left {R : α → β → Prop} {y : Option β} : Option.Rel R none y ↔ y = none :=
  ⟨fun h => by cases h; rfl, fun h => h ▸ .none⟩

theorem rel_none_right {R : α → β → Prop} {x : Option α} : Option.Rel R x none ↔ x = none :=
  ⟨fun h => by cases h; rfl, fun h => h ▸ .none⟩

theorem rel_mono {R S : α → β → Prop} {x : Option α} {y : Option β} (h : Option.Rel R x y)
    (hRS : ∀ a b, R a b → S a b) : Option.Rel S x y := by
  cases h with
  | none => exact .none
  | some h => exact .some (hRS _ _ h)

theorem exists_forall₂_iff {R : α → β → Prop} {l : List α} :
    (∃ ys, List.Forall₂ R l ys) ↔ ∀ a ∈ l, ∃ b, R a b := by
  induction l with
  | nil => simp
  | cons a rest ih =>
    rw [List.forall_mem_cons, ← ih]
    constructor
    · rintro ⟨ys, h⟩
      obtain ⟨b, bs, hb, hbs, rfl⟩ := List.forall₂_cons_left_iff.1 h
      exact ⟨⟨b, hb⟩, bs, hbs⟩
    · rintro ⟨⟨b, hb⟩, bs, hbs⟩
      exact ⟨b :: bs, .cons hb hbs⟩

theorem exists_of_forall₂_left {R : α → β → Prop} {l : List α} {l' : List β}
    (h : List.Forall₂ R l l') {a : α} (ha : a ∈ l) : ∃ b ∈ l', R a b := by
  induction h with
  | nil => exact absurd ha List.not_mem_nil
  | cons hab _ ih =>
    obtain rfl | ha := List.mem_cons.1 ha
    · exact ⟨_, List.mem_cons_self, hab⟩
    · obtain ⟨b, hb, hr⟩ := ih ha
      exact ⟨b, List.mem_cons_of_mem _ hb, hr⟩

theorem exists_of_forall₂_right {R : α → β → Prop} {l : List α} {l' : List β}
    (h : List.Forall₂ R l l') {b : β} (hb : b ∈ l') : ∃ a ∈ l, R a b :=
  exists_of_forall₂_left h.flip hb

theorem forall₂_trans {γ : Type} {R : α → β → Prop} {S : β → γ → Prop} {T : α → γ → Prop}
    (hT : ∀ a b c, R a b → S b c → T a c) {l : List α} {l' : List β} {l'' : List γ}
    (h : List.Forall₂ R l l') (h' : List.Forall₂ S l' l'') : List.Forall₂ T l l'' := by
  induction h generalizing l'' with
  | nil =>
    rw [List.forall₂_nil_left_iff.1 h']
    exact .nil
  | cons hab _ ih =>
    obtain ⟨c, rest, hbc, hrest, rfl⟩ := List.forall₂_cons_left_iff.1 h'
    exact .cons (hT _ _ _ hab hbc) (ih hrest)

theorem rel_lookup {R : String → α → β → Prop} {l : List (String × α)} {l' : List (String × β)}
    (h : List.Forall₂ (fun f e => e.1 = f.1 ∧ R f.1 f.2 e.2) l l') (name : String) :
    Option.Rel (R name) (l.lookup name) (l'.lookup name) := by
  induction h with
  | nil => exact .none
  | @cons f e _ _ he _ ih =>
    obtain ⟨_, a⟩ := f
    obtain ⟨other, b⟩ := e
    obtain ⟨rfl, hr⟩ := he
    by_cases hn : name = other
    · subst hn
      simpa using Option.Rel.some hr
    · have hne : (name == other) = false := by simp [hn]
      simpa only [List.lookup_cons, hne] using ih

theorem map_eq_of_forall₂ {γ : Type} {R : α → β → Prop} {f : α → γ} {g : β → γ}
    (hR : ∀ a b, R a b → g b = f a) {l : List α} {l' : List β} (h : List.Forall₂ R l l') :
    l'.map g = l.map f := by
  induction h with
  | nil => rfl
  | cons hab _ ih => rw [List.map_cons, List.map_cons, hR _ _ hab, ih]

theorem forall₂_of_names {R : α → β → Prop} {l : List (String × α)} {l' : List (String × β)}
    (hn : l.map Prod.fst = l'.map Prod.fst)
    (hR : ∀ name a b, (name, a) ∈ l → (name, b) ∈ l' → R a b) :
    List.Forall₂ (fun e e' => e'.1 = e.1 ∧ R e.2 e'.2) l l' := by
  induction l generalizing l' with
  | nil =>
    rw [List.map_eq_nil_iff.1 hn.symm]
    exact .nil
  | cons e rest ih =>
    cases l' with
    | nil => exact nomatch hn
    | cons e' rest' =>
      obtain ⟨name, a⟩ := e
      obtain ⟨name', b⟩ := e'
      obtain ⟨rfl, hrest⟩ := List.cons.inj hn
      refine .cons ⟨rfl, hR _ a b List.mem_cons_self List.mem_cons_self⟩ (ih hrest ?_)
      intro name a b ha hb
      exact hR name a b (List.mem_cons_of_mem _ ha) (List.mem_cons_of_mem _ hb)

namespace Spells

variable {R S : String → α → β → Prop} {fields : List (String × α)} {m n : NameMap β}

theorem mono (h : Spells R fields m) (hRS : ∀ name a b, R name a b → S name a b) :
    Spells S fields m :=
  ⟨h.1, fun name => rel_mono (h.2 name) (hRS name)⟩

theorem congr (hRS : ∀ name a b, R name a b ↔ S name a b) : Spells R fields m ↔ Spells S fields m :=
  ⟨fun h => h.mono fun name a b => (hRS name a b).1, fun h => h.mono fun name a b => (hRS name a b).2⟩

theorem of_entry (h : Spells R fields m) {name : String} {b : β} (hb : (name, b) ∈ m.entries) :
    ∃ a, fields.lookup name = some a ∧ R name a b := by
  have hname := h.2 name
  rw [h.1.get?_eq_some_iff.2 hb] at hname
  exact rel_some_right.1 hname

theorem of_lookup (h : Spells R fields m) {name : String} {a : α}
    (ha : fields.lookup name = some a) : ∃ b, m.get? name = some b ∧ R name a b := by
  have hname := h.2 name
  rw [ha] at hname
  exact rel_some_left.1 hname

theorem unique (h : Spells R fields m) (h' : Spells R fields n)
    (hR : ∀ name a b c, R name a b → R name a c → b = c) : m = n := by
  apply h.1.eq_of_get? h'.1
  intro name
  have hm := h.2 name
  have hn := h'.2 name
  revert hm hn
  cases fields.lookup name with
  | none => rw [rel_none_left, rel_none_left]; exact fun hm hn => hm.trans hn.symm
  | some a =>
    rw [rel_some_left, rel_some_left]
    rintro ⟨b, hb, hab⟩ ⟨c, hc, hac⟩
    rw [hb, hc, hR name a b c hab hac]

theorem of_forall₂ (hnames : (fields.map Prod.fst).Nodup) {entries : List (String × β)}
    (h : List.Forall₂ (fun f e => e.1 = f.1 ∧ R f.1 f.2 e.2) fields entries) :
    Spells R fields (.ofList entries) := by
  refine ⟨NameMap.sorted_ofList entries, fun name => ?_⟩
  have hentries : entries.map Prod.fst = fields.map Prod.fst := map_eq_of_forall₂ (fun _ _ h => h.1) h
  rw [NameMap.get?_ofList (hentries ▸ hnames)]
  exact rel_lookup h name

theorem exists_iff (hnames : (fields.map Prod.fst).Nodup) :
    (∃ m, Spells R fields m) ↔ ∀ name a, (name, a) ∈ fields → ∃ b, R name a b := by
  constructor
  · rintro ⟨m, h⟩ name a ha
    obtain ⟨b, -, hb⟩ := h.of_lookup ((lookup_eq_some_iff_mem hnames).2 ha)
    exact ⟨b, hb⟩
  · intro h
    have hfields : ∀ f ∈ fields, ∃ e : String × β, e.1 = f.1 ∧ R f.1 f.2 e.2 := by
      rintro ⟨name, a⟩ hf
      obtain ⟨b, hb⟩ := h name a hf
      exact ⟨(name, b), rfl, hb⟩
    obtain ⟨entries, he⟩ := exists_forall₂_iff.2 hfields
    exact ⟨_, of_forall₂ hnames he⟩

end Spells

theorem foldlM_insert_eq_ok_iff {g : String × α → Except ε β} {fields : List (String × α)}
    {start m : NameMap β} :
    fields.foldlM (fun m f => m.insert f.1 <$> g f) start = .ok m ↔
      ∃ entries, List.Forall₂ (fun f e => e.1 = f.1 ∧ g f = .ok e.2) fields entries ∧
        start.insertAll entries = m := by
  induction fields generalizing start with
  | nil => simp [NameMap.insertAll]
  | cons f rest ih =>
    simp only [List.foldlM_cons, bind_eq_ok_iff, map_eq_ok_iff, ih]
    constructor
    · rintro ⟨_, ⟨b, hb, rfl⟩, entries, he, hm⟩
      exact ⟨(f.1, b) :: entries, .cons ⟨rfl, hb⟩ he, hm⟩
    · rintro ⟨entries, he, hm⟩
      obtain ⟨⟨name, b⟩, rest', ⟨rfl, hb⟩, hrest, rfl⟩ := List.forall₂_cons_left_iff.1 he
      exact ⟨_, ⟨b, hb, rfl⟩, rest', hrest, hm⟩

theorem foldlM_eq_ok_iff_spells {g : String × α → Except ε β} {fields : List (String × α)}
    (hnames : (fields.map Prod.fst).Nodup) {m : NameMap β} :
    fields.foldlM (fun m f => m.insert f.1 <$> g f) ∅ = .ok m ↔
      Spells (fun name a b => g (name, a) = .ok b) fields m := by
  rw [foldlM_insert_eq_ok_iff]
  constructor
  · rintro ⟨entries, he, rfl⟩
    exact .of_forall₂ hnames he
  · intro h
    have hfields : ∀ f ∈ fields, ∃ e : String × β, e.1 = f.1 ∧ g f = .ok e.2 := by
      rintro ⟨name, a⟩ hf
      obtain ⟨b, hb⟩ := (Spells.exists_iff hnames).1 ⟨m, h⟩ name a hf
      exact ⟨(name, b), rfl, hb⟩
    obtain ⟨entries, he⟩ := exists_forall₂_iff.2 hfields
    refine ⟨entries, he, ?_⟩
    have hspells : Spells (fun name a b => g (name, a) = .ok b) fields (.ofList entries) :=
      .of_forall₂ hnames he
    apply hspells.unique h
    intro name a b c hb hc
    rw [hb] at hc
    exact Except.ok.inj hc

end Schematics

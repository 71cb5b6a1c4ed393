import Schematics.Proofs.Contradictions

namespace Schematics

inductive Shape.Redeclares (s : Schematic) (owner : String) (shape : Shape) : Fault → Prop where
  | inheritedAttribute {parent t u : TypeId} {inherited : NameMap TypeId} {member : String}
    (hp : shape.supertype = some parent) (hi : s.effectiveAttributes parent = .ok inherited)
    (ht : inherited.get? member = some t) (hu : (member, u) ∈ shape.attributes.entries)
    (hne : t ≠ u) : Redeclares s owner shape
      (.typeMismatch s!"attribute `{member}` of `{owner}` redeclared from supertype"
        (s.describe t) (s.describe u))
  | inheritedPort {parent t u : TypeId} {inherited own : NameMap TypeId} {member : String}
    (hp : shape.supertype = some parent) (hi : s.effectivePorts parent = .ok inherited)
    (ho : shape.ports? = some own) (ht : inherited.get? member = some t)
    (hu : (member, u) ∈ own.entries) (hne : t ≠ u) : Redeclares s owner shape
      (.typeMismatch s!"port `{member}` of `{owner}` redeclared from supertype"
        (s.describe t) (s.describe u))

namespace Schematic

variable {s : Schematic}

def IsType (s : Schematic) (c : Category) (t : TypeId) : Prop :=
  ∃ d, s.typeDefinition t = .ok d ∧ d.category = c

theorem requireCategory_eq_ok_iff_isType {c : Category} {t : TypeId} :
    s.requireCategory c t = .ok () ↔ s.IsType c t := by
  simp only [requireCategory_eq_ok_iff, IsType, typeDefinition_eq_ok_iff]

theorem requireCategory_error {c : Category} {t : TypeId} {f : Fault}
    (h : s.requireCategory c t = .error f) : f = .undeclared c.space t.text ∧ ¬s.IsType c t := by
  refine ⟨?_, fun ht => ?_⟩
  · unfold requireCategory at h
    split at h
    · split at h
      · exact nomatch h
      · exact (Except.error.inj h).symm
    · exact (Except.error.inj h).symm
  · rw [requireCategory_eq_ok_iff_isType.2 ht] at h
    exact nomatch h

theorem typeId_eq_ok_iff {name : String} {id : TypeId} :
    s.typeId name = .ok id ↔ s.find? s.typeNames name = some id := by
  unfold typeId
  cases s.find? s.typeNames name <;> simp

theorem forall_typeId_ne_iff {name : String} :
    (∀ id, s.typeId name ≠ .ok id) ↔ s.find? s.typeNames name = none := by
  simp only [ne_eq, typeId_eq_ok_iff]
  exact Option.eq_none_iff_forall_ne_some.symm

theorem checkRedeclared_error {owner what : String} {declared inherited : NameMap TypeId} {f : Fault}
    (h : s.checkRedeclared owner what declared inherited = .error f) : ∃ member t u,
      inherited.get? member = some t ∧ (member, u) ∈ declared.entries ∧ t ≠ u ∧
        f = .typeMismatch s!"{what} `{member}` of `{owner}` redeclared from supertype"
          (s.describe t) (s.describe u) := by
  obtain ⟨⟨member, u⟩, hu, hf⟩ := exists_of_forM_eq_error h
  cases ht : inherited.get? member with
  | none => simp [ht] at hf
  | some t =>
    by_cases hne : t = u
    · simp [ht, hne] at hf
    · simp only [ht, if_neg hne, Except.error.injEq] at hf
      exact ⟨member, t, u, ht, hu, hne, hf.symm⟩

theorem Grounded.checkInherited_failsOnly (h : s.Grounded) {name : String} {shape : Shape}
    {parent : TypeId} (hp : shape.supertype = some parent)
    (hcategory : s.requireCategory shape.category parent = .ok ()) :
    FailsOnly (shape.Redeclares s name) (s.checkInherited name shape parent) := by
  obtain ⟨d, hd, hc⟩ := requireCategory_eq_ok_iff.1 hcategory
  obtain ⟨inherited, hi⟩ := h.exists_effectiveAttributes hd
  rw [checkInherited, hcategory, ok_bind, hi, ok_bind]
  refine .bind (fun f hf => ?_) fun _ _ => ?_
  · obtain ⟨member, t, u, ht, hu, hne, rfl⟩ := checkRedeclared_error hf
    exact .inheritedAttribute hp hi ht hu hne
  · cases ho : shape.ports? with
    | none => exact .ok ()
    | some own =>
      have hnode : d.category = .node := hc.trans (exists_ports_iff.1 ⟨own, ho⟩)
      obtain ⟨ports, hq⟩ := h.exists_effectivePorts hd hnode
      intro f hf
      simp only [hq, ok_bind] at hf
      obtain ⟨member, t, u, ht, hu, hne, rfl⟩ := checkRedeclared_error hf
      exact .inheritedPort hp hq ho ht hu hne

end Schematic

inductive Shape.Refused (s : Schematic) (name : String) (shape : Shape) : Fault → Prop where
  | taken {id : TypeId} (h : s.typeId name = .ok id) : Refused s name shape (.multipleDefinition name)
  | unregistered {t : TypeId} {c : Category} (hfree : ∀ id, s.typeId name ≠ .ok id)
    (hm : shape.Mentions t c) (ht : ¬s.IsType c t) :
    Refused s name shape (.undeclared c.space t.text)
  | redeclared {f : Fault} (hfree : ∀ id, s.typeId name ≠ .ok id)
    (hm : ∀ t c, shape.Mentions t c → s.IsType c t) (h : shape.Redeclares s name f) :
    Refused s name shape f

namespace Schematic

variable {s : Schematic} {name : String} {shape : Shape} {f : Fault}

theorem exists_mention_of_checkElement (h : s.checkElement shape = .error f) :
    ∃ t c, shape.Mentions t c ∧ s.requireCategory c t = .error f := by
  unfold checkElement at h
  split at h
  · cases h
  · next t ht => exact ⟨t, _, .element ht, h⟩

theorem exists_mention_of_checkAttributes
    (h : s.checkMembers .userDefined shape.attributes = .error f) :
    ∃ t c, shape.Mentions t c ∧ s.requireCategory c t = .error f := by
  obtain ⟨e, he, hf⟩ := exists_of_forM_eq_error h
  exact ⟨e.2, _, .declared he, hf⟩

theorem exists_mention_of_checkPorts (h : s.checkMembers .port (shape.ports?.getD ∅) = .error f) :
    ∃ t c, shape.Mentions t c ∧ s.requireCategory c t = .error f := by
  obtain ⟨e, he, hf⟩ := exists_of_forM_eq_error h
  cases hp : shape.ports? with
  | none => exact absurd (hp ▸ he) List.not_mem_nil
  | some ports => exact ⟨e.2, _, .port hp (by rwa [hp] at he), hf⟩

theorem Grounded.refused_of_checkType (h : s.Grounded) (hf : s.checkType name shape = .error f) :
    shape.Refused s name f := by
  cases hname : s.find? s.typeNames name with
  | some id =>
    rw [checkType, hname] at hf
    obtain rfl := Except.error.inj hf
    exact .taken (typeId_eq_ok_iff.2 hname)
  | none =>
    have hfree := forall_typeId_ne_iff.2 hname
    have hmention (hx : ∃ t c, shape.Mentions t c ∧ s.requireCategory c t = .error f) :
        shape.Refused s name f := by
      obtain ⟨t, c, hm, hx⟩ := hx
      obtain ⟨rfl, ht⟩ := requireCategory_error hx
      exact .unregistered hfree hm ht
    rw [checkType, hname] at hf
    obtain hx | ⟨_, helement, hf⟩ := bind_eq_error_iff.1 hf
    · exact hmention (exists_mention_of_checkElement hx)
    obtain hx | ⟨_, hattributes, hf⟩ := bind_eq_error_iff.1 hf
    · exact hmention (exists_mention_of_checkAttributes hx)
    obtain hx | ⟨_, hports, hf⟩ := bind_eq_error_iff.1 hf
    · exact hmention (exists_mention_of_checkPorts hx)
    cases hp : shape.supertype with
    | none =>
      rw [checkSupertype, hp] at hf
      cases hf
    | some parent =>
      rw [checkSupertype, hp] at hf
      cases hcategory : s.requireCategory shape.category parent with
      | error f' =>
        simp only [checkInherited, hcategory] at hf
        obtain rfl := Except.error.inj hf
        exact hmention ⟨parent, _, .supertype hp, hcategory⟩
      | ok _ =>
        refine .redeclared hfree (fun t c hm => ?_) (h.checkInherited_failsOnly hp hcategory f hf)
        refine requireCategory_eq_ok_iff_isType.1
          (forall_mentions_iff.2 ⟨helement, hattributes, hports, fun other hother => ?_⟩ t c hm)
        obtain rfl := Option.some.inj (hp.symm.trans hother)
        exact hcategory

end Schematic

end Schematics

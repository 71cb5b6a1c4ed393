import Schematics.Proofs.ConnectionEntries

namespace Schematics

variable {doc : Sections} {delimiter : Char} {c : Category} {key name : String}
  {body fields : Fields}

theorem Offers.unique {types : Entries}
    (hu : ∀ name body body', (name, body) ∈ types → (name, body') ∈ types → body = body')
    {member t t' : String} (h : Offers key types name member t)
    (h' : Offers key types name member t') : t = t' := by
  induction h with
  | own hn ht =>
    cases h' with
    | own hn' ht' =>
      obtain rfl := hu _ _ _ hn hn'
      rw [ht, Option.some.injEq, Json.string.injEq] at ht'
      exact ht'
    | inherited hn' _ hm' =>
      obtain rfl := hu _ _ _ hn hn'
      exact nomatch ht.symm.trans hm'
  | inherited hn hp hm _ ih =>
    cases h' with
    | own hn' ht' =>
      obtain rfl := hu _ _ _ hn hn'
      exact nomatch hm.symm.trans ht'
    | inherited hn' hp' _ h' =>
      obtain rfl := hu _ _ _ hn hn'
      rw [hp, Option.some.injEq, Json.string.injEq] at hp'
      subst hp'
      exact ih h'

theorem rel_unique {α β : Type} {R : α → β → Prop} (hR : ∀ a b b', R a b → R a b' → b = b')
    {x : Option α} {y y' : Option β} (h : Option.Rel R x y) (h' : Option.Rel R x y') : y = y' := by
  cases h with
  | none => exact (rel_none_left.1 h').symm
  | some hb =>
    obtain ⟨b', rfl, hb'⟩ := rel_some_left.1 h'
    rw [hR _ _ _ hb hb']

theorem forall₂_unique {α β : Type} {R : α → β → Prop} {l : List α} {l' l'' : List β}
    (hR : ∀ a b b', R a b → R a b' → b = b') (h : List.Forall₂ R l l') (h' : List.Forall₂ R l l'') :
    l' = l'' := by
  have heq : List.Forall₂ Eq l' l'' := forall₂_trans (fun b a b' hb hb' => hR a b b' hb hb') h.flip h'
  exact List.forall₂_eq_eq_eq ▸ heq

theorem Endpoint.Splits.unique {text : String} {e e' : Endpoint} (h : e.Splits delimiter text)
    (h' : e'.Splits delimiter text) : e = e' := by
  have hparse := Endpoint.parse_eq_ok_iff.2 h
  rw [Endpoint.parse_eq_ok_iff.2 h', Except.ok.injEq] at hparse
  exact hparse.symm

namespace Sections

theorem body_unique (hd : doc.typeNames.Nodup) {name : String} {body body' : Fields}
    (h : (name, body) ∈ doc c.stage) (h' : (name, body') ∈ doc c.stage) : body = body' := by
  have hnodup := (List.nodup_append.1 hd).2.1
  have heq := List.inj_on_of_nodup_map hnodup (mem_typeEntries.2 h) (mem_typeEntries.2 h') rfl
  exact (Prod.mk.inj (Prod.mk.inj heq).2).2

theorem offers_unique (hd : doc.typeNames.Nodup) {member t t' : String}
    (h : Offers key (doc c.stage) name member t) (h' : Offers key (doc c.stage) name member t') :
    t = t' :=
  h.unique (fun _ _ _ hn hn' => body_unique hd hn hn') h'

theorem Numbers.unique {id id' : TypeId} (h : doc.Numbers c name id) (h' : doc.Numbers c name id') :
    id = id' := Option.some.inj (h.2.symm.trans h'.2)

theorem SpellsType.unique {j : Json} {id id' : TypeId} (h : doc.SpellsType c j id)
    (h' : doc.SpellsType c j id') : id = id' := by
  obtain ⟨t, rfl, hid⟩ := h
  obtain ⟨t', ht', hid'⟩ := h'
  obtain rfl := Json.string.inj ht'
  exact hid.unique hid'

theorem ProperEndpoint.unique {e e' : Endpoint} (h : doc.ProperEndpoint delimiter key body e)
    (h' : doc.ProperEndpoint delimiter key body e') : e = e' := by
  obtain ⟨text, htext, hsplits⟩ := h.text
  obtain ⟨text', htext', hsplits'⟩ := h'.text
  rw [htext, Option.some.injEq, Json.string.injEq] at htext'
  subst htext'
  exact hsplits.unique hsplits'

end Sections

theorem Denotes.unique (hd : doc.typeNames.Nodup) {raw : Json} {v v' : Value}
    (h : Denotes doc name raw v) (h' : Denotes doc name raw v') : v = v' := by
  induction h generalizing v' with
  | scalar hn hraw h =>
    cases h' with
    | scalar hn' hraw' h' =>
      obtain rfl := hn.unique hn'
      obtain rfl := hraw.eq.symm.trans hraw'.eq
      exact h.unique h'
    | array => exact nomatch hraw.isScalar
  | @array name element body items values id elementId hn he hi hj hl _ ih =>
    obtain ⟨body', element', id', elementId', values', hn', he', hi', hj', hvalues, rfl⟩ :=
      Denotes.array_iff.1 h'
    obtain rfl := Sections.body_unique (c := .userDefined) hd hn hn'
    rw [he, Option.some.injEq, Json.string.injEq] at he'
    subst he'
    have hsame : List.Forall₂ (fun raw v => ∀ v', Denotes doc element raw v' → v = v') items values :=
      List.forall₂_iff_zip.2 ⟨hl, fun hz _ hv' => ih _ _ hz hv'⟩
    have hequal : List.Forall₂ Eq values values' :=
      forall₂_trans (fun v raw v' hv hv' => hv v' hv') hsame.flip hvalues
    rw [List.forall₂_eq_eq_eq] at hequal
    rw [Option.some.inj (hi.symm.trans hi'), Option.some.inj (hj.symm.trans hj'), hequal]

theorem SpellsSignature.unique {g g' : Signature} (h : SpellsSignature doc.SpellsType c body g)
    (h' : SpellsSignature doc.SpellsType c body g') : g = g' := by
  have hattributes := h.attributes.unique h'.attributes fun _ _ _ _ hb hb' => hb.unique hb'
  have hsupertype := rel_unique (fun _ _ _ hb hb' => hb.unique hb') h.supertype h'.supertype
  cases g
  cases g'
  exact congrArg₂ Signature.mk hattributes hsupertype

theorem SpellsShape.unique {shape shape' : Shape} (h : SpellsShape doc.SpellsType body c shape)
    (h' : SpellsShape doc.SpellsType body c shape') : shape = shape' := by
  cases c with
  | userDefined =>
    obtain ⟨j, id, hj, hid, rfl⟩ := h
    obtain ⟨j', id', hj', hid', rfl⟩ := h'
    obtain rfl := Option.some.inj (hj.symm.trans hj')
    rw [hid.unique hid']
  | node =>
    obtain ⟨g, hg, rfl⟩ := h
    obtain ⟨g', hg', rfl⟩ := h'
    have hsignature := hg.toSpellsSignature.unique hg'.toSpellsSignature
    have hports := hg.ports.unique hg'.ports fun _ _ _ _ hb hb' => hb.unique hb'
    cases g
    cases g'
    exact congrArg Shape.node (congrArg₂ NodeSignature.mk hsignature hports)
  | port | connection | constraint =>
    obtain ⟨g, hg, rfl⟩ := h
    obtain ⟨g', hg', rfl⟩ := h'
    rw [hg.unique hg']

namespace Sections

theorem SpellsValues.unique (hd : doc.typeNames.Nodup) {m m' : Attributes}
    (h : doc.SpellsValues c name fields m) (h' : doc.SpellsValues c name fields m') : m = m' := by
  refine Spells.unique h h' fun member raw v v' hv hv' => ?_
  obtain ⟨t, ht, hraw⟩ := hv
  obtain ⟨t', ht', hraw'⟩ := hv'
  obtain rfl := offers_unique hd ht ht'
  exact hraw.unique hd hraw'

theorem SpellsPort.unique (hd : doc.typeNames.Nodup) {port : String} {p p' : Port}
    (h : doc.SpellsPort name fields port p) (h' : doc.SpellsPort name fields port p') : p = p' := by
  obtain ⟨type, attributes⟩ := p
  obtain ⟨type', attributes'⟩ := p'
  obtain ⟨t, ht, hid, hvalues⟩ := h
  obtain ⟨t', ht', hid', hvalues'⟩ := h'
  obtain rfl := offers_unique (c := .node) hd ht ht'
  exact congrArg₂ PortOf.mk (hid.unique hid') (hvalues.unique hd hvalues')

theorem SpellsPorts.unique (hd : doc.typeNames.Nodup) {ports ports' : NameMap Port}
    (h : doc.SpellsPorts name fields ports) (h' : doc.SpellsPorts name fields ports') :
    ports = ports' := by
  have hsub {ports ports' : NameMap Port} (h : doc.SpellsPorts name fields ports)
      (h' : doc.SpellsPorts name fields ports') {port : String} {p : Port}
      (hp : ports.get? port = some p) : ports'.get? port = some p := by
    have hport := h.spelled port p hp
    obtain ⟨t, ht, -⟩ := hport
    obtain ⟨p', hp'⟩ := h'.complete port t ht
    rw [hp', (h.spelled port p hp).unique hd (h'.spelled port p' hp')]
  apply h.sorted.eq_of_get? h'.sorted
  intro port
  apply Option.ext
  intro p
  exact ⟨hsub h h', hsub h' h⟩

theorem SpellsInstance.unique (hd : doc.typeNames.Nodup) {name' : String} {id id' : TypeId}
    {values values' : Attributes} (h : doc.SpellsInstance c name body id values)
    (h' : doc.SpellsInstance c name' body id' values') :
    name = name' ∧ id = id' ∧ values = values' := by
  have htype := h.type
  rw [h'.type, Option.some.injEq, Json.string.injEq] at htype
  subst htype
  exact ⟨rfl, h.id.unique h'.id, h.attributes.unique hd h'.attributes⟩

theorem SpellsNode.unique (hd : doc.typeNames.Nodup) {name' : String} {n n' : Node}
    (h : doc.SpellsNode name body n) (h' : doc.SpellsNode name' body n') : n = n' := by
  obtain ⟨type, attributes, ports⟩ := n
  obtain ⟨type', attributes', ports'⟩ := n'
  obtain ⟨rfl, htype, hvalues⟩ := h.toSpellsInstance.unique hd h'.toSpellsInstance
  have hports := h.ports.unique hd h'.ports
  change type = type' at htype
  change attributes = attributes' at hvalues
  change ports = ports' at hports
  rw [htype, hvalues, hports]

theorem SpellsConstraint.unique (hd : doc.typeNames.Nodup) {name' : String} {k k' : Constraint}
    (h : doc.SpellsConstraint name body k) (h' : doc.SpellsConstraint name' body k') : k = k' := by
  obtain ⟨type, attributes⟩ := k
  obtain ⟨type', attributes'⟩ := k'
  obtain ⟨-, htype, hvalues⟩ := SpellsInstance.unique hd h h'
  exact congrArg₂ ConstraintOf.mk htype hvalues

end Sections

end Schematics

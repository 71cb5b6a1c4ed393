import Schematics.Proofs.Reordering

namespace Schematics

open Json (Alike)

variable {β : Type} {delimiter : Char} {doc doc' : Sections} {c : Category} {key name : String}
  {body body' fields fields' : Fields}

abbrev EntriesAlike : Entries → Entries → Prop :=
  List.Forall₂ fun e e' => e'.1 = e.1 ∧ Alike (.object e.2) (.object e'.2)

namespace EntriesAlike

variable {types types' : Entries}

theorem refl (h : ∀ e ∈ types, (Json.object e.2).Distinct) : EntriesAlike types types :=
  List.forall₂_same.2 fun e he => ⟨rfl, .refl (h e he)⟩

theorem symm (h : EntriesAlike types types') : EntriesAlike types' types :=
  h.flip.imp fun _ _ hab => ⟨hab.1.symm, hab.2.symm⟩

theorem names (h : EntriesAlike types types') : types'.map Prod.fst = types.map Prod.fst :=
  map_eq_of_forall₂ (fun _ _ hab => hab.1) h

theorem exists_mem (h : EntriesAlike types types') (he : (name, body) ∈ types) :
    ∃ body', (name, body') ∈ types' ∧ Alike (.object body) (.object body') := by
  obtain ⟨⟨_, body'⟩, he', rfl, halike⟩ := exists_of_forall₂_left h he
  exact ⟨body', he', halike⟩

theorem offers (h : EntriesAlike types types') {member t : String}
    (ho : Offers key types name member t) : Offers key types' name member t := by
  induction ho with
  | own hn ht =>
    obtain ⟨body', hn', halike⟩ := h.exists_mem hn
    exact .own hn' ((halike.given key).lookup_string ht)
  | inherited hn hp hm _ ih =>
    obtain ⟨body', hn', halike⟩ := h.exists_mem hn
    exact .inherited hn' (halike.lookup_string hp) ((halike.given key).lookup_none hm) ih

theorem keeps (h : EntriesAlike types types') (ha : Alike (.object body) (.object body'))
    (hk : Keeps key types body) : Keeps key types' body' := by
  intro parent member t t' hp ho ht
  exact hk parent member t t' (ha.symm.lookup_string hp) (h.symm.offers ho)
    ((ha.symm.given key).lookup_string ht)

end EntriesAlike

theorem rel_of_alike {R R' : Json → β → Prop} {x x' : Option Json} {y : Option β}
    (ha : Option.Rel Alike x x') (hR : ∀ j j' b, Alike j j' → R j b → R' j' b)
    (h : Option.Rel R x y) : Option.Rel R' x' y := by
  cases ha with
  | none =>
    rw [rel_none_left] at h
    rw [h]
    exact .none
  | some ha =>
    obtain ⟨b, rfl, hb⟩ := rel_some_left.1 h
    exact .some (hR _ _ b ha hb)

theorem Spells.alike {R R' : String → Json → β → Prop} {m : NameMap β} (h : Spells R fields m)
    (ha : Alike (.object fields) (.object fields'))
    (hR : ∀ name j j' b, Alike j j' → R name j b → R' name j' b) : Spells R' fields' m :=
  ⟨h.1, fun name => rel_of_alike (ha.lookup name) (hR name) (h.2 name)⟩

section Shapes

variable {resolves resolves' : Category → Json → TypeId → Prop}

theorem SpellsSignature.alike {g : Signature} (h : SpellsSignature resolves c body g)
    (ha : Alike (.object body) (.object body'))
    (hr : ∀ c j j' id, Alike j j' → resolves c j id → resolves' c j' id) :
    SpellsSignature resolves' c body' g where
  attributes := h.attributes.alike (ha.given "attributes") fun _ => hr _
  supertype := rel_of_alike (ha.lookup "supertype") (hr c) h.supertype

theorem SpellsShape.alike {shape : Shape} (h : SpellsShape resolves body c shape)
    (ha : Alike (.object body) (.object body'))
    (hr : ∀ c j j' id, Alike j j' → resolves c j id → resolves' c j' id) :
    SpellsShape resolves' body' c shape := by
  cases c with
  | userDefined =>
    obtain ⟨j, id, hj, hid, rfl⟩ := h
    have hrel := ha.lookup "elementType"
    rw [hj, rel_some_left] at hrel
    obtain ⟨j', hj', halike⟩ := hrel
    exact ⟨j', id, hj', hr _ j j' id halike hid, rfl⟩
  | node =>
    obtain ⟨g, hg, rfl⟩ := h
    have hports := hg.ports.alike (ha.given "portTypes") fun _ => hr _
    exact ⟨g, ⟨hg.toSpellsSignature.alike ha hr, hports⟩, rfl⟩
  | port | connection | constraint =>
    obtain ⟨g, hg, rfl⟩ := h
    exact ⟨g, hg.alike ha hr, rfl⟩

end Shapes

structure Sections.SharesTypes (doc doc' : Sections) : Prop where
  entries : ∀ c : Category, EntriesAlike (doc c.stage) (doc' c.stage)

def Sections.KeepsNodes (doc doc' : Sections) : Prop :=
  ∀ name body t, (name, body) ∈ doc .nodes → body.lookup "type" = some (.string t) →
    ∃ body', (name, body') ∈ doc' .nodes ∧ body'.lookup "type" = some (.string t)

namespace Sections.SharesTypes

theorem typeEntries (h : doc.SharesTypes doc') : List.Forall₂
    (fun e e' => e'.1 = e.1 ∧ e'.2.1 = e.2.1 ∧ Alike (.object e.2.2) (.object e'.2.2))
    doc.typeEntries doc'.typeEntries := by
  unfold Sections.typeEntries
  induction Category.all with
  | nil => exact .nil
  | cons c rest ih =>
    have hsection : List.Forall₂
        (fun e e' => e'.1 = e.1 ∧ e'.2.1 = e.2.1 ∧ Alike (.object e.2.2) (.object e'.2.2))
        ((doc c.stage).map fun e => (c, e)) ((doc' c.stage).map fun e => (c, e)) :=
      List.forall₂_map_left_iff.2 (List.forall₂_map_right_iff.2
        ((h.entries c).imp fun _ _ he => ⟨rfl, he⟩))
    rw [List.flatMap_cons, List.flatMap_cons]
    exact List.rel_append hsection ih

theorem typeNames_eq (h : doc.SharesTypes doc') : doc'.typeNames = doc.typeNames := by
  have hnames : doc'.typeEntries.map (fun e => e.2.1) = doc.typeEntries.map fun e => e.2.1 :=
    map_eq_of_forall₂ (fun _ _ he => he.2.1) h.typeEntries
  rw [typeNames, typeNames, hnames]

theorem typeId?_eq (h : doc.SharesTypes doc') (name : String) :
    doc'.typeId? name = doc.typeId? name := by
  rw [typeId?, typeId?, h.typeNames_eq]

theorem names (h : doc.SharesTypes doc') (hn : doc.Names c name) : doc'.Names c name := by
  apply hn.imp id
  intro hentry
  rwa [(h.entries c).names]

theorem numbers (h : doc.SharesTypes doc') {id : TypeId} (hn : doc.Numbers c name id) :
    doc'.Numbers c name id :=
  ⟨h.names hn.1, (h.typeId?_eq name).trans hn.2⟩

theorem spellsType (h : doc.SharesTypes doc') {j j' : Json} {id : TypeId} (ha : Alike j j')
    (hj : doc.SpellsType c j id) : doc'.SpellsType c j' id := by
  obtain ⟨t, rfl, hn⟩ := hj
  exact ⟨t, (ha.reordered.eq_of_scalar rfl).symm, h.numbers hn⟩

theorem denotes (h : doc.SharesTypes doc') {raw raw' : Json} {v : Value}
    (hv : Denotes doc name raw v) (ha : Alike raw raw') : Denotes doc' name raw' v := by
  induction hv generalizing raw' with
  | scalar hn hraw h =>
    obtain rfl := ha.reordered.eq_of_scalar hraw.isScalar
    exact .scalar hn hraw h
  | @array name element body items values id elementId hn he hi hj hl _ ih =>
    obtain ⟨items', rfl, hitems⟩ := ha.forall₂
    obtain ⟨body', hn', hbody⟩ := (h.entries .userDefined).exists_mem hn
    have hvalues : List.Forall₂ (fun raw v => ∀ raw', Alike raw raw' → Denotes doc' element raw' v)
        items values := List.forall₂_iff_zip.2 ⟨hl, fun hz _ hraw => ih _ _ hz hraw⟩
    have hdenotes : List.Forall₂ (Denotes doc' element) items' values :=
      forall₂_trans (fun raw' raw v hraw hd => hd raw' hraw) hitems.flip hvalues
    exact Denotes.array_iff.2 ⟨body', element, id, elementId, values, hn', hbody.lookup_string he,
      (h.typeId?_eq name).trans hi, (h.typeId?_eq element).trans hj, hdenotes, rfl⟩

theorem spellsShape (h : doc.SharesTypes doc') (ha : Alike (.object body) (.object body'))
    {shape : Shape} (hs : SpellsShape doc.SpellsType body c shape) :
    SpellsShape doc'.SpellsType body' c shape :=
  hs.alike ha fun _ _ _ _ hj => h.spellsType hj

theorem spellsTypes (h : doc.SharesTypes doc') {rows : List (String × Shape)}
    (hs : List.Forall₂ (fun e r => r.1 = e.2.1 ∧ SpellsShape doc.SpellsType e.2.2 e.1 r.2)
      doc.typeEntries rows) :
    List.Forall₂ (fun e r => r.1 = e.2.1 ∧ SpellsShape doc'.SpellsType e.2.2 e.1 r.2)
      doc'.typeEntries rows := by
  refine forall₂_trans (fun e' e r he hr => ?_) h.typeEntries.flip hs
  obtain ⟨hc, hname, halike⟩ := he
  rw [hc, hname]
  exact ⟨hr.1, h.spellsShape halike hr.2⟩

theorem spellsValues (h : doc.SharesTypes doc') (ha : Alike (.object fields) (.object fields'))
    {m : Attributes} (hm : doc.SpellsValues c name fields m) :
    doc'.SpellsValues c name fields' m := by
  refine Spells.alike hm ha fun member raw raw' v hraw hv => ?_
  obtain ⟨t, ht, hd⟩ := hv
  exact ⟨t, (h.entries c).offers ht, h.denotes hd hraw⟩

theorem spellsPorts (h : doc.SharesTypes doc') (ha : Alike (.object fields) (.object fields'))
    {ports : NameMap Port} (hp : doc.SpellsPorts name fields ports) :
    doc'.SpellsPorts name fields' ports := by
  have htypes : EntriesAlike (doc .nodeTypes) (doc' .nodeTypes) := h.entries .node
  refine ⟨hp.sorted, fun port t ht => hp.complete port t (htypes.symm.offers ht), ?_⟩
  intro port p hport
  obtain ⟨t, ht, hnumbers, hvalues⟩ := hp.spelled port p hport
  exact ⟨t, htypes.offers ht, h.numbers hnumbers, h.spellsValues (ha.given port) hvalues⟩

theorem spellsInstance (h : doc.SharesTypes doc') (ha : Alike (.object body) (.object body'))
    {id : TypeId} {values : Attributes} (hi : doc.SpellsInstance c name body id values) :
    doc'.SpellsInstance c name body' id values where
  type := ha.lookup_string hi.type
  id := h.numbers hi.id
  attributes := h.spellsValues (ha.given "attributes") hi.attributes

theorem spellsNode (h : doc.SharesTypes doc') (ha : Alike (.object body) (.object body')) {n : Node}
    (hn : doc.SpellsNode name body n) : doc'.SpellsNode name body' n :=
  ⟨h.spellsInstance ha hn.toSpellsInstance, h.spellsPorts (ha.given "portAttrs") hn.ports⟩

theorem givesTypes (h : doc.SharesTypes doc') (ha : Alike (.object body) (.object body'))
    (hg : GivesTypes doc c key body) : GivesTypes doc' c key body' := by
  intro member j' hj'
  obtain ⟨j, hj, halike⟩ := (ha.given key).symm.exists_mem hj'
  obtain ⟨t, rfl, ht⟩ := hg member j hj
  exact ⟨t, (halike.symm.reordered.eq_of_scalar rfl).symm, h.names ht⟩

theorem properSignature (h : doc.SharesTypes doc') (ha : Alike (.object body) (.object body'))
    {earlier earlier' : Entries} (he : EntriesAlike earlier earlier')
    (hp : doc.ProperSignature earlier body) : doc'.ProperSignature earlier' body' where
  attributes := ha.objectOrAbsent hp.attributes
  types := h.givesTypes ha hp.types
  supertype j' hj' := by
    have hrel := ha.lookup "supertype"
    rw [hj', rel_some_right] at hrel
    obtain ⟨j, hj, halike⟩ := hrel
    obtain ⟨parent, rfl, hparent⟩ := hp.supertype j hj
    exact ⟨parent, (halike.reordered.eq_of_scalar rfl).symm, he.names ▸ hparent⟩
  kept := he.keeps ha hp.kept

theorem proper (h : doc.SharesTypes doc') (ha : Alike (.object body) (.object body'))
    {earlier earlier' : Entries} (he : EntriesAlike earlier earlier')
    (hp : doc.Proper delimiter earlier body c.stage) :
    doc'.Proper delimiter earlier' body' c.stage := by
  cases c with
  | userDefined =>
    obtain ⟨element, helement, hname⟩ := hp
    exact ⟨element, ha.lookup_string helement, he.names ▸ hname⟩
  | node =>
    obtain ⟨hsignature, ⟨fields, hfields⟩, hports, hkept⟩ := hp
    have hrel := ha.lookup "portTypes"
    rw [hfields, rel_some_left] at hrel
    obtain ⟨j', hj', halike⟩ := hrel
    obtain ⟨fields', rfl⟩ := halike.exists_object
    exact ⟨h.properSignature ha he hsignature, ⟨fields', hj'⟩, h.givesTypes ha hports,
      he.keeps ha hkept⟩
  | port | connection | constraint => exact h.properSignature ha he hp

theorem proper_types (h : doc.SharesTypes doc')
    (hp : ∀ earlier name body later, doc c.stage = earlier ++ (name, body) :: later →
      doc.Proper delimiter earlier body c.stage)
    {earlier' later' : Entries} (hsplit : doc' c.stage = earlier' ++ (name, body') :: later') :
    doc'.Proper delimiter earlier' body' c.stage := by
  have hentries := h.entries c
  rw [hsplit] at hentries
  have hearlier := List.forall₂_take_append _ _ _ hentries
  obtain ⟨⟨_, body⟩, later, ⟨rfl, halike⟩, -, hrest⟩ :=
    List.forall₂_cons_right_iff.1 (List.forall₂_drop_append _ _ _ hentries)
  refine h.proper halike hearlier (hp _ name body later ?_)
  rw [← hrest, List.take_append_drop]

theorem hasPort (h : doc.SharesTypes doc') (hn : doc.KeepsNodes doc') {e : Endpoint}
    (he : doc.HasPort e) : doc'.HasPort e := by
  obtain ⟨body, type, t, hnode, htype, ht⟩ := he
  obtain ⟨body', hnode', htype'⟩ := hn e.node body type hnode htype
  exact ⟨body', type, t, hnode', htype', (h.entries .node).offers ht⟩

theorem properEndpoint (h : doc.SharesTypes doc') (hn : doc.KeepsNodes doc')
    (ha : Alike (.object body) (.object body')) {e : Endpoint}
    (he : doc.ProperEndpoint delimiter key body e) : doc'.ProperEndpoint delimiter key body' e := by
  obtain ⟨text, ht, hsplits⟩ := he.text
  exact ⟨⟨text, ha.lookup_string ht, hsplits⟩, h.hasPort hn he.port⟩

end Sections.SharesTypes

end Schematics

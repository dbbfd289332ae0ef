import Sastt.Adapters.VoiceRegistry

/-!
# Tenants of the voice registry

What the registry answers a tenant is meant not to depend on the other
tenants. Templates are selected by their tenant, but an identity is stored
under an id the client chooses, whoever it belongs to: the upsert of `enroll`
leaves the row of another tenant as it is, the templates are stored under it
all the same, and from then on the two tenants share a row.

As long as no `enroll` finds the row of its identity on the other side of a
tenant `A` (`EnrollsApart`), the rows of `A` and the rows of the others stay
apart (`Sides`). The tables of the others are then the full tables without
the rows of `A` (`Without`), statement by statement, and so the answers to
them are what they would be if `A` were not there (`results_isolated`).
-/

namespace Sastt

variable {R V : Type} [Field R] [LinearOrder R] [AddCommGroup V] [Module R V] [EmbeddingSpace R V]

namespace VoiceTables

/-- **A template is on the same side of the tenant as its identity.** -/
def Sides (A : String) (s : VoiceTables R V) : Prop :=
  ∀ x ∈ s.templates, ∀ row, s.identities x.identityId = some row →
    (x.tenantId = A ↔ row.tenantId = A)

/-- **The tables without the rows of the tenant.** -/
structure Without (A : String) (s t : VoiceTables R V) : Prop where
  identities : ∀ id, t.identities id = (s.identities id).filter (fun row => row.tenantId ≠ A)
  templates : t.templates = s.templates.filter (fun x => x.tenantId ≠ A)
  sides : s.Sides A

variable {A : String} {s t : VoiceTables R V}

/-- The row of a template is there, and on its side. -/
theorem Sides.identity (h : s.Sides A) {x : VoiceTemplate R V} (hx : x ∈ s.templates) :
    ∃ row, s.identities x.identityId = some row ∧ (x.tenantId = A ↔ row.tenantId = A) := by
  obtain ⟨row, hrow⟩ := Option.isSome_iff_exists.mp (s.references x hx)
  exact ⟨row, hrow, h x hx row hrow⟩

/-- An identity of another tenant is there in both. -/
theorem Without.identity_of_ne (h : Without A s t) {id : String} {row : VoiceIdentity}
    (hrow : s.identities id = some row) (hne : row.tenantId ≠ A) : t.identities id = some row := by
  rw [h.identities, hrow, Option.filter_some, if_pos (by simpa using hne)]

/-- An identity of the tenant is there in one only. -/
theorem Without.identity_of_eq (h : Without A s t) {id : String} {row : VoiceIdentity}
    (hrow : s.identities id = some row) (heq : row.tenantId = A) : t.identities id = none := by
  rw [h.identities, hrow, Option.filter_some, if_neg (by simpa using heq)]

theorem Without.identity_of_none (h : Without A s t) {id : String}
    (hrow : s.identities id = none) : t.identities id = none := by
  rw [h.identities, hrow]
  rfl

/-- The templates of a tenant's choice are the same for another tenant. -/
theorem Without.filter_templates (h : Without A s t) {p : VoiceTemplate R V → Bool}
    (hp : ∀ x, p x = true → x.tenantId ≠ A) : t.templates.filter p = s.templates.filter p := by
  rw [h.templates, List.filter_filter]
  refine List.filter_congr (fun x _ => ?_)
  cases hx : p x with
  | false => rfl
  | true => simpa using hp x hx

/-! ## Reading -/

variable {tenantId : String}

theorem Without.find (h : Without A s t) (hne : tenantId ≠ A) (identityId : String) :
    t.find tenantId identityId = s.find tenantId identityId := by
  unfold VoiceTables.find
  rw [h.identities]
  cases s.identities identityId with
  | none => rfl
  | some row =>
    by_cases hrow : row.tenantId = tenantId
    · have hother : row.tenantId ≠ A := fun heq => hne (hrow.symm.trans heq)
      simp [Option.filter_some, hother]
    · by_cases hother : row.tenantId = A
      · simp [Option.filter_some, hother, hne.symm]
      · simp [Option.filter_some, hother]

theorem Without.templatesOf (h : Without A s t) (hne : tenantId ≠ A)
    (identityId modelVersion : String) :
    t.templatesOf tenantId identityId modelVersion
      = s.templatesOf tenantId identityId modelVersion :=
  h.filter_templates (fun x hx heq => hne (by
    have hall : x.identityId = identityId ∧ x.tenantId = tenantId
      ∧ x.modelReleaseId = modelVersion := by simpa using hx
    exact hall.2.1.symm.trans heq))

/-- A template of another tenant is joined with the same identity. -/
theorem Without.scoreOf (h : Without A s t) (vector : V) {x : VoiceTemplate R V}
    (hx : x ∈ s.templates) (hne : x.tenantId ≠ A) : t.scoreOf vector x = s.scoreOf vector x := by
  obtain ⟨row, hrow, hside⟩ := h.sides.identity hx
  unfold VoiceTables.scoreOf
  rw [hrow, h.identity_of_ne hrow (fun heq => hne (hside.mpr heq))]

theorem Without.bestIdentities (h : Without A s t) (hne : tenantId ≠ A)
    (db : VoiceDatabase R V) (vector : V) (modelVersion : String) :
    t.bestIdentities db vector tenantId modelVersion
      = s.bestIdentities db vector tenantId modelVersion := by
  unfold VoiceTables.bestIdentities
  have hother : ∀ x : VoiceTemplate R V,
      decide (x.tenantId = tenantId ∧ x.modelReleaseId = modelVersion) = true →
        x.tenantId ≠ A := fun x hx heq => hne ((of_decide_eq_true hx).1.symm.trans heq)
  rw [h.filter_templates hother]
  congr 3
  refine List.filterMap_congr (fun x hx => ?_)
  have hmem := List.mem_filter.mp hx
  exact h.scoreOf vector hmem.1 (hother x hmem.2)

/-! ## Writing identities -/

variable {identityId displayName consentRef : String}

/-- What the upsert leaves under the id. -/
def upsertedRow (found : Option VoiceIdentity)
    (identityId tenantId displayName consentRef : String) : VoiceIdentity :=
  match found with
  | none => { tenantId, externalId := some identityId, displayName := some displayName, consentRef }
  | some row =>
    if row.tenantId = tenantId then { row with displayName := some displayName, consentRef }
    else row

theorem upsertIdentity_identities :
    (s.upsertIdentity identityId tenantId displayName consentRef).identities
      = Function.update s.identities identityId
        (some (upsertedRow (s.identities identityId) identityId tenantId displayName
          consentRef)) := by
  unfold upsertIdentity
  split
  · next h => rw [h]; rfl
  · next row h =>
    have hfound : upsertedRow (s.identities identityId) identityId tenantId displayName consentRef
        = if row.tenantId = tenantId then { row with displayName := some displayName, consentRef }
          else row := by rw [h]; rfl
    rw [hfound]
    split
    · rfl
    · rw [← h, Function.update_eq_self]

@[simp] theorem upsertIdentity_templates :
    (s.upsertIdentity identityId tenantId displayName consentRef).templates = s.templates := by
  unfold upsertIdentity
  split
  · rfl
  · split <;> rfl

/-- The row under the id, if there is one, is on the tenant's side. -/
def OnSide (A tenantId identityId : String) (s : VoiceTables R V) : Prop :=
  ∀ row ∈ s.identities identityId, (row.tenantId = A ↔ tenantId = A)

instance : Decidable (s.OnSide A tenantId identityId) :=
  inferInstanceAs (Decidable (∀ row ∈ s.identities identityId, (row.tenantId = A ↔ tenantId = A)))

/-- What the upsert leaves is on the tenant's side if what it found was. -/
theorem upsertedRow_side (h : s.OnSide A tenantId identityId) (displayName consentRef : String) :
    (upsertedRow (s.identities identityId) identityId tenantId displayName consentRef).tenantId = A
      ↔ tenantId = A := by
  unfold upsertedRow
  cases hrow : s.identities identityId with
  | none => exact Iff.rfl
  | some row =>
    dsimp only
    split
    · exact h row hrow
    · exact h row hrow

theorem upsertIdentity_self :
    (s.upsertIdentity identityId tenantId displayName consentRef).identities identityId
      = some (upsertedRow (s.identities identityId) identityId tenantId displayName
        consentRef) := by
  rw [upsertIdentity_identities, Function.update_self]

/-- **An upsert on its side keeps the sides.** -/
theorem Sides.upsertIdentity (h : s.Sides A) (hon : s.OnSide A tenantId identityId) :
    (s.upsertIdentity identityId tenantId displayName consentRef).Sides A := by
  intro x hx row hrow
  rw [upsertIdentity_templates] at hx
  by_cases hid : x.identityId = identityId
  · rw [hid, upsertIdentity_self] at hrow
    obtain ⟨before, hbefore, hside⟩ := h.identity hx
    rw [← Option.some.inj hrow, upsertedRow_side hon, hside]
    exact hon before (hid ▸ hbefore)
  · rw [upsertIdentity_identities, Function.update_of_ne hid] at hrow
    exact h x hx row hrow

/-- An upsert of another tenant does the same in both. -/
theorem Without.upsertIdentity_keeps (h : Without A s t) (hne : tenantId ≠ A)
    (hon : s.OnSide A tenantId identityId) (displayName consentRef : String) :
    Without A (s.upsertIdentity identityId tenantId displayName consentRef)
      (t.upsertIdentity identityId tenantId displayName consentRef) where
  identities id := by
    have hfound : t.identities identityId = s.identities identityId := by
      cases hrow : s.identities identityId with
      | none => exact h.identity_of_none hrow
      | some row => exact h.identity_of_ne hrow (fun heq => hne ((hon row hrow).mp heq))
    rw [upsertIdentity_identities, upsertIdentity_identities, hfound]
    by_cases hid : id = identityId
    · subst hid
      have hside := upsertedRow_side hon displayName consentRef
      rw [Function.update_self, Function.update_self, Option.filter_some,
        if_pos (by simpa [hside] using hne)]
    · rw [Function.update_of_ne hid, Function.update_of_ne hid]
      exact h.identities id
  templates := by rw [upsertIdentity_templates, upsertIdentity_templates, h.templates]
  sides := h.sides.upsertIdentity hon

/-- An upsert of the tenant is not seen. -/
theorem Without.upsertIdentity_hides (h : Without A s t) (hon : s.OnSide A A identityId)
    (displayName consentRef : String) :
    Without A (s.upsertIdentity identityId A displayName consentRef) t where
  identities id := by
    rw [upsertIdentity_identities]
    by_cases hid : id = identityId
    · subst hid
      have hside := upsertedRow_side hon displayName consentRef
      rw [Function.update_self, Option.filter_some, if_neg (by simp [hside.mpr rfl])]
      cases hrow : s.identities id with
      | none => exact h.identity_of_none hrow
      | some row => exact h.identity_of_eq hrow ((hon row hrow).mpr rfl)
    · rw [Function.update_of_ne hid]
      exact h.identities id
  templates := by rw [upsertIdentity_templates, h.templates]
  sides := h.sides.upsertIdentity hon

/-! ## Writing templates -/

/-- What an insert can do. -/
theorem insertTemplate_cases (s : VoiceTables R V) (x : VoiceTemplate R V) :
    (x.source ∈ s.templates.map VoiceTemplate.source ∧ s.insertTemplate x = .ok s)
      ∨ (x.source ∉ s.templates.map VoiceTemplate.source
        ∧ x.id ∈ s.templates.map VoiceTemplate.id
        ∧ s.insertTemplate x = .error (.other "UniqueViolation"))
      ∨ (x.source ∉ s.templates.map VoiceTemplate.source
        ∧ x.id ∉ s.templates.map VoiceTemplate.id
        ∧ ((s.identities x.identityId).isSome → ∃ s', s.insertTemplate x = .ok s'
          ∧ s'.identities = s.identities ∧ s'.templates = s.templates ++ [x])) := by
  unfold insertTemplate
  by_cases hsource : x.source ∈ s.templates.map VoiceTemplate.source
  · exact Or.inl ⟨hsource, dif_pos hsource⟩
  · by_cases hid : x.id ∈ s.templates.map VoiceTemplate.id
    · exact Or.inr (Or.inl ⟨hsource, hid, by rw [dif_neg hsource, dif_pos hid]⟩)
    · refine Or.inr (Or.inr ⟨hsource, hid, fun href => ?_⟩)
      rw [dif_neg hsource, dif_neg hid, dif_pos href]
      exact ⟨_, rfl, rfl, rfl⟩

/-- The row under the id is there, and on the tenant's side. -/
def Holds (A tenantId identityId : String) (s : VoiceTables R V) : Prop :=
  ∃ row, s.identities identityId = some row ∧ (row.tenantId = A ↔ tenantId = A)

theorem holds_upsertIdentity (hon : s.OnSide A tenantId identityId) :
    (s.upsertIdentity identityId tenantId displayName consentRef).Holds A tenantId identityId :=
  ⟨_, upsertIdentity_self, upsertedRow_side hon displayName consentRef⟩

/-- No id is that of a template on the other side. -/
def FreshIds (A tenantId : String) (ids : List String) (s : VoiceTables R V) : Prop :=
  ∀ id ∈ ids, ∀ x ∈ s.templates, x.id = id → (x.tenantId = A ↔ tenantId = A)

instance {ids : List String} : Decidable (s.FreshIds A tenantId ids) :=
  inferInstanceAs (Decidable (∀ id ∈ ids, ∀ x ∈ s.templates, x.id = id →
    (x.tenantId = A ↔ tenantId = A)))

/-- **An insert on its side keeps the sides**, and what the next insert needs. -/
theorem Sides.insertTemplate (h : s.Sides A) {x : VoiceTemplate R V}
    (hholds : s.Holds A x.tenantId x.identityId) {s' : VoiceTables R V}
    (hs' : s.insertTemplate x = .ok s') :
    s'.Sides A ∧ s'.identities = s.identities
      ∧ ∀ ids, s.FreshIds A x.tenantId ids → s'.FreshIds A x.tenantId ids := by
  obtain ⟨row, hrow, hside⟩ := hholds
  rcases s.insertTemplate_cases x with ⟨-, hok⟩ | ⟨-, -, herror⟩ | ⟨-, -, hok⟩
  · cases hok.symm.trans hs'
    exact ⟨h, rfl, fun _ hids => hids⟩
  · cases herror.symm.trans hs'
  · obtain ⟨after, hafter, hidentities, htemplates⟩ := hok (Option.isSome_of_eq_some hrow)
    cases hafter.symm.trans hs'
    refine ⟨fun y hy row' hrow' => ?_, hidentities, fun ids hids id hid y hy heq => ?_⟩
    · rw [hidentities] at hrow'
      rw [htemplates, List.mem_append, List.mem_singleton] at hy
      cases hy with
      | inl hold => exact h y hold row' hrow'
      | inr hnew =>
        subst hnew
        cases hrow.symm.trans hrow'
        exact hside.symm
    · rw [htemplates, List.mem_append, List.mem_singleton] at hy
      cases hy with
      | inl hold => exact hids id hid y hold heq
      | inr hnew => rw [hnew]

/-- The insert of another tenant meets the same rows in both. -/
theorem Without.insertTemplate_keeps (h : Without A s t) {x : VoiceTemplate R V}
    (hne : x.tenantId ≠ A) (hholds : s.Holds A x.tenantId x.identityId)
    (hfresh : s.FreshIds A x.tenantId [x.id]) :
    (∃ e, s.insertTemplate x = .error e ∧ t.insertTemplate x = .error e)
      ∨ ∃ s' t', s.insertTemplate x = .ok s' ∧ t.insertTemplate x = .ok t' ∧ Without A s' t' := by
  obtain ⟨row, hrow, hside⟩ := hholds
  have hother : row.tenantId ≠ A := fun heq => hne (hside.mp heq)
  have hmem : ∀ y ∈ s.templates, y.tenantId ≠ A → y ∈ t.templates := fun y hy hy' => by
    rw [h.templates]
    exact List.mem_filter.mpr ⟨hy, by simpa using hy'⟩
  have hsub : ∀ y ∈ t.templates, y ∈ s.templates := fun y hy => by
    rw [h.templates] at hy
    exact (List.mem_filter.mp hy).1
  -- a template of the same source is one of the same identity, hence of the same side
  have hsource : x.source ∈ s.templates.map VoiceTemplate.source
      ↔ x.source ∈ t.templates.map VoiceTemplate.source := by
    simp only [List.mem_map]
    refine ⟨fun ⟨y, hy, heq⟩ => ⟨y, hmem y hy (fun hA => ?_), heq⟩,
      fun ⟨y, hy, heq⟩ => ⟨y, hsub y hy, heq⟩⟩
    have hid : y.identityId = x.identityId := congrArg Prod.fst heq
    exact hother ((h.sides y hy row (hid ▸ hrow)).mp hA)
  have hid : x.id ∈ s.templates.map VoiceTemplate.id
      ↔ x.id ∈ t.templates.map VoiceTemplate.id := by
    simp only [List.mem_map]
    refine ⟨fun ⟨y, hy, heq⟩ => ⟨y, hmem y hy (fun hA => ?_), heq⟩,
      fun ⟨y, hy, heq⟩ => ⟨y, hsub y hy, heq⟩⟩
    exact hne ((hfresh x.id (List.mem_singleton.mpr rfl) y hy heq).mp hA)
  rcases s.insertTemplate_cases x with ⟨hs, hok⟩ | ⟨hs, hs', herror⟩ | ⟨hs, hs', hok⟩
  · rcases t.insertTemplate_cases x with ⟨-, hok'⟩ | ⟨ht, -⟩ | ⟨ht, -⟩
    · exact Or.inr ⟨s, t, hok, hok', h⟩
    · exact absurd (hsource.mp hs) ht
    · exact absurd (hsource.mp hs) ht
  · rcases t.insertTemplate_cases x with ⟨ht, -⟩ | ⟨-, -, herror'⟩ | ⟨-, ht, -⟩
    · exact absurd (hsource.mpr ht) hs
    · exact Or.inl ⟨_, herror, herror'⟩
    · exact absurd (hid.mp hs') ht
  · rcases t.insertTemplate_cases x with ⟨ht, -⟩ | ⟨-, ht, -⟩ | ⟨-, -, hok'⟩
    · exact absurd (hsource.mpr ht) hs
    · exact absurd (hid.mpr ht) hs'
    · obtain ⟨s₁, hs₁, hidentities, htemplates⟩ := hok (Option.isSome_of_eq_some hrow)
      obtain ⟨t₁, ht₁, hidentities', htemplates'⟩ :=
        hok' (Option.isSome_of_eq_some (h.identity_of_ne hrow hother))
      refine Or.inr ⟨s₁, t₁, hs₁, ht₁, ?_, ?_, (h.sides.insertTemplate ⟨row, hrow, hside⟩ hs₁).1⟩
      · rw [hidentities, hidentities']
        exact h.identities
      · rw [htemplates, htemplates', List.filter_append, h.templates,
          List.filter_cons_of_pos (by simpa using hne), List.filter_nil]

/-- The insert of the tenant is not seen. -/
theorem Without.insertTemplate_hides (h : Without A s t) {x : VoiceTemplate R V}
    (heq : x.tenantId = A) (hholds : s.Holds A x.tenantId x.identityId) {s' : VoiceTables R V}
    (hs' : s.insertTemplate x = .ok s') : Without A s' t := by
  have hsides := (h.sides.insertTemplate hholds hs').1
  obtain ⟨row, hrow, -⟩ := hholds
  rcases s.insertTemplate_cases x with ⟨-, hok⟩ | ⟨-, -, herror⟩ | ⟨-, -, hok⟩
  · cases hok.symm.trans hs'
    exact h
  · cases herror.symm.trans hs'
  · obtain ⟨after, hafter, hidentities, htemplates⟩ := hok (Option.isSome_of_eq_some hrow)
    cases hafter.symm.trans hs'
    refine ⟨?_, ?_, hsides⟩
    · rw [hidentities]
      exact h.identities
    · rw [htemplates, List.filter_append, List.filter_cons_of_neg (by simpa using heq),
        List.filter_nil, List.append_nil, h.templates]

/-- The inserts of another tenant meet the same rows in both, and either all
are made in both or both raise. -/
theorem Without.insertClips_keeps (db : VoiceDatabase R V) (hne : tenantId ≠ A)
    {clips : List (String × SpeakerEmbedding R V)} (h : Without A s t)
    (hholds : s.Holds A tenantId identityId)
    (hfresh : s.FreshIds A tenantId (clips.map Prod.fst)) :
    (∃ e, s.insertClips db tenantId identityId clips = .error e
        ∧ t.insertClips db tenantId identityId clips = .error e)
      ∨ ∃ s' t', s.insertClips db tenantId identityId clips = .ok s'
        ∧ t.insertClips db tenantId identityId clips = .ok t' ∧ Without A s' t' := by
  induction clips generalizing s t with
  | nil => exact Or.inr ⟨s, t, rfl, rfl, h⟩
  | cons clip clips ih =>
    unfold insertClips insertClip
    cases hliteral : db.toVectorLiteral clip.2 with
    | error e => exact Or.inl ⟨e, rfl, rfl⟩
    | ok v =>
      dsimp only
      have hfirst : s.FreshIds A tenantId [clip.1] := fun id hid =>
        hfresh id (List.mem_map.mpr ⟨clip, List.mem_cons_self, (List.mem_singleton.mp hid).symm⟩)
      rcases h.insertTemplate_keeps (x := templateRow db tenantId identityId clip.1 clip.2) hne
        hholds hfirst with ⟨e, hs, ht⟩ | ⟨s', t', hs, ht, hst⟩
      · rw [hs, ht]
        exact Or.inl ⟨e, rfl, rfl⟩
      · have hnext := h.sides.insertTemplate
          (x := templateRow db tenantId identityId clip.1 clip.2) hholds hs
        rw [hs, ht]
        refine ih hst ?_ (fun id hid => hnext.2.2 _ hfresh id (List.mem_cons_of_mem _ hid))
        obtain ⟨row, hrow, hside⟩ := hholds
        exact ⟨row, hnext.2.1 ▸ hrow, hside⟩

/-- The inserts of the tenant are not seen. -/
theorem Without.insertClips_hides (db : VoiceDatabase R V)
    {clips : List (String × SpeakerEmbedding R V)} (h : Without A s t)
    (hholds : s.Holds A A identityId) {s' : VoiceTables R V}
    (hs' : s.insertClips db A identityId clips = .ok s') : Without A s' t := by
  induction clips generalizing s with
  | nil =>
    cases hs'
    exact h
  | cons clip clips ih =>
    unfold insertClips insertClip at hs'
    cases hliteral : db.toVectorLiteral clip.2 with
    | error e =>
      rw [hliteral] at hs'
      cases hs'
    | ok v =>
      rw [hliteral] at hs'
      dsimp only at hs'
      cases hinsert : s.insertTemplate (templateRow db A identityId clip.1 clip.2) with
      | error e =>
        rw [hinsert] at hs'
        cases hs'
      | ok next =>
        rw [hinsert] at hs'
        have hnext := h.sides.insertTemplate
          (x := templateRow db A identityId clip.1 clip.2) hholds hinsert
        refine ih (h.insertTemplate_hides (x := templateRow db A identityId clip.1 clip.2) rfl
          hholds hinsert) ?_ hs'
        obtain ⟨row, hrow, hside⟩ := hholds
        exact ⟨row, hnext.2.1 ▸ hrow, hside⟩

/-! ## Deleting -/

/-- What a delete can do. -/
theorem deleteIdentity_cases (s : VoiceTables R V) (tenantId identityId : String) :
    (s.find tenantId identityId = none ∧ s.deleteIdentity tenantId identityId = (s, false))
      ∨ ∃ row s', s.identities identityId = some row ∧ row.tenantId = tenantId
        ∧ s.deleteIdentity tenantId identityId = (s', true)
        ∧ s'.identities = Function.update s.identities identityId none
        ∧ s'.templates = s.templates.filter (fun x => x.identityId ≠ identityId) := by
  unfold deleteIdentity
  cases hfind : s.find tenantId identityId with
  | none => exact Or.inl ⟨rfl, rfl⟩
  | some row =>
    have hrow := Option.filter_eq_some_iff.mp hfind
    exact Or.inr ⟨row, _, hrow.1, by simpa using hrow.2, rfl, rfl, rfl⟩

theorem Sides.deleteIdentity (h : s.Sides A) {s' : VoiceTables R V}
    (hidentities : s'.identities = Function.update s.identities identityId none)
    (htemplates : s'.templates = s.templates.filter (fun x => x.identityId ≠ identityId)) :
    s'.Sides A := by
  intro x hx row hrow
  rw [htemplates, List.mem_filter] at hx
  rw [hidentities, Function.update_of_ne (by simpa using hx.2)] at hrow
  exact h x hx.1 row hrow

/-- A delete of another tenant does the same in both. -/
theorem Without.deleteIdentity_keeps (h : Without A s t) (hne : tenantId ≠ A)
    (identityId : String) :
    Without A (s.deleteIdentity tenantId identityId).1 (t.deleteIdentity tenantId identityId).1
      ∧ (s.deleteIdentity tenantId identityId).2 = (t.deleteIdentity tenantId identityId).2 := by
  have hfind := h.find hne identityId
  rcases s.deleteIdentity_cases tenantId identityId with
    ⟨hs, hdelete⟩ | ⟨row, s', hrow, htenant, hdelete, hidentities, htemplates⟩
  · rcases t.deleteIdentity_cases tenantId identityId with ⟨-, hdelete'⟩ | ⟨row', t', hrow', ht, -⟩
    · rw [hdelete, hdelete']
      exact ⟨h, rfl⟩
    · have hsome : t.find tenantId identityId = some row' :=
        Option.filter_eq_some_iff.mpr ⟨hrow', by simpa using ht⟩
      cases hsome.symm.trans (hfind.trans hs)
  · rcases t.deleteIdentity_cases tenantId identityId with
      ⟨ht, -⟩ | ⟨row', t', -, -, hdelete', hidentities', htemplates'⟩
    · have hsome : s.find tenantId identityId = some row :=
        Option.filter_eq_some_iff.mpr ⟨hrow, by simpa using htenant⟩
      cases hsome.symm.trans (hfind.symm.trans ht)
    · rw [hdelete, hdelete']
      refine ⟨⟨fun id => ?_, ?_, h.sides.deleteIdentity hidentities htemplates⟩, rfl⟩
      · rw [hidentities, hidentities']
        by_cases hid : id = identityId
        · subst hid
          rw [Function.update_self, Function.update_self]
          rfl
        · rw [Function.update_of_ne hid, Function.update_of_ne hid]
          exact h.identities id
      · rw [htemplates, htemplates', h.templates, List.filter_filter, List.filter_filter]
        exact List.filter_congr (fun x _ => Bool.and_comm _ _)

/-- A delete of the tenant is not seen: the templates that go with the
identity are its own. -/
theorem Without.deleteIdentity_hides (h : Without A s t) (identityId : String) :
    Without A (s.deleteIdentity A identityId).1 t := by
  rcases s.deleteIdentity_cases A identityId with
    ⟨-, hdelete⟩ | ⟨row, s', hrow, htenant, hdelete, hidentities, htemplates⟩
  · rw [hdelete]
    exact h
  · rw [hdelete]
    refine ⟨fun id => ?_, ?_, h.sides.deleteIdentity hidentities htemplates⟩
    · rw [hidentities]
      by_cases hid : id = identityId
      · subst hid
        rw [Function.update_self, h.identity_of_eq hrow htenant]
        rfl
      · rw [Function.update_of_ne hid]
        exact h.identities id
    · rw [htemplates, h.templates, List.filter_filter]
      refine List.filter_congr (fun x hx => ?_)
      by_cases hA : x.tenantId = A
      · simp [hA]
      · have hid : x.identityId ≠ identityId := fun hid =>
          hA ((h.sides x hx row (hid ▸ hrow)).mpr htenant)
        simp [hA, hid]

/-! ## Transactions -/

/-- **An `enroll` finds the row of its identity on its side of the tenant**,
or finds none. -/
def EnrollsApart (A : String) (s : VoiceTables R V) : VoiceCommand R V → Prop
  | .enroll tenantId identityId _ _ _ _ => s.OnSide A tenantId identityId
  | _ => True

/-- **The ids an `enroll` draws** are not those of templates on the other
side. -/
def DrawsApart (A : String) (s : VoiceTables R V) : VoiceCommand R V → Prop
  | .enroll tenantId _ _ _ _ accepted => s.FreshIds A tenantId (accepted.map Prod.fst)
  | _ => True

instance (s : VoiceTables R V) : (c : VoiceCommand R V) → Decidable (s.EnrollsApart A c)
  | .enroll _ _ _ _ _ _ => inferInstanceAs (Decidable (s.OnSide A _ _))
  | .bestIdentities _ _ _ | .deleteIdentity _ _ | .identityExists _ _ | .templatesOf _ _ _ =>
    isTrue trivial

instance (s : VoiceTables R V) : (c : VoiceCommand R V) → Decidable (s.DrawsApart A c)
  | .enroll _ _ _ _ _ _ => inferInstanceAs (Decidable (s.FreshIds A _ _))
  | .bestIdentities _ _ _ | .deleteIdentity _ _ | .identityExists _ _ | .templatesOf _ _ _ =>
    isTrue trivial

/-- **A transaction of another tenant does the same in both.** -/
theorem Without.execute_keeps (db : VoiceDatabase R V) (h : Without A s t) {c : VoiceCommand R V}
    (hne : c.tenantId ≠ A) (henrolls : s.EnrollsApart A c) (hdraws : s.DrawsApart A c) :
    Without A (s.execute db c).1 (t.execute db c).1 ∧ (s.execute db c).2 = (t.execute db c).2 := by
  cases c with
  | enroll tenantId identityId displayName consentRef modelVersion accepted =>
    replace hne : tenantId ≠ A := hne
    have hupsert := h.upsertIdentity_keeps hne henrolls displayName consentRef
    have hfresh : (s.upsertIdentity identityId tenantId displayName consentRef).FreshIds A tenantId
        (accepted.map Prod.fst) := by
      unfold FreshIds
      rw [upsertIdentity_templates]
      exact hdraws
    unfold execute
    dsimp only
    rcases hupsert.insertClips_keeps db hne (holds_upsertIdentity henrolls) hfresh with
      ⟨e, hs, ht⟩ | ⟨s', t', hs, ht, hst⟩
    · rw [hs, ht]
      exact ⟨h, rfl⟩
    · rw [hs, ht]
      dsimp only
      rw [hst.templatesOf hne]
      exact ⟨hst, rfl⟩
  | bestIdentities vector tenantId modelVersion =>
    exact ⟨h, (h.bestIdentities hne db vector modelVersion).symm⟩
  | deleteIdentity tenantId identityId => exact h.deleteIdentity_keeps hne identityId
  | identityExists tenantId identityId =>
    have hfind : t.find tenantId identityId = s.find tenantId identityId := h.find hne identityId
    refine ⟨h, ?_⟩
    show ((s.find tenantId identityId).filter (fun row => row.deletedAt = none)).isSome
      = ((t.find tenantId identityId).filter (fun row => row.deletedAt = none)).isSome
    rw [hfind]
  | templatesOf tenantId identityId modelVersion =>
    exact ⟨h, (h.templatesOf hne identityId modelVersion).symm⟩

/-- **A transaction of the tenant is not seen.** -/
theorem Without.execute_hides (db : VoiceDatabase R V) (h : Without A s t) {c : VoiceCommand R V}
    (heq : c.tenantId = A) (henrolls : s.EnrollsApart A c) : Without A (s.execute db c).1 t := by
  subst heq
  cases c with
  | enroll tenantId identityId displayName consentRef modelVersion accepted =>
    have hupsert := h.upsertIdentity_hides henrolls displayName consentRef
    unfold execute
    dsimp only
    cases hclips : (s.upsertIdentity identityId tenantId displayName consentRef).insertClips db
        tenantId identityId accepted with
    | error e => exact h
    | ok s' => exact hupsert.insertClips_hides db (holds_upsertIdentity henrolls) hclips
  | bestIdentities vector tenantId modelVersion => exact h
  | deleteIdentity tenantId identityId => exact h.deleteIdentity_hides identityId
  | identityExists tenantId identityId => exact h
  | templatesOf tenantId identityId modelVersion => exact h

end VoiceTables

/-! ## Calls -/

namespace PgVectorVoiceRegistry

/-- **A call is about the rows of its client's tenant.** -/
theorem program_only (registry : PgVectorVoiceRegistry R V) (c : VoiceClient)
    (call : VoiceCall R V) :
    (registry.program c call).Only (fun command => command.tenantId = c.tenantId) := by
  cases call with
  | enroll identityId embeddings displayName consentRef newIds =>
    refine Program.only_bind (Program.only_bind (Program.only_issue rfl) (fun reply => ?_))
      (fun _ => Program.only_pure _)
    cases reply with
    | error e => exact Program.only_pure _
    | ok counts => exact Program.only_pure _
  | identify e =>
    refine Program.only_bind ?_ (fun _ => Program.only_pure _)
    unfold identify
    split
    · split
      · exact Program.only_pure _
      · split
        · exact Program.only_pure _
        · exact Program.only_bind (Program.only_issue rfl) (fun _ => Program.only_pure _)
    · exact Program.only_pure _
  | deleteIdentity identityId =>
    exact Program.only_bind (Program.only_issue rfl) (fun _ => Program.only_pure _)
  | identityExists identityId =>
    exact Program.only_bind (Program.only_issue rfl) (fun _ => Program.only_pure _)
  | prototypesOf identityId =>
    refine Program.only_bind (Program.only_bind (Program.only_issue rfl) (fun found => ?_))
      (fun _ => Program.only_pure _)
    cases found with
    | false => exact Program.only_pure _
    | true => exact Program.only_bind (Program.only_issue rfl) (fun _ => Program.only_pure _)

/-- The turn's transaction, if it has one, meets the condition. -/
abbrev Meets (registry : PgVectorVoiceRegistry R V)
    (D : VoiceTables R V → VoiceCommand R V → Prop) : VoiceSystem R V → VoiceTurn R V → Prop :=
  CallSystem.Meets registry.program D

/-- **Calls of a tenant's clients unwind.** -/
theorem unwinding (registry : PgVectorVoiceRegistry R V) (A : String) :
    Unwinding registry.step registry.result (fun e => e.caller.tenantId ≠ A)
      (registry.Meets (fun s c => s.EnrollsApart A c ∧ s.DrawsApart A c))
      (CallSystem.Related (fun c : VoiceClient => c.tenantId ≠ A)
        (fun c command => command.tenantId = c.tenantId) (VoiceTables.Without A)) := by
  have hcommands : CallSystem.CommandUnwinding (VoiceTables.execute registry.pool)
      (fun c : VoiceClient => c.tenantId ≠ A) (fun c command => command.tenantId = c.tenantId)
      (fun s c => s.EnrollsApart A c ∧ s.DrawsApart A c) (VoiceTables.Without A) := by
    refine ⟨?_, ?_, ?_⟩
    · intro c command s t hkept hallowed hst hD
      exact (hst.execute_keeps registry.pool (fun heq => hkept (hallowed.symm.trans heq)) hD.1
        hD.2).1
    · intro c command s t hkept hallowed hst hD
      exact (hst.execute_keeps registry.pool (fun heq => hkept (hallowed.symm.trans heq)) hD.1
        hD.2).2
    · intro c command s t hkept hallowed hst hD
      exact hst.execute_hides registry.pool (hallowed.trans (not_not.mp hkept)) hD.1
  exact CallSystem.unwinding hcommands registry.program_only

/-- The run without anybody's calls starts where the full one starts. -/
theorem related_start (A : String) :
    CallSystem.Related (fun c : VoiceClient => c.tenantId ≠ A)
      (fun c command => command.tenantId = c.tenantId) (VoiceTables.Without A)
      (⟨VoiceTables.empty, fun _ => none⟩ : VoiceSystem R V) ⟨VoiceTables.empty, fun _ => none⟩ :=
  .refl ⟨fun _ => rfl, rfl, fun _ hx => nomatch hx⟩ (fun _ => rfl)

/-- **Tenants are isolated as long as no enrollment crosses between them.** In
a run in which no `enroll` finds the row of its identity on the other side of
the tenant, what another tenant is answered is what it would be answered if
the tenant had made no call. -/
theorem results_isolated (registry : PgVectorVoiceRegistry R V) {A B : String} (hAB : A ≠ B)
    (turns : List (VoiceTurn R V))
    (hids : EachStep registry.step (registry.Meets (VoiceTables.DrawsApart A))
      ⟨VoiceTables.empty, fun _ => none⟩ turns)
    (hrows : EachStep registry.step (registry.Meets (VoiceTables.EnrollsApart A))
      ⟨VoiceTables.empty, fun _ => none⟩ turns) :
    registry.results B turns
      = registry.results B (turns.filter (fun e => e.caller.tenantId ≠ A)) := by
  have hboth : EachStep registry.step
      (registry.Meets (fun s c => s.EnrollsApart A c ∧ s.DrawsApart A c))
      ⟨VoiceTables.empty, fun _ => none⟩ turns := fun pre e hpre c hc =>
    ⟨hrows pre e hpre c hc, hids pre e hpre c hc⟩
  have htrace := (registry.unwinding A).trace_eq (related_start A) hboth
  unfold results
  rw [← htrace, List.filter_filter]
  refine (List.filter_congr (fun a _ => ?_)).symm
  by_cases hB : a.1.caller.tenantId = B
  · simp [hB, hAB.symm]
  · simp [hB]

/-! ## Two tenants, one id -/

/-- A database of vectors of one dimension. -/
def lineDatabase : VoiceDatabase ℚ ℚ where
  dimension _ := 192
  sourceHash v _ := if v = 1 then "6b86" else "6af1"
  orderByScore := List.insertionSort (fun g g' => g'.score ≤ g.score)
  orderByScore_perm rows := List.perm_insertionSort _ rows
  orderByScore_sorted rows :=
    have : Std.Total (fun g g' : ScoredIdentity ℚ => g'.score ≤ g.score) :=
      ⟨fun g g' => le_total g'.score g.score⟩
    have : IsTrans (ScoredIdentity ℚ) (fun g g' => g'.score ≤ g.score) :=
      ⟨fun _ _ _ h h' => le_trans h' h⟩
    List.pairwise_insertionSort _ rows

/-- A calibrated registry. -/
def lineRegistry : PgVectorVoiceRegistry ℚ ℚ where
  pool := lineDatabase
  modelVersion := "campplus"
  acceptThreshold := some (1 / 2)
  ambiguousMargin := some (1 / 10)

/-- A clip of five seconds. -/
def lineClip (forward : Bool) : SpeakerEmbedding ℚ ℚ :=
  (lineVoice forward).slice 5000 .enrollment

/-- Two tenants enroll a voice, under ids of their choice, and the second has
a clip identified. -/
def twoEnrollments (id id' : String) : List (VoiceTurn ℚ ℚ) :=
  [⟨⟨"acme", 0⟩, .enroll id [lineClip false] (some "Alice") none
      (fun n => "vtpl_a" ++ toString n)⟩,
    ⟨⟨"bolt", 0⟩, .enroll id' [lineClip true] (some "Bob") none
      (fun n => "vtpl_b" ++ toString n)⟩,
    ⟨⟨"bolt", 0⟩, .identify (lineClip true)⟩]

/-- The names a tenant is told. -/
def namesTold (results : List (VoiceTurn ℚ ℚ × Option (VoiceResult ℚ ℚ))) : List String :=
  results.filterMap (fun a => match a.2 with
    | some (.decision (.ok d)) => d.speakerName
    | _ => none)

/-- Tenants that enroll under different ids. -/
theorem results_isolated_of_two_ids :
    lineRegistry.results "bolt" (twoEnrollments "emp_1" "emp_2")
      = lineRegistry.results "bolt" ((twoEnrollments "emp_1" "emp_2").filter
        (fun e => e.caller.tenantId ≠ "acme")) :=
  results_isolated lineRegistry (by decide) (twoEnrollments "emp_1" "emp_2")
    (by decide +kernel) (by decide +kernel)

/-- **The name another tenant stored.** Both tenants enroll under one id. The
second's own voice is identified, under the name the first has stored. -/
theorem name_of_another_tenant :
    namesTold (lineRegistry.results "bolt" (twoEnrollments "emp_1" "emp_1")) = ["Alice"]
      ∧ ¬ ∀ turns : List (VoiceTurn ℚ ℚ), lineRegistry.results "bolt" turns
        = lineRegistry.results "bolt" (turns.filter (fun e => e.caller.tenantId ≠ "acme")) := by
  refine ⟨by decide +kernel, fun h => ?_⟩
  have hnames := congrArg namesTold (h (twoEnrollments "emp_1" "emp_1"))
  exact absurd hnames (by decide +kernel)

end PgVectorVoiceRegistry

end Sastt

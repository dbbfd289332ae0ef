import Sastt.Adapters.EnrollmentPolicy

/-!
# Names that are registered

`enroll` without a name adds clips to an identity. Its upsert keeps what is stored for a
value that is null, but `enroll` never passes one: it puts the id in the place of a missing
name and "unspecified" in the place of a missing consent first. So the row keeps its name
exactly if that is its id, or if the database refuses a clip and the transaction is rolled
back (`enroll_keeps_iff`).
-/

namespace Sastt

variable {R V : Type} [Field R] [LinearOrder R] [AddCommGroup V] [Module R V] [EmbeddingSpace R V]

/-! ## Clips that are refused -/

/-- What the index `voice_templates_identity_release_source` knows a clip by. -/
def clipSource (db : VoiceDatabase R V) (identityId : String) (e : SpeakerEmbedding R V) :
    String × String × String :=
  (identityId, e.modelVersion, db.sourceHash e.vector e.speechDurationMs)

/-- **The database refuses a clip**: its vector is not of the dimension of the column, or
its id is taken. A clip that is stored already is passed over. -/
def RefusesClip (db : VoiceDatabase R V) (identityId : String) :
    List (String × SpeakerEmbedding R V) → List (String × String × String) → List String → Prop
  | [], _, _ => False
  | clip :: clips, sources, ids =>
    db.dimension clip.2.vector ≠ embeddingDimension
      ∨ if clipSource db identityId clip.2 ∈ sources then
          RefusesClip db identityId clips sources ids
        else clip.1 ∈ ids ∨ RefusesClip db identityId clips
          (sources ++ [clipSource db identityId clip.2]) (ids ++ [clip.1])

namespace VoiceTables

variable {db : VoiceDatabase R V} {identityId : String} {s : VoiceTables R V}

/-- A clip of `enroll` is refused, seen from the tables. -/
def Refuses (db : VoiceDatabase R V) (identityId : String) (s : VoiceTables R V)
    (clips : List (String × SpeakerEmbedding R V)) : Prop :=
  RefusesClip db identityId clips (s.templates.map VoiceTemplate.source)
    (s.templates.map VoiceTemplate.id)

/-- An enrollment is rolled back for a refused clip, and for nothing else. -/
theorem insertClips_error_iff (tenantId : String) (hrow : (s.identities identityId).isSome)
    (clips : List (String × SpeakerEmbedding R V)) :
    (∃ e, s.insertClips db tenantId identityId clips = .error e)
      ↔ s.Refuses db identityId clips := by
  unfold Refuses
  induction clips generalizing s with
  | nil => exact iff_of_false (fun ⟨_, h⟩ => by cases h) id
  | cons clip clips ih =>
    unfold insertClips insertClip VoiceDatabase.toVectorLiteral RefusesClip
    by_cases hdimension : db.dimension clip.2.vector = embeddingDimension
    · rw [if_neg (not_not.mpr hdimension), or_iff_right (not_not.mpr hdimension)]
      have hsame : (templateRow db tenantId identityId clip.1 clip.2).source
          = clipSource db identityId clip.2 := rfl
      rcases s.insertTemplate_cases (templateRow db tenantId identityId clip.1 clip.2)
        with ⟨hsource, hok⟩ | ⟨hsource, hid, herror⟩ | ⟨hsource, hid, hok⟩
      · rw [hok, if_pos (hsame ▸ hsource)]
        exact ih hrow
      · rw [herror, if_neg (hsame ▸ hsource)]
        exact iff_of_true ⟨_, rfl⟩ (Or.inl hid)
      · obtain ⟨s', hs', hidentities, htemplates⟩ := hok hrow
        have hafter := ih (hidentities ▸ hrow)
        rw [htemplates, List.map_append, List.map_append] at hafter
        rw [hs', if_neg (hsame ▸ hsource)]
        exact hafter.trans (or_iff_right hid).symm
    · rw [if_pos hdimension]
      exact iff_of_true ⟨_, rfl⟩ (Or.inl hdimension)

end VoiceTables

namespace PgVectorVoiceRegistry

variable (registry : PgVectorVoiceRegistry R V)

/-- The tables after calls of any tenants. -/
def history (calls : List (VoiceClient × VoiceCall R V)) : VoiceTables R V :=
  calls.foldl registry.call VoiceTables.empty

variable {registry} {s : VoiceTables R V} {c : VoiceClient} {identityId : String}
  {row : VoiceIdentity}

section Enroll

variable (embeddings : List (SpeakerEmbedding R V)) (displayName consentRef : Option String)
  (newIds : ℕ → String)

/-- `enroll` is rolled back if a clip is refused. -/
theorem call_enroll_refused
    (hrefused : s.Refuses registry.pool identityId (registry.acceptedClips embeddings newIds)) :
    registry.call s (c, .enroll identityId embeddings displayName consentRef newIds) = s := by
  have hupserted : (s.upsertIdentity identityId c.tenantId (orDefault displayName identityId)
      (orDefault consentRef "unspecified")).identities identityId = _ :=
    VoiceTables.upsertIdentity_self
  have hsame : (s.upsertIdentity identityId c.tenantId (orDefault displayName identityId)
      (orDefault consentRef "unspecified")).Refuses registry.pool identityId
        (registry.acceptedClips embeddings newIds) := by
    unfold VoiceTables.Refuses
    rw [VoiceTables.upsertIdentity_templates]
    exact hrefused
  obtain ⟨e, herror⟩ := (VoiceTables.insertClips_error_iff c.tenantId
    (Option.isSome_of_eq_some hupserted) _).mpr hsame
  rw [call_enroll]
  unfold VoiceTables.execute
  dsimp only
  rw [herror]

/-- **What `enroll` leaves of the identity it finds**: the name and the consent it was
called with, or what it puts in their place. -/
theorem find_enroll (hrow : s.find c.tenantId identityId = some row)
    (hrefused : ¬ s.Refuses registry.pool identityId (registry.acceptedClips embeddings newIds)) :
    (registry.call s (c, .enroll identityId embeddings displayName consentRef newIds)).find
        c.tenantId identityId
      = some { row with
          displayName := some (orDefault displayName identityId)
          consentRef := orDefault consentRef "unspecified" } := by
  obtain ⟨hfound, htenant⟩ := Option.filter_eq_some_iff.mp hrow
  have hupserted : (s.upsertIdentity identityId c.tenantId (orDefault displayName identityId)
      (orDefault consentRef "unspecified")).identities identityId = _ :=
    VoiceTables.upsertIdentity_self
  rw [call_enroll]
  unfold VoiceTables.execute
  dsimp only
  split
  · next e herror =>
    refine absurd ?_ hrefused
    have hsame := (VoiceTables.insertClips_error_iff c.tenantId
      (Option.isSome_of_eq_some hupserted) _).mp ⟨e, herror⟩
    unfold VoiceTables.Refuses at hsame
    rwa [VoiceTables.upsertIdentity_templates] at hsame
  · next s' hclips =>
    unfold VoiceTables.find
    rw [insertClips_identities hclips, hupserted, hfound]
    unfold VoiceTables.upsertedRow
    dsimp only
    have hsame : row.tenantId = c.tenantId := of_decide_eq_true htenant
    rw [if_pos hsame]
    exact Option.filter_eq_some_iff.mpr ⟨rfl, decide_eq_true hsame⟩

end Enroll

/-- Whom a decision names it calls by the name of the row. -/
theorem speakerName_decision {accept margin : R} {rows : List (ScoredIdentity R)}
    (h : (decision accept margin rows).registrySpeakerId = some identityId) :
    ∃ g ∈ rows, g.identityId = identityId
      ∧ (decision accept margin rows).speakerName = g.displayName := by
  cases rows with
  | nil => cases h
  | cons best rest =>
    unfold decision at h ⊢
    dsimp only at h ⊢
    split_ifs at h ⊢ with hlow hclose
    exact ⟨best, List.mem_cons_self, Option.some.inj h, rfl⟩

/-- **Whom `identify` names it calls by the name that is stored.** -/
theorem speakerName_identified {tenantId : String} {e : SpeakerEmbedding R V}
    {d : VoiceIdDecision R} (h : registry.identified s tenantId e = .ok d)
    (hid : d.registrySpeakerId = some identityId) {found : VoiceIdentity}
    (hfound : s.identities identityId = some found) : d.speakerName = found.displayName := by
  unfold identified identify at h
  split at h
  · next accept margin _ _ =>
    split at h
    · cases h
      cases hid
    · split at h
      · cases h
      · next vector _ =>
        cases h
        obtain ⟨g, hg, rfl, hname⟩ := speakerName_decision hid
        have hbest := (registry.pool.orderByScore_perm _).mem_iff.mp (List.mem_of_mem_take hg)
        obtain ⟨scored, hscored, -⟩ := List.mem_map.mp (List.max?_mem (mem_bestScores_iff.mp hbest))
        obtain ⟨hmem, hkey⟩ := List.mem_filter.mp hscored
        obtain ⟨hkeyid, hkeyname⟩ := of_decide_eq_true hkey
        obtain ⟨x, hx, hscore⟩ := List.mem_filterMap.mp hmem
        obtain ⟨row, hrow, rfl⟩ := Option.map_eq_some_iff.mp hscore
        have hstored := (Option.filter_eq_some_iff.mp hrow).1
        rw [show x.identityId = g.identityId from hkeyid, hfound] at hstored
        rw [hname, ← hkeyname, Option.some.inj hstored]
  · cases h
    cases hid

/-! ## What is kept -/

/-- **A call keeps the name** of an identity: the row has it, and whoever is identified as the
identity is called by it. -/
def KeepsName (registry : PgVectorVoiceRegistry R V) (s : VoiceTables R V) (c : VoiceClient)
    (identityId : String) (row : VoiceIdentity) (call : VoiceCall R V) : Prop :=
  ((registry.call s (c, call)).find c.tenantId identityId).map VoiceIdentity.displayName
      = some row.displayName
    ∧ ∀ e d, registry.identified (registry.call s (c, call)) c.tenantId e = .ok d →
      d.registrySpeakerId = some identityId → d.speakerName = row.displayName

/-- **A call keeps the consent** of an identity. -/
def KeepsConsent (registry : PgVectorVoiceRegistry R V) (s : VoiceTables R V) (c : VoiceClient)
    (identityId : String) (row : VoiceIdentity) (call : VoiceCall R V) : Prop :=
  ((registry.call s (c, call)).find c.tenantId identityId).map VoiceIdentity.consentRef
    = some row.consentRef

/-- The name is kept if the row has it afterwards. -/
theorem keepsName_of_find {call : VoiceCall R V} {found : VoiceIdentity}
    (hfind : (registry.call s (c, call)).find c.tenantId identityId = some found)
    (hname : found.displayName = row.displayName) :
    registry.KeepsName s c identityId row call := by
  refine ⟨by rw [hfind, Option.map_some, hname], fun e d hd hid => ?_⟩
  rw [← hname]
  exact speakerName_identified hd hid (Option.filter_eq_some_iff.mp hfind).1

/-- **An enrollment without a name keeps the name** exactly if that is the id of the
identity or a clip is refused, and one without a consent keeps the consent exactly if none
was given before or a clip is refused. -/
theorem enroll_keeps_iff (registry : PgVectorVoiceRegistry R V)
    (calls : List (VoiceClient × VoiceCall R V)) (c : VoiceClient) (identityId : String)
    (row : VoiceIdentity) (hrow : (registry.history calls).find c.tenantId identityId = some row)
    (embeddings : List (SpeakerEmbedding R V)) (newIds : ℕ → String) :
    (∀ consentRef, registry.KeepsName (registry.history calls) c identityId row
        (.enroll identityId embeddings none consentRef newIds)
      ↔ row.displayName = some identityId ∨ (registry.history calls).Refuses registry.pool
        identityId (registry.acceptedClips embeddings newIds))
      ∧ ∀ displayName, registry.KeepsConsent (registry.history calls) c identityId row
          (.enroll identityId embeddings displayName none newIds)
        ↔ row.consentRef = "unspecified" ∨ (registry.history calls).Refuses registry.pool
          identityId (registry.acceptedClips embeddings newIds) := by
  by_cases hrefused : (registry.history calls).Refuses registry.pool identityId
      (registry.acceptedClips embeddings newIds)
  · refine ⟨fun consentRef => iff_of_true ?_ (Or.inr hrefused),
      fun displayName => iff_of_true ?_ (Or.inr hrefused)⟩
    · refine keepsName_of_find ?_ (rfl : row.displayName = row.displayName)
      rw [call_enroll_refused _ _ _ _ hrefused, hrow]
    · unfold KeepsConsent
      rw [call_enroll_refused _ _ _ _ hrefused, hrow, Option.map_some]
  · constructor
    · intro consentRef
      have hfind := find_enroll embeddings none consentRef newIds hrow hrefused
      rw [or_iff_left hrefused]
      constructor
      · rintro ⟨hname, -⟩
        rw [hfind, Option.map_some] at hname
        exact (Option.some.inj hname).symm
      · exact fun hname => keepsName_of_find hfind hname.symm
    · intro displayName
      have hfind := find_enroll embeddings displayName none newIds hrow hrefused
      unfold KeepsConsent
      rw [or_iff_left hrefused, hfind, Option.map_some, Option.some_inj]
      exact eq_comm

end PgVectorVoiceRegistry

open PgVectorVoiceRegistry

/-- An identity is registered under a name, with a consent. -/
def registered (displayName consentRef : String) : List (VoiceClient × VoiceCall ℚ ℚ) :=
  [(⟨"acme", 0⟩, .enroll "emp_1" [lineClip true] (some displayName)
    (some consentRef) (fun n => "vtpl_a" ++ toString n))]

/-- Another clip of it is added. -/
def oneMoreClip : VoiceCall ℚ ℚ :=
  .enroll "emp_1" [lineClip false] none none
    (fun n => "vtpl_b" ++ toString n)

theorem PgVectorVoiceRegistry.enroll_keeps_id :
    lineRegistry.KeepsName (lineRegistry.history (registered "emp_1" "consent_7")) ⟨"acme", 0⟩
      "emp_1" ⟨"acme", some "emp_1", some "emp_1", "consent_7", none⟩ oneMoreClip :=
  ((enroll_keeps_iff lineRegistry (registered "emp_1" "consent_7") ⟨"acme", 0⟩ "emp_1"
    ⟨"acme", some "emp_1", some "emp_1", "consent_7", none⟩ (by decide +kernel) _ _).1
      none).mpr (Or.inl rfl)

/-- **One more clip erases the name and the consent.** -/
theorem PgVectorVoiceRegistry.enroll_erases :
    (lineRegistry.history (registered "Bob" "consent_7")).find "acme" "emp_1"
        = some ⟨"acme", some "emp_1", some "Bob", "consent_7", none⟩
      ∧ (lineRegistry.call (lineRegistry.history (registered "Bob" "consent_7"))
          (⟨"acme", 0⟩, oneMoreClip)).find "acme" "emp_1"
        = some ⟨"acme", some "emp_1", some "emp_1", "unspecified", none⟩
      ∧ ¬ ∀ (calls : List (VoiceClient × VoiceCall ℚ ℚ)) c identityId row,
        (lineRegistry.history calls).find c.tenantId identityId = some row →
        ∀ embeddings newIds,
          (∀ consentRef, lineRegistry.KeepsName (lineRegistry.history calls) c identityId row
            (.enroll identityId embeddings none consentRef newIds))
          ∧ ∀ displayName, lineRegistry.KeepsConsent (lineRegistry.history calls) c identityId row
            (.enroll identityId embeddings displayName none newIds) := by
  have hbefore : (lineRegistry.history (registered "Bob" "consent_7")).find "acme" "emp_1"
      = some ⟨"acme", some "emp_1", some "Bob", "consent_7", none⟩ := by decide +kernel
  have hafter : (lineRegistry.call (lineRegistry.history (registered "Bob" "consent_7"))
      (⟨"acme", 0⟩, oneMoreClip)).find "acme" "emp_1"
        = some ⟨"acme", some "emp_1", some "emp_1", "unspecified", none⟩ := by decide +kernel
  refine ⟨hbefore, hafter, fun h => ?_⟩
  have hname : ((lineRegistry.call (lineRegistry.history (registered "Bob" "consent_7"))
      (⟨"acme", 0⟩, oneMoreClip)).find "acme" "emp_1").map VoiceIdentity.displayName
        = some (some "Bob") :=
    ((h (registered "Bob" "consent_7") ⟨"acme", 0⟩ "emp_1" _ hbefore _ _).1 none).1
  rw [hafter] at hname
  exact absurd hname (by decide)

end Sastt

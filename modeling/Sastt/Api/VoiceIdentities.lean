import Sastt.Adapters.FakeVoiceRegistry
import Sastt.Api.CreateJob
import Sastt.Lib.Pairs

/-!
# Voice identities

A tenant creates an identity, enrolls voices for it, looks at its identities and
deletes them. What is noted of an identity is kept under its tenant and its id,
and its templates are in the registry, under its tenant as well. So a request
of a tenant is answered the same whatever the others have enrolled
(`SeenVoices`).
-/

namespace Sastt

open Method

/-- What is noted of an identity. -/
structure IdentityMetadata where
  displayName : String
  consentRef : Option String

/-- What a request about an identity returns. -/
structure VoiceIdentityView where
  identityId : String
  displayName : String
  status : String
  prototypeCount : ℕ
  embeddingModelVersion : String
  consentRefPresent : Bool
deriving DecidableEq, Repr

/-- What `DELETE /v1/voice-identities/{id}` returns. -/
structure DeletedIdentity where
  identityId : String
  deleted : Bool
deriving DecidableEq, Repr

/-- **What is known of voices**: `identity_metadata`, in the order of insertion,
and the entries of the registry. -/
structure VoiceState (R V : Type) where
  identityMetadata : List ((String × String) × IdentityMetadata) := []
  entries : RegistryEntries R V := fun _ => []

/-- What requests about identities run on. -/
structure VoiceServices (R V : Type) [Field R] [LinearOrder R] [AddCommGroup V] [Module R V]
    [EmbeddingSpace R V] where
  registry : FakeVoiceRegistry R
  /-- `str.lower`. -/
  lower : String → String
  /-- `load_demo_scenario(name).speakers`. -/
  scenarioSpeakers : String → Except PyError (List String)
  /-- A speaker of a scenario is rendered and embedded. -/
  embedSpeaker : String → String → Except PyError (SpeakerEmbedding R V)
  /-- A recording is decoded and embedded. -/
  embedAudio : Audio → Except PyError (SpeakerEmbedding R V)

variable {R V S : Type} [Field R] [LinearOrder R] [AddCommGroup V] [Module R V]
  [EmbeddingSpace R V]

namespace VoiceServices

variable (voices : VoiceServices R V) (services : ApiServices S R)

/-- The refusal of an identity that is not the tenant's. -/
def identityNotFound {α : Type} : Except PyError α :=
  .error (.sastt .tenantAccessDenied "voice identity not found for this tenant" [])

/-- `_voice_identity_view`. -/
def voiceIdentityView (s : VoiceState R V) (tenantId identityId : String) :
    Except PyError VoiceIdentityView :=
  match s.identityMetadata.lookup (tenantId, identityId) with
  | none => identityNotFound
  | some metadata => do
    let prototypes ←
      if FakeVoiceRegistry.identityExists tenantId identityId s.entries then
        FakeVoiceRegistry.prototypesOf tenantId identityId s.entries
      else .ok []
    return {
      identityId
      displayName := metadata.displayName
      status := "active"
      prototypeCount := prototypes.length
      embeddingModelVersion := voices.registry.modelVersion
      consentRefPresent := metadata.consentRef.getD "" ≠ "" }

/-- `list_voice_identities`. -/
def listVoiceIdentities (tenantId : String) :
    Method PyError (VoiceState R V) (List VoiceIdentityView) := do
  let s ← .read
  let identities ← .ofExcept <|
    (s.identityMetadata.filter (fun entry => entry.1.1 = tenantId)).mapM
      (fun entry => voices.voiceIdentityView s tenantId entry.1.2)
  return identities.insertionSort
    (fun a b => voices.lower a.displayName ≤ voices.lower b.displayName)

/-- The id of an identity that is created, with the one that would be drawn. -/
def newIdentityId (payload : String → JsonValue) (newId : String) : String :=
  let externalId := payload "external_id"
  if externalId.truthy then externalId.toStr else "vid_" ++ newId

/-- `create_voice_identity`. -/
def createVoiceIdentity (tenantId : String) (payload : String → JsonValue) (newId : String) :
    Method PyError (VoiceState R V) VoiceIdentityView := do
  let identityId := newIdentityId payload newId
  if strip identityId = "" then .throw (.http 400 "external_id must not be empty")
  else
    let s ← .read
    if (s.identityMetadata.lookup (tenantId, identityId)).isSome then
      .throw (.http 409 "voice identity already exists")
    else
      let displayName := payload "display_name"
      let consentRef := payload "consent_ref"
      .modify fun s => { s with
        identityMetadata := s.identityMetadata ++ [((tenantId, identityId), {
          displayName := if displayName.truthy then displayName.toStr else identityId
          consentRef := if consentRef.truthy then some consentRef.toStr else none })] }
      .ofExcept (voices.voiceIdentityView (← .read) tenantId identityId)

/-- `get_voice_identity`. -/
def getVoiceIdentity (tenantId identityId : String) :
    Method PyError (VoiceState R V) VoiceIdentityView := do
  .ofExcept (voices.voiceIdentityView (← .read) tenantId identityId)

/-- `_extract_enrollment_embedding`. -/
def extractEnrollmentEmbedding (payload : String → JsonValue) :
    Except PyError (SpeakerEmbedding R V) :=
  let scenarioName := payload "scenario"
  if scenarioName.truthy then
    if services.engineName ≠ "fake" then
      .error (.http 400 "scenario enrollment is only available on fake engine")
    else do
      let speakers ← voices.scenarioSpeakers scenarioName.toStr
      let speaker := payload "speaker"
      let speaker := if speaker.truthy then speaker.toStr else ""
      if speaker ∉ speakers then .error (.http 400 "speaker must be one of the scenario speakers")
      else voices.embedSpeaker scenarioName.toStr speaker
  else
    let encoded := payload "audio_base64"
    if ¬ encoded.truthy then .error (.http 400 "provide scenario/speaker or audio_base64")
    else if services.engineName = "fake" then
      .error (.sastt .modelNotReady "real enrollment audio needs SASTT_ENGINE=real" [])
    else do
      let audio ← services.decodeBase64 encoded.toStr
      voices.embedAudio audio

/-- `payload.get("consent_ref") or metadata.get("consent_ref")`. -/
def consentGiven (payload : String → JsonValue) (metadata : IdentityMetadata) : Option String :=
  let given := payload "consent_ref"
  if given.truthy then some given.toStr else metadata.consentRef.filter (· ≠ "")

/-- The consent is noted. -/
def noteConsent (key : String × String) (consentRef : String)
    (entry : (String × String) × IdentityMetadata) : (String × String) × IdentityMetadata :=
  if entry.1 = key then (entry.1, { entry.2 with consentRef := some consentRef }) else entry

/-- `enroll_voice_identity`. -/
def enrollVoiceIdentity (tenantId identityId : String) (payload : String → JsonValue) :
    Method PyError (VoiceState R V) EnrollmentReport := do
  let s ← .read
  match s.identityMetadata.lookup (tenantId, identityId) with
  | none => .ofExcept identityNotFound
  | some metadata =>
    match consentGiven payload metadata with
    | none => .throw (.http 400 "consent_ref is required for enrollment")
    | some consentRef => do
      let embedding ← .ofExcept (voices.extractEnrollmentEmbedding services payload)
      let report ← (voices.registry.enroll tenantId identityId [embedding]
        (some metadata.displayName) (some consentRef)).zoom VoiceState.entries
          (fun s entries => { s with entries })
      .modify fun s => { s with
        identityMetadata := s.identityMetadata.map (noteConsent (tenantId, identityId) consentRef) }
      return report

/-- `registry.delete_identity`. -/
def deleteEntry (tenantId identityId : String) : Method PyError (RegistryEntries R V) Bool :=
  fun entries =>
    let deleted := FakeVoiceRegistry.deleteIdentity tenantId identityId entries
    (.ok deleted.1, deleted.2)

/-- `delete_voice_identity`. -/
def deleteVoiceIdentity (tenantId identityId : String) :
    Method PyError (VoiceState R V) DeletedIdentity := do
  let s ← .read
  if (s.identityMetadata.lookup (tenantId, identityId)).isNone then .ofExcept identityNotFound
  else
    let deleted ← (deleteEntry tenantId identityId).zoom VoiceState.entries
      (fun s entries => { s with entries })
    .modify fun s => { s with
      identityMetadata := s.identityMetadata.filter
        (fun entry => entry.1 ≠ (tenantId, identityId)) }
    return { identityId, deleted }

end VoiceServices

/-- **A request about identities**, with the id that would be drawn. -/
inductive VoicesRequest
  | list
  | create (payload : String → JsonValue) (newId : String)
  | get (identityId : String)
  | enroll (identityId : String) (payload : String → JsonValue)
  | delete (identityId : String)

/-- What it is answered. -/
inductive VoicesAnswer
  | identities (views : List VoiceIdentityView)
  | identity (view : VoiceIdentityView)
  | enrollment (report : EnrollmentReport)
  | deleted (view : DeletedIdentity)

/-- Handling a request. -/
def VoiceServices.handle (voices : VoiceServices R V) (services : ApiServices S R)
    (tenantId : String) : VoicesRequest → Method PyError (VoiceState R V) VoicesAnswer
  | .list => return .identities (← voices.listVoiceIdentities tenantId)
  | .create payload newId => return .identity (← voices.createVoiceIdentity tenantId payload newId)
  | .get identityId => return .identity (← voices.getVoiceIdentity tenantId identityId)
  | .enroll identityId payload =>
    return .enrollment (← voices.enrollVoiceIdentity services tenantId identityId payload)
  | .delete identityId => return .deleted (← deleteVoiceIdentity tenantId identityId)

/-! ## What a tenant sees -/

/-- **The identities of the tenant are the same in both states**, the second of
which notes no others. -/
structure SeenVoices (B : String) (s t : VoiceState R V) : Prop where
  identityMetadata : t.identityMetadata = s.identityMetadata.filter (fun entry => entry.1.1 = B)
  entries : t.entries B = s.entries B

variable {B : String} {s t : VoiceState R V}

omit [Field R] [LinearOrder R] [AddCommGroup V] [Module R V] [EmbeddingSpace R V] in
/-- What is noted under the tenant is found in both. -/
theorem SeenVoices.lookup (h : SeenVoices B s t) (identityId : String) :
    t.identityMetadata.lookup (B, identityId) = s.identityMetadata.lookup (B, identityId) := by
  rw [h.identityMetadata]
  generalize s.identityMetadata = entries
  induction entries with
  | nil => rfl
  | cons entry entries ih =>
    obtain ⟨⟨owner, id⟩, metadata⟩ := entry
    by_cases howner : owner = B
    · rw [List.filter_cons_of_pos (by simpa using howner), List.lookup_cons, List.lookup_cons, ih]
    · have hkey : ((B, identityId) == (owner, id)) = false :=
        beq_eq_false_iff_ne.mpr (fun heq => howner (congrArg Prod.fst heq).symm)
      rw [List.filter_cons_of_neg (by simpa using howner), List.lookup_cons, hkey, ih]

variable {voices : VoiceServices R V} {services : ApiServices S R} {identityId : String}

theorem SeenVoices.view (h : SeenVoices B s t) (identityId : String) :
    voices.voiceIdentityView t B identityId = voices.voiceIdentityView s B identityId := by
  unfold VoiceServices.voiceIdentityView FakeVoiceRegistry.identityExists
    FakeVoiceRegistry.prototypesOf
  rw [h.lookup, h.entries]

/-- **Listing identities.** -/
theorem agree_listVoiceIdentities :
    Agree (SeenVoices B) (fun _ => True) (voices.listVoiceIdentities B)
      (voices.listVoiceIdentities B) := by
  refine agree_read_bind (fun s t h => ?_)
  have hviews : (t.identityMetadata.filter (fun entry => entry.1.1 = B)).mapM
        (fun entry => voices.voiceIdentityView t B entry.1.2)
      = (s.identityMetadata.filter (fun entry => entry.1.1 = B)).mapM
        (fun entry => voices.voiceIdentityView s B entry.1.2) := by
    rw [h.identityMetadata, List.filter_filter]
    simp only [Bool.and_self, h.view]
  rw [hviews]
  exact agree_bind (agree_ofExcept (fun _ _ => trivial)) (fun _ _ => agree_pure trivial) s t h

/-- **Looking at one.** -/
theorem agree_getVoiceIdentity :
    Agree (SeenVoices B) (fun _ => True) (voices.getVoiceIdentity B identityId)
      (voices.getVoiceIdentity B identityId) := by
  refine agree_read_bind (fun s t h => ?_)
  rw [h.view]
  exact agree_ofExcept (fun _ _ => trivial) s t h

/-- **Creating one.** -/
theorem agree_createVoiceIdentity (payload : String → JsonValue) (newId : String) :
    Agree (SeenVoices B) (fun _ => True) (voices.createVoiceIdentity B payload newId)
      (voices.createVoiceIdentity B payload newId) := by
  unfold VoiceServices.createVoiceIdentity
  dsimp only
  split
  · exact agree_throw _
  · refine agree_read_bind (fun s t h => ?_)
    rw [h.lookup]
    split
    · exact agree_throw _ s t h
    · refine agree_bind (agree_modify (fun s t h => ?_)) (fun _ _ => agree_getVoiceIdentity) s t h
      refine ⟨?_, h.entries⟩
      dsimp only
      rw [h.identityMetadata, List.filter_append, List.filter_cons_of_pos (by simp),
        List.filter_nil]

/-- An enrollment reads and writes the entries of its tenant. -/
theorem FakeVoiceRegistry.enroll_local (registry : FakeVoiceRegistry R) (identityId : String)
    (embeddings : List (SpeakerEmbedding R V)) (displayName consentRef : Option String)
    {entries entries' : RegistryEntries R V} (h : entries' B = entries B) :
    (registry.enroll B identityId embeddings displayName consentRef entries').1
        = (registry.enroll B identityId embeddings displayName consentRef entries).1
      ∧ (registry.enroll B identityId embeddings displayName consentRef entries').2 B
        = (registry.enroll B identityId embeddings displayName consentRef entries).2 B := by
  unfold FakeVoiceRegistry.enroll
  dsimp only
  rw [h]
  split <;> refine ⟨rfl, ?_⟩ <;> dsimp only <;> rw [Function.update_self, Function.update_self]

theorem FakeVoiceRegistry.enroll_of_ne (registry : FakeVoiceRegistry R) {A : String} (hne : B ≠ A)
    (identityId : String) (embeddings : List (SpeakerEmbedding R V))
    (displayName consentRef : Option String) (entries : RegistryEntries R V) :
    (registry.enroll A identityId embeddings displayName consentRef entries).2 B = entries B := by
  unfold FakeVoiceRegistry.enroll
  dsimp only
  split
  · exact Function.update_of_ne hne _ _
  · exact Function.update_of_ne hne _ _

omit [Field R] [LinearOrder R] [AddCommGroup V] [Module R V] [EmbeddingSpace R V] in
/-- Noting a consent changes no owner. -/
theorem owner_comp_noteConsent (key : String × String) (consentRef : String) :
    (fun entry : (String × String) × IdentityMetadata => decide (entry.1.1 = B))
        ∘ VoiceServices.noteConsent key consentRef
      = fun entry => decide (entry.1.1 = B) := by
  funext entry
  unfold VoiceServices.noteConsent
  dsimp only [Function.comp]
  split <;> rfl

/-- **Enrolling a voice.** -/
theorem agree_enrollVoiceIdentity (payload : String → JsonValue) :
    Agree (SeenVoices B) (fun _ => True)
      (voices.enrollVoiceIdentity services B identityId payload)
      (voices.enrollVoiceIdentity services B identityId payload) := by
  unfold VoiceServices.enrollVoiceIdentity
  refine agree_read_bind (fun s t h => ?_)
  rw [h.lookup]
  split
  · exact agree_ofExcept (fun _ _ => trivial) s t h
  · split
    · exact agree_throw _ s t h
    · next consentRef _ =>
      refine agree_bind (agree_ofExcept (fun _ _ => trivial)) (fun embedding _ =>
        agree_bind (A := fun _ => True) (fun s t h => ?_) (fun _ _ =>
        agree_bind (agree_modify (fun s t h => ?_)) (fun _ _ => agree_pure trivial))) s t h
      · obtain ⟨hreport, hentries⟩ := voices.registry.enroll_local identityId [embedding]
          _ (some consentRef) h.entries
        exact ⟨hreport, ⟨h.identityMetadata, hentries⟩, fun _ _ => trivial⟩
      · refine ⟨?_, h.entries⟩
        dsimp only
        rw [h.identityMetadata, List.filter_map, owner_comp_noteConsent]

omit [Field R] [LinearOrder R] [AddCommGroup V] [Module R V] [EmbeddingSpace R V] in
/-- **Deleting one.** -/
theorem agree_deleteVoiceIdentity :
    Agree (SeenVoices (R := R) (V := V) B) (fun _ => True)
      (VoiceServices.deleteVoiceIdentity B identityId)
      (VoiceServices.deleteVoiceIdentity B identityId) := by
  unfold VoiceServices.deleteVoiceIdentity
  refine agree_read_bind (fun s t h => ?_)
  rw [h.lookup]
  split
  · exact agree_ofExcept (fun _ _ => trivial) s t h
  · refine agree_bind (A := fun _ => True) (fun s t h => ?_) (fun _ _ =>
      agree_bind (agree_modify (fun s t h => ⟨?_, h.entries⟩))
        (fun _ _ => agree_pure trivial)) s t h
    · refine ⟨?_, ⟨h.identityMetadata, ?_⟩, fun _ _ => trivial⟩
      · show Except.ok ((t.entries B).any _) = Except.ok ((s.entries B).any _)
        rw [h.entries]
      · show Function.update t.entries B ((t.entries B).filter _) B
          = Function.update s.entries B ((s.entries B).filter _) B
        rw [Function.update_self, Function.update_self, h.entries]
    · dsimp only
      rw [h.identityMetadata, List.filter_filter, List.filter_filter]
      exact List.filter_congr (fun _ _ => Bool.and_comm _ _)

/-- **A request of the tenant is answered the same in both states.** -/
theorem agree_handleVoices (r : VoicesRequest) :
    Agree (SeenVoices B) (fun _ => True) (voices.handle services B r)
      (voices.handle services B r) := by
  cases r with
  | list => exact agree_bind agree_listVoiceIdentities (fun _ _ => agree_pure trivial)
  | create payload newId =>
    exact agree_bind (agree_createVoiceIdentity payload newId) (fun _ _ => agree_pure trivial)
  | get identityId => exact agree_bind agree_getVoiceIdentity (fun _ _ => agree_pure trivial)
  | enroll identityId payload =>
    exact agree_bind (agree_enrollVoiceIdentity payload) (fun _ _ => agree_pure trivial)
  | delete identityId => exact agree_bind agree_deleteVoiceIdentity (fun _ _ => agree_pure trivial)

/-! ## What it does not see -/

/-- **What the requests of another tenant leave**: the notes and the entries of the
tenant are as they were. -/
structure KeepsVoices (B : String) (s s' : VoiceState R V) : Prop where
  identityMetadata : s'.identityMetadata.filter (fun entry => entry.1.1 = B)
    = s.identityMetadata.filter (fun entry => entry.1.1 = B)
  entries : s'.entries B = s.entries B

instance : Std.Refl (KeepsVoices (R := R) (V := V) B) := ⟨fun _ => ⟨rfl, rfl⟩⟩

instance : IsTrans (VoiceState R V) (KeepsVoices B) where
  trans _ _ _ h h' := ⟨h'.identityMetadata.trans h.identityMetadata, h'.entries.trans h.entries⟩

omit [Field R] [LinearOrder R] [AddCommGroup V] [Module R V] [EmbeddingSpace R V] in
theorem SeenVoices.of_keeps {s' : VoiceState R V} (h : SeenVoices B s t)
    (hkeeps : KeepsVoices B s s') : SeenVoices B s' t :=
  ⟨h.identityMetadata.trans hkeeps.identityMetadata.symm, h.entries.trans hkeeps.entries.symm⟩

variable {A : String} (hne : A ≠ B)

theorem keeps_listVoiceIdentities : Within (KeepsVoices B) (voices.listVoiceIdentities A) :=
  within_bind within_read (fun _ => within_bind (within_ofExcept _) (fun _ => within_pure _))

theorem keeps_getVoiceIdentity :
    Within (KeepsVoices B) (voices.getVoiceIdentity A identityId) :=
  within_bind within_read (fun _ => within_ofExcept _)

include hne in
theorem keeps_createVoiceIdentity (payload : String → JsonValue) (newId : String) :
    Within (KeepsVoices B) (voices.createVoiceIdentity A payload newId) := by
  unfold VoiceServices.createVoiceIdentity
  dsimp only
  split
  · exact within_throw _
  · refine within_bind within_read (fun s => ?_)
    split
    · exact within_throw _
    · refine within_bind (within_modify (fun s => ⟨?_, rfl⟩)) (fun _ => keeps_getVoiceIdentity)
      dsimp only
      rw [List.filter_append, List.filter_cons_of_neg (by simpa using hne), List.filter_nil,
        List.append_nil]

include hne in
theorem keeps_enrollVoiceIdentity (payload : String → JsonValue) :
    Within (KeepsVoices B) (voices.enrollVoiceIdentity services A identityId payload) := by
  unfold VoiceServices.enrollVoiceIdentity
  refine within_bind within_read (fun s => ?_)
  split
  · exact within_ofExcept _
  · split
    · exact within_throw _
    · refine within_bind (within_ofExcept _) (fun embedding => within_bind (fun s => ?_) (fun _ =>
        within_bind (within_modify (fun s => ⟨?_, rfl⟩)) (fun _ => within_pure _)))
      · exact ⟨rfl, voices.registry.enroll_of_ne hne.symm _ _ _ _ _⟩
      · dsimp only
        rw [List.filter_map, owner_comp_noteConsent]
        refine (List.map_congr_left (fun entry hentry => ?_)).trans (List.map_id _)
        have howner : entry.1.1 = B := of_decide_eq_true (List.mem_filter.mp hentry).2
        exact if_neg (fun hkey => hne ((congrArg Prod.fst hkey).symm.trans howner))

include hne in
omit [Field R] [LinearOrder R] [AddCommGroup V] [Module R V] [EmbeddingSpace R V] in
theorem keeps_deleteVoiceIdentity :
    Within (KeepsVoices (R := R) (V := V) B) (VoiceServices.deleteVoiceIdentity A identityId) := by
  unfold VoiceServices.deleteVoiceIdentity
  refine within_bind within_read (fun s => ?_)
  split
  · exact within_ofExcept _
  · refine within_bind (fun s => ⟨rfl, Function.update_of_ne hne.symm _ _⟩) (fun _ =>
      within_bind (within_modify (fun s => ⟨?_, rfl⟩)) (fun _ => within_pure _))
    dsimp only
    rw [List.filter_filter]
    refine List.filter_congr (fun entry _ => ?_)
    by_cases howner : entry.1.1 = B
    · have hkey : entry.1 ≠ (A, identityId) := fun heq =>
        hne ((congrArg Prod.fst heq).symm.trans howner)
      simp [howner, hkey]
    · simp [howner]

include hne in
/-- **A request of another tenant is not seen.** -/
theorem keeps_handleVoices (r : VoicesRequest) :
    Within (KeepsVoices B) (voices.handle services A r) := by
  cases r with
  | list => exact within_bind keeps_listVoiceIdentities (fun _ => within_pure _)
  | create payload newId =>
    exact within_bind (keeps_createVoiceIdentity hne payload newId) (fun _ => within_pure _)
  | get identityId => exact within_bind keeps_getVoiceIdentity (fun _ => within_pure _)
  | enroll identityId payload =>
    exact within_bind (keeps_enrollVoiceIdentity hne payload) (fun _ => within_pure _)
  | delete identityId =>
    exact within_bind (keeps_deleteVoiceIdentity hne) (fun _ => within_pure _)

end Sastt

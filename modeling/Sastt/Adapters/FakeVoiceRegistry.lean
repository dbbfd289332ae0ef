import Sastt.Adapters.VoiceRegistry
import Sastt.Lib.Method

/-!
# The voice registry in memory

`FakeVoiceRegistry` keeps the identities of a tenant in a dictionary, here the
list of its entries in the order in which they were enrolled. An entry has the
prototypes that were made of its clips, one for each, and the sum of their
speech. It decides by the rules of the registry in PostgreSQL.
-/

namespace Sastt

variable {R V : Type} [Field R] [LinearOrder R] [AddCommGroup V] [Module R V] [EmbeddingSpace R V]

/-- **An enrolled identity**: `_RegistryEntry`. -/
structure RegistryEntry (R V : Type) where
  identityId : String
  displayName : String
  prototypes : List (SpeakerPrototype R V) := []
  acceptedSpeechMs : ℕ := 0
  consentRef : Option String := none

/-- **The registry**, as it is configured. -/
structure FakeVoiceRegistry (R : Type) where
  modelVersion : String
  acceptThreshold : Option R := none
  ambiguousMargin : Option R := none
  minimumClips : ℕ := 3
  minimumTotalSpeechMs : ℕ := 15000

/-- The entries of each tenant. -/
abbrev RegistryEntries (R V : Type) : Type := String → List (RegistryEntry R V)

/-- The registry in memory with the settings of one in PostgreSQL. -/
def PgVectorVoiceRegistry.inMemory (registry : PgVectorVoiceRegistry R V) :
    FakeVoiceRegistry R where
  modelVersion := registry.modelVersion
  acceptThreshold := registry.acceptThreshold
  ambiguousMargin := registry.ambiguousMargin
  minimumClips := registry.minimumClips
  minimumTotalSpeechMs := registry.minimumTotalSpeechMs

/-- What an assignment to the entry of an identity leaves of the dictionary. -/
def setEntry (entry : RegistryEntry R V) (entries : List (RegistryEntry R V)) :
    List (RegistryEntry R V) :=
  if entries.any (fun e => e.identityId = entry.identityId) then
    entries.map (fun e => if e.identityId = entry.identityId then entry else e)
  else entries ++ [entry]

/-- The loop of `enroll` that appends a prototype for each accepted clip. It may
raise, and then leaves what it has appended. -/
def addPrototypes : List (SpeakerEmbedding R V) → RegistryEntry R V →
    Except PyError Unit × RegistryEntry R V
  | [], entry => (.ok (), entry)
  | e :: accepted, entry =>
    match SpeakerPrototype.fromEmbedding entry.identityId e with
    | .error err => (.error err, entry)
    | .ok prototype =>
      addPrototypes accepted { entry with prototypes := entry.prototypes ++ [prototype] }

namespace FakeVoiceRegistry

variable (registry : FakeVoiceRegistry R)

/-- Why a clip is not accepted. -/
def clipReasons (e : SpeakerEmbedding R V) : List String :=
  (if e.modelVersion ≠ registry.modelVersion then ["embedding_model_mismatch"] else [])
    ++ (if e.speechDurationMs < 3000 then ["clip_shorter_than_3s"] else [])
    ++ (if 15000 < e.speechDurationMs then ["clip_longer_than_15s"] else [])
    ++ (if e.origin = .separated then ["separated_source_not_allowed"] else [])

/-- `enroll`. -/
def enroll (tenantId identityId : String) (embeddings : List (SpeakerEmbedding R V))
    (displayName consentRef : Option String) :
    Method PyError (RegistryEntries R V) EnrollmentReport := fun tenants =>
  let clips := embeddings.zipIdx.map (fun clip =>
    { clipIndex := clip.2
      accepted := (registry.clipReasons clip.1).isEmpty
      speechDurationMs := clip.1.speechDurationMs
      reasons := registry.clipReasons clip.1 : EnrollmentClipReport })
  let accepted := embeddings.filter (fun e => (registry.clipReasons e).isEmpty)
  let batchSpeech := (accepted.map SpeakerEmbedding.speechDurationMs).sum
  let found := ((tenants tenantId).find? (fun e => e.identityId = identityId)).getD
    { identityId, displayName := orDefault displayName identityId }
  let entry := { found with
    consentRef := if orDefault consentRef "" = "" then found.consentRef else consentRef
    displayName := orDefault displayName found.displayName }
  match addPrototypes accepted entry with
  | (.error err, entry) =>
    (.error err, Function.update tenants tenantId (setEntry entry (tenants tenantId)))
  | (.ok _, entry) =>
    let entry := { entry with acceptedSpeechMs := entry.acceptedSpeechMs + batchSpeech }
    let reasons :=
      (if entry.prototypes.length < registry.minimumClips then ["fewer_than_minimum_clips"]
        else [])
        ++ (if entry.acceptedSpeechMs < registry.minimumTotalSpeechMs then
          ["insufficient_total_speech"] else [])
    (.ok {
      identityId
      acceptedClips := accepted.length
      rejectedClips := embeddings.length - accepted.length
      totalSpeechMs := entry.acceptedSpeechMs
      prototypeCount := entry.prototypes.length
      embeddingModelVersion := registry.modelVersion
      meetsPolicy := reasons.isEmpty
      clips, reasons },
      Function.update tenants tenantId (setEntry entry (tenants tenantId)))

/-- The best score of an entry, if it has a prototype. -/
def scoreOf (e : SpeakerEmbedding R V) (entry : RegistryEntry R V) :
    Except PyError (Option (R × RegistryEntry R V)) := do
  let similarities ← entry.prototypes.mapM (fun p => p.similarity e)
  return similarities.max?.map (fun score => (score, entry))

/-- What `identify` makes of the scores, the best of which come first. -/
def decision (accept margin : R) : List (R × RegistryEntry R V) → VoiceIdDecision R
  | [] => { status := .unknown, reason := "empty_registry" }
  | (bestScore, bestEntry) :: rest =>
    let gap := rest.head?.map (fun second => bestScore - second.1)
    if bestScore < accept then
      { status := .unknown, bestScore := some bestScore, margin := gap, reason := "below_accept" }
    else if gap.any (· < margin) then
      { status := .ambiguous, bestScore := some bestScore, margin := gap, reason := "low_margin" }
    else
      { status := .enrolled
        registrySpeakerId := some bestEntry.identityId
        speakerName := some bestEntry.displayName
        bestScore := some bestScore
        margin := gap
        reason := "accept" }

/-- `identify`. -/
def identify (tenantId : String) (e : SpeakerEmbedding R V) (tenants : RegistryEntries R V) :
    Except PyError (VoiceIdDecision R) :=
  match registry.acceptThreshold, registry.ambiguousMargin with
  | some accept, some margin =>
    if e.modelVersion ≠ registry.modelVersion then
      .ok { status := .unknown, reason := "embedding_model_mismatch" }
    else do
      let scores ← (tenants tenantId).mapM (scoreOf e)
      return decision accept margin
        ((scores.filterMap id).insertionSort (fun a b => b.1 ≤ a.1))
  | _, _ => .ok { status := .uncalibrated, reason := "thresholds_null" }

/-- `identity_exists`. -/
def identityExists (tenantId identityId : String) (tenants : RegistryEntries R V) : Bool :=
  (tenants tenantId).any (fun e => e.identityId = identityId)

/-- `delete_identity`. -/
def deleteIdentity (tenantId identityId : String) (tenants : RegistryEntries R V) :
    Bool × RegistryEntries R V :=
  (identityExists tenantId identityId tenants,
    Function.update tenants tenantId
      ((tenants tenantId).filter (fun e => e.identityId ≠ identityId)))

/-- `prototypes_of`. -/
def prototypesOf (tenantId identityId : String) (tenants : RegistryEntries R V) :
    Except PyError (List (SpeakerPrototype R V)) :=
  match (tenants tenantId).find? (fun e => e.identityId = identityId) with
  | none =>
    .error (.sastt .tenantAccessDenied
      ("identity " ++ pyRepr identityId ++ " is not visible to this tenant")
      [("identity_id", .str identityId)])
  | some entry => .ok entry.prototypes

/-- **A call of a client.** -/
def call (c : VoiceClient) (tenants : RegistryEntries R V) :
    VoiceCall R V → VoiceResult R V × RegistryEntries R V
  | .enroll identityId embeddings displayName consentRef _ =>
    let result := registry.enroll c.tenantId identityId embeddings displayName consentRef tenants
    (.report result.1, result.2)
  | .identify e => (.decision (registry.identify c.tenantId e tenants), tenants)
  | .deleteIdentity identityId =>
    let result := deleteIdentity c.tenantId identityId tenants
    (.deleted result.1, result.2)
  | .identityExists identityId => (.existence
    (identityExists c.tenantId identityId tenants), tenants)
  | .prototypesOf identityId =>
    (.prototypes (prototypesOf c.tenantId identityId tenants), tenants)

end FakeVoiceRegistry

end Sastt

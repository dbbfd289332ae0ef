import Mathlib.Data.Finset.SDiff
import Mathlib.Logic.Function.Basic
import Sastt.Domain.Config
import Sastt.Domain.Transcript
import Sastt.Lib.Method

/-!
# Session speaker state

All speakers of one session and the methods that move them. The speakers
are kept by id and never removed: a speaker merged into another stays and
forwards to it, and `SessionSpeakerState.get` follows the forwarding to the
speaker an id stands for.

Every method is a `Method`: it threads the state through an exception, so
what it changed before it raised stays changed. A speaker is an object that
several names refer to, and assigning to one of its attributes is
`updateSpeaker` at its id – it changes the record registered under the id
at that moment and no other. The generator of unique ids is not modelled:
a method that mints a speaker is given the id it draws, and registering an
id a second time raises.
-/

namespace Sastt

/-- Outcome of an attempt to update a prototype. -/
structure PrototypeUpdate where
  accepted : Bool
  reason : String
  speakerId : Option String := none
  version : Option ℕ := none
deriving DecidableEq, Repr

/-- A change of display label, to be published as a revision. -/
structure LabelChange where
  sessionSpeakerId : String
  previousLabel : String
  newLabel : String
  reason : String
deriving DecidableEq, Repr

/-- The label of the `index`-th temporary speaker. -/
def temporaryLabel (index : ℕ) : String := "Temporary Speaker " ++ toString index

/-- The label of the `index`-th speaker. -/
def speakerLabel (index : ℕ) : String := "Speaker " ++ toString index

/-- The label of the sink. -/
def UNATTRIBUTED_LABEL : String := "Unknown"

section

variable (R V : Type) [Field R] [LinearOrder R] [IsStrictOrderedRing R] [AddCommGroup V]
  [Module R V] [EmbeddingSpace R V]

/-- **The speakers of one session.** -/
structure SessionSpeakerState where
  sessionId : String
  config : SasttConfig R
  embeddingModelVersion : String
  speakers : String → Option (SessionSpeaker R V) := fun _ => none
  order : List String := []
  pendingLabelChanges : List LabelChange := []
  temporaryCounter : ℕ := 0
  labelCounter : ℕ := 0
  unattributedId : Option String := none

end

variable {R V : Type} [Field R] [LinearOrder R] [IsStrictOrderedRing R] [AddCommGroup V]
  [Module R V] [EmbeddingSpace R V]

namespace SessionSpeakerState

/-- A state without speakers. -/
def new (sessionId : String) (config : SasttConfig R) (embeddingModelVersion : String) :
    SessionSpeakerState R V :=
  { sessionId, config, embeddingModelVersion }

/-! ## Lookup -/

section Lookup

variable (st : SessionSpeakerState R V)

/-- The `while` loop of `get`. Following more speakers than are registered
is following a cycle. -/
def resolve : ℕ → String → Except PyError (SessionSpeaker R V)
  | 0, _ => .error .diverges
  | n + 1, id =>
    match st.speakers id with
    | none => .error (.keyError id)
    | some speaker =>
      match speaker.mergedInto with
      | none => .ok speaker
      | some target => resolve n target

/-- **The speaker an id stands for**, after all merges. -/
def get (sessionSpeakerId : String) : Except PyError (SessionSpeaker R V) :=
  st.resolve (st.order.length + 1) sessionSpeakerId

/-- The registered speakers, in the order of their registration. -/
def registered : List (SessionSpeaker R V) := st.order.filterMap st.speakers

/-- The speakers that have not been merged into another. -/
def active : List (SessionSpeaker R V) := st.registered.filter (fun s => s.mergedInto.isNone)

def byCluster (clusterId : String) : Option (SessionSpeaker R V) :=
  st.active.find? (fun s => s.clusterId == some clusterId)

def activeSpeakerCount : ℕ := st.active.length

/-- Whether one more speaker fits. -/
def canAdmitSpeaker : Bool := st.activeSpeakerCount < st.config.product.maxSessionSpeakers

def provisionalSpeakers : List (SessionSpeaker R V) :=
  st.active.filter (fun s => s.state == .provisional)

/-- Prototypes a source may be linked to: those of provisional speakers are
left out. -/
def prototypes : List (SpeakerPrototype R V) :=
  (st.active.filter (fun s => s.state != .provisional)).filterMap (fun s => s.prototype)

def provisionalPrototypes : List (SpeakerPrototype R V) :=
  st.provisionalSpeakers.filterMap (fun s => s.prototype)

/-- Prototypes a separated source may be continued with. -/
def linkingPrototypes : List (SpeakerPrototype R V) := st.active.filterMap (fun s => s.prototype)

/-- Speech an embedding must be computed from to build a prototype. -/
def minimumSpeechMs : ℕ := secondsToMs st.config.speakerEmbedding.minimumCleanSpeechSeconds

/-- `can_merge`. -/
def canMerge (sourceId targetId : String) : Except PyError Bool := do
  let source ← st.get sourceId
  let target ← st.get targetId
  if source.sessionSpeakerId = target.sessionSpeakerId then return false
  return target.sessionSpeakerId ∉ source.cannotLink

end Lookup

/-! ## Assignments -/

/-- The state with the record registered under an id rewritten. -/
def assign (st : SessionSpeakerState R V) (id : String)
    (f : SessionSpeaker R V → SessionSpeaker R V) : SessionSpeakerState R V :=
  { st with speakers := Function.update st.speakers id ((st.speakers id).map f) }

/-- Assign to the attributes of the speaker registered under an id. -/
def updateSpeaker (id : String) (f : SessionSpeaker R V → SessionSpeaker R V) :
    Method PyError (SessionSpeakerState R V) Unit := .modify fun st => st.assign id f

/-- The state with one more speaker. -/
def insertSpeaker (st : SessionSpeakerState R V) (speaker : SessionSpeaker R V) :
    SessionSpeakerState R V :=
  { st with
    speakers := Function.update st.speakers speaker.sessionSpeakerId (some speaker)
    order := st.order ++ [speaker.sessionSpeakerId] }

/-- `speaker.machine.transition`. -/
def transition (id : String) (toState : IdentityState) (reason : String) :
    Method PyError (SessionSpeakerState R V) Unit := do
  let st ← .read
  match st.speakers id with
  | none => .throw (.keyError id)
  | some speaker =>
    let machine ← .ofExcept (speaker.machine.transition toState reason)
    updateSpeaker id (fun s => s.withMachine machine)

/-- `pending_label_changes.append`. -/
def recordLabelChange (change : LabelChange) : Method PyError (SessionSpeakerState R V) Unit :=
  .modify fun st => { st with pendingLabelChanges := st.pendingLabelChanges ++ [change] }

/-- `_register`: ids are never reused. -/
def register (speaker : SessionSpeaker R V) : Method PyError (SessionSpeakerState R V) Unit := do
  let st ← .read
  if (st.speakers speaker.sessionSpeakerId).isSome then
    .throw (.sastt .invalidStateTransition "session speaker IDs are never reused (spec 5.7)" [])
  else .modify fun st => st.insertSpeaker speaker

/-! ## Creation -/

/-- What creating a speaker raises when the session is full. -/
def sessionFull (st : SessionSpeakerState R V) : PyError :=
  .sastt .invalidStateTransition ("session already holds "
    ++ toString st.config.product.maxSessionSpeakers ++ " speakers (spec 0.1.1)") []

/-- `create_session_speaker`: a clean cluster enters as anonymous. -/
def createSessionSpeaker (ulid : String) (clusterId label : Option String) :
    Method PyError (SessionSpeakerState R V) (SessionSpeaker R V) := do
  let st ← .read
  if st.config.product.maxSessionSpeakers ≤ st.activeSpeakerCount then
    .throw st.sessionFull
  else
    .modify fun st => { st with labelCounter := st.labelCounter + 1 }
    let machine ← .ofExcept (SpeakerIdentityStateMachine.new .sessionAnonymous)
    let speaker : SessionSpeaker R V := {
      sessionSpeakerId := "sess_spk_" ++ ulid
      machine
      displayLabel := if truthy label then label.getD "" else speakerLabel (st.labelCounter + 1)
      clusterId }
    register speaker
    return speaker

/-- `create_temporary_speaker`: overlap before any clean centroid exists. -/
def createTemporarySpeaker (ulid : String) :
    Method PyError (SessionSpeakerState R V) (SessionSpeaker R V) := do
  let st ← .read
  if !st.canAdmitSpeaker then
    .throw st.sessionFull
  else
    .modify fun st => { st with temporaryCounter := st.temporaryCounter + 1 }
    let machine ← .ofExcept (SpeakerIdentityStateMachine.new .provisional)
    let speaker : SessionSpeaker R V := {
      sessionSpeakerId := "sess_spk_" ++ ulid
      machine
      displayLabel := temporaryLabel (st.temporaryCounter + 1) }
    register speaker
    return speaker

/-- `unattributed_speaker`: the single sink for words no speaker turn
claims, exempt from the bound on speakers. -/
def unattributedSpeaker (ulid : String) :
    Method PyError (SessionSpeakerState R V) (SessionSpeaker R V) := do
  let st ← .read
  match st.unattributedId with
  | some id =>
    match st.speakers id with
    | some speaker => return speaker
    | none => .throw (.keyError id)
  | none =>
    let machine ← .ofExcept (SpeakerIdentityStateMachine.new .provisional)
    let machine ← .ofExcept (machine.transition .unknown "insufficient_evidence")
    let speaker : SessionSpeaker R V := {
      sessionSpeakerId := "sess_spk_" ++ ulid
      machine
      displayLabel := UNATTRIBUTED_LABEL }
    register speaker
    .modify fun st => { st with unattributedId := some speaker.sessionSpeakerId }
    return speaker

/-- `ensure_cluster_speaker`. -/
def ensureClusterSpeaker (ulid clusterId : String) :
    Method PyError (SessionSpeakerState R V) (SessionSpeaker R V) := do
  let st ← .read
  match st.byCluster clusterId with
  | some existing => return existing
  | none => createSessionSpeaker ulid (some clusterId) none

/-! ## Prototypes -/

/-- The end of both update methods: build the first centroid of a speaker,
or keep the one it has in its history and build the next. The history is
extended before the new centroid is computed. -/
def setPrototype (id : String) (embedding : SpeakerEmbedding R V) :
    Method PyError (SessionSpeakerState R V) PrototypeUpdate := do
  let st ← .read
  match st.speakers id with
  | none => .throw (.keyError id)
  | some speaker =>
    match speaker.prototype with
    | none =>
      let prototype ← .ofExcept (SpeakerPrototype.fromEmbedding id embedding)
      updateSpeaker id fun s => { s with prototype := some prototype }
      return ⟨true, "created", some id, some prototype.version⟩
    | some current =>
      updateSpeaker id fun s => { s with prototypeHistory := s.prototypeHistory ++ [current] }
      let prototype ← .ofExcept (current.updatedWith embedding)
      updateSpeaker id fun s => { s with prototype := some prototype }
      return ⟨true, "updated", some id, some prototype.version⟩

/-- The gates of `update_prototype`, in its order: why the embedding is
refused, if it is. -/
def updateGate (st : SessionSpeakerState R V) (speaker : SessionSpeaker R V)
    (embedding : SpeakerEmbedding R V) (linkMargin : Option R) (sourceQualityPassed : Bool) :
    Option String :=
  if embedding.modelVersion ≠ st.embeddingModelVersion then some "embedding_model_mismatch"
  else if embedding.speechDurationMs < st.minimumSpeechMs then some "speech_shorter_than_minimum"
  else if speaker.state = .unknown ∨ speaker.state = .ambiguous then
    some "identity_not_resolved"
  else if embedding.origin = .separated then
    if !st.config.speakerEmbedding.updateFromSeparatedSources then
      some "separated_updates_disabled"
    else if !sourceQualityPassed then some "source_quality_gate"
    else match st.config.sourceLinking.ambiguousMargin, linkMargin with
      | some threshold, some margin =>
        if margin < threshold then some "link_margin_gate" else none
      | _, _ => some "link_margin_gate"
  else none

/-- The gates of `buffer_provisional_embedding`, in its order. -/
def bufferGate (st : SessionSpeakerState R V) (speaker : SessionSpeaker R V)
    (embedding : SpeakerEmbedding R V) : Option String :=
  if speaker.state ≠ .provisional then some "identity_not_resolved"
  else if embedding.modelVersion ≠ st.embeddingModelVersion then some "embedding_model_mismatch"
  else if embedding.speechDurationMs < st.minimumSpeechMs then some "speech_shorter_than_minimum"
  else none

/-- `update_prototype`: the centroid of a speaker, updated when the gates
pass. -/
def updatePrototype (sessionSpeakerId : String) (embedding : SpeakerEmbedding R V)
    (linkMargin : Option R) (sourceQualityPassed : Bool) :
    Method PyError (SessionSpeakerState R V) PrototypeUpdate := do
  let st ← .read
  let speaker ← .ofExcept (st.get sessionSpeakerId)
  match st.updateGate speaker embedding linkMargin sourceQualityPassed with
  | some reason => return ⟨false, reason, some speaker.sessionSpeakerId, none⟩
  | none => setPrototype speaker.sessionSpeakerId embedding

/-- `buffer_provisional_embedding`: a temporary speaker's own evidence. -/
def bufferProvisionalEmbedding (sessionSpeakerId : String) (embedding : SpeakerEmbedding R V) :
    Method PyError (SessionSpeakerState R V) PrototypeUpdate := do
  let st ← .read
  let speaker ← .ofExcept (st.get sessionSpeakerId)
  match st.bufferGate speaker embedding with
  | some reason => return ⟨false, reason, some speaker.sessionSpeakerId, none⟩
  | none => setPrototype speaker.sessionSpeakerId embedding

/-! ## Constraints and merges -/

/-- `add_cannot_link`: two speakers heard at the same time are two
people. -/
def addCannotLink (firstId secondId : String) :
    Method PyError (SessionSpeakerState R V) Unit := do
  let st ← .read
  let first ← .ofExcept (st.get firstId)
  let second ← .ofExcept (st.get secondId)
  if first.sessionSpeakerId = second.sessionSpeakerId then return ()
  else
    updateSpeaker first.sessionSpeakerId fun s =>
      { s with cannotLink := insert second.sessionSpeakerId s.cannotLink }
    updateSpeaker second.sessionSpeakerId fun s =>
      { s with cannotLink := insert first.sessionSpeakerId s.cannotLink }

/-- What merging two speakers raises when the constraints forbid it. -/
def mergeForbidden (source target : SessionSpeaker R V) : PyError :=
  .sastt .invalidStateTransition
    "cannot-link constraint forbids merging these speakers (spec 5.6)"
    [("source", .str source.sessionSpeakerId), ("target", .str target.sessionSpeakerId)]

/-- The transitions a merged speaker makes. -/
def mergeTransitions (source : SessionSpeaker R V) (reason : String) :
    Method PyError (SessionSpeakerState R V) Unit := do
  if source.state = .provisional then
    transition source.sessionSpeakerId .sessionAnonymous reason
    -- the second test of the source finds the state the first one set
    transition source.sessionSpeakerId .merged reason
  else if source.state = .sessionAnonymous then
    transition source.sessionSpeakerId .merged reason
  else return ()

/-- `merge`: fold the source into the target, which stays canonical and
takes over what the source was marked with. -/
def merge (sourceId targetId reason : String) :
    Method PyError (SessionSpeakerState R V) LabelChange := do
  let st ← .read
  let source ← .ofExcept (st.get sourceId)
  let target ← .ofExcept (st.get targetId)
  let allowed ← .ofExcept (st.canMerge source.sessionSpeakerId target.sessionSpeakerId)
  if !allowed then
    .throw (mergeForbidden source target)
  else
    mergeTransitions source reason
    updateSpeaker target.sessionSpeakerId fun t =>
      { t with prototype := t.prototype <|> source.prototype }
    updateSpeaker source.sessionSpeakerId fun s =>
      { s with mergedInto := some target.sessionSpeakerId }
    updateSpeaker target.sessionSpeakerId fun t =>
      { t with cannotLink := t.cannotLink ∪ (source.cannotLink \ {target.sessionSpeakerId}) }
    let change : LabelChange :=
      ⟨source.sessionSpeakerId, source.displayLabel, target.displayLabel, reason⟩
    updateSpeaker source.sessionSpeakerId fun s => { s with displayLabel := target.displayLabel }
    recordLabelChange change
    return change

/-! ## Resolving identities -/

/-- Give a speaker a new label and record the change. -/
def relabel (speaker : SessionSpeaker R V) (newLabel reason : String) :
    Method PyError (SessionSpeakerState R V) LabelChange := do
  let change : LabelChange := ⟨speaker.sessionSpeakerId, speaker.displayLabel, newLabel, reason⟩
  updateSpeaker speaker.sessionSpeakerId fun s => { s with displayLabel := newLabel }
  recordLabelChange change
  return change

/-- `promote_provisional`: a provisional speaker linked to evidence. -/
def promoteProvisional (sessionSpeakerId reason : String) (label : Option String) :
    Method PyError (SessionSpeakerState R V) (Option LabelChange) := do
  let st ← .read
  let speaker ← .ofExcept (st.get sessionSpeakerId)
  if speaker.state ≠ .provisional then return none
  else
    transition speaker.sessionSpeakerId .sessionAnonymous reason
    match label with
    | some label => return some (← relabel speaker label reason)
    | none =>
      .modify fun st => { st with labelCounter := st.labelCounter + 1 }
      return some (← relabel speaker (speakerLabel (st.labelCounter + 1)) reason)

/-- The transition a speaker makes that has been identified. -/
def acceptTransition (speaker : SessionSpeaker R V) :
    Method PyError (SessionSpeakerState R V) Unit :=
  if speaker.state = .provisional ∨ speaker.state = .sessionAnonymous then
    transition speaker.sessionSpeakerId .enrolled "voice_id_accept"
  else if speaker.state = .ambiguous then
    transition speaker.sessionSpeakerId .enrolled "voice_id_reaccept"
  else pure ()

/-- `apply_voice_id`: an enrolled decision names the speaker, an ambiguous
one puts an enrolled speaker in doubt, any other changes nothing. -/
def applyVoiceId (sessionSpeakerId : String) (decision : VoiceIdDecision R) :
    Method PyError (SessionSpeakerState R V) (Option LabelChange) := do
  let st ← .read
  let speaker ← .ofExcept (st.get sessionSpeakerId)
  match decision.status with
  | .enrolled =>
    if !truthy decision.registrySpeakerId || !truthy decision.speakerName then
      .throw (.sastt .invalidStateTransition
        "an enrolled decision requires registry_speaker_id and speaker_name (spec 7)" [])
    else
      acceptTransition speaker
      updateSpeaker speaker.sessionSpeakerId fun s => { s with
        registrySpeakerId := decision.registrySpeakerId
        speakerName := decision.speakerName }
      return some (← relabel speaker (decision.speakerName.getD "") "voice_id_accept")
  | .ambiguous =>
    if speaker.state = .enrolled then
      transition speaker.sessionSpeakerId .ambiguous "voice_id_contradiction"
      return none
    else return none
  | .unknown | .uncalibrated => return none

/-- One turn of the loop of `finalize_unresolved`: what becomes of the
active speaker `id`. -/
def finalizeSpeaker (id : String) :
    Method PyError (SessionSpeakerState R V) (List String) := do
  let st ← .read
  match st.speakers id with
  | none => .throw (.keyError id)
  | some speaker =>
    if speaker.state ≠ .provisional then return []
    else if speaker.prototype.isNone then
      transition id .unknown "insufficient_evidence"
      return [id]
    else if st.config.sourceLinking.isCalibrated then
      let _ ← promoteProvisional id "separated_evidence_final" none
      return []
    else return []

/-- `finalize_unresolved`: a provisional speaker without evidence becomes
unknown, and one with evidence is promoted once linking is calibrated. -/
def finalizeUnresolved : Method PyError (SessionSpeakerState R V) (List String) := do
  let st ← .read
  let unresolved ← .mapEach (st.active.map (fun s => s.sessionSpeakerId)) finalizeSpeaker
  return unresolved.flatten

/-- `drain_label_changes`. -/
def drainLabelChanges : Method PyError (SessionSpeakerState R V) (List LabelChange) := do
  let st ← .read
  .modify fun st => { st with pendingLabelChanges := [] }
  return st.pendingLabelChanges

end SessionSpeakerState

/-- `overlapping_clusters`: the pairs of clusters that are active at the same
time, of the sorted cluster ids. -/
def overlappingClusters (intervals : List (String × List TimeInterval)) :
    List (String × String) :=
  let sorted := intervals.insertionSort (fun a b => a.1 ≤ b.1)
  sorted.tails.flatMap fun
    | [] => []
    | first :: rest =>
      (rest.filter (fun second =>
        first.2.any (fun a => second.2.any (fun b => a.intersects b)))).map
          (fun second => (first.1, second.1))

end Sastt

import Mathlib.Data.List.Nodup
import Sastt.Domain.Speakers
import Sastt.Lib.Noninterference

/-!
# The voice registry in PostgreSQL

`PgVectorVoiceRegistry` keeps the enrolled identities of all tenants in
`voice_identities` and the templates of their voices in `voice_templates`.
`VoiceTables` are the two tables with what their keys promise: an identity is
stored under its id, whoever it belongs to, and a template names an identity
that exists. Each method is a program of transactions. `enroll` is one: the
upsert of the identity, one insert for each accepted clip, and the count, of
which nothing stays when a statement raises. `prototypes_of` is two, on two
connections.

A row of `voice_templates` carries what its embedding had proved, so that it
can be read back as one. What the vector library and the database leave open
is `VoiceDatabase`: the number of dimensions of a vector, the hash of a clip,
and the order in which `ORDER BY score` lists identities of one score.
-/

namespace Sastt

/-! ## The tables -/

/-- **A row of `voice_identities`**, under its primary key. -/
structure VoiceIdentity where
  tenantId : String
  externalId : Option String
  displayName : Option String
  consentRef : String
  deletedAt : Option ℕ := none
deriving DecidableEq, Repr

/-- **A row of `voice_templates`.** -/
structure VoiceTemplate (R V : Type) [Field R] [LinearOrder R] [AddCommGroup V] [Module R V]
    [EmbeddingSpace R V] where
  id : String
  identityId : String
  tenantId : String
  modelReleaseId : String
  vector : V
  quality : R
  speechMs : ℕ
  sourceHash : String
  norm_close : |EmbeddingSpace.norm (R := R) vector - 1| ≤ 1 / 1000
  quality_nonneg : 0 ≤ quality
  quality_le_one : quality ≤ 1

variable {R V : Type} [Field R] [LinearOrder R] [AddCommGroup V] [Module R V] [EmbeddingSpace R V]

instance lawfulBEq_source : LawfulBEq (String × String × String) := inferInstance

/-- The columns of the index `voice_templates_identity_release_source`. -/
def VoiceTemplate.source (t : VoiceTemplate R V) : String × String × String :=
  (t.identityId, t.modelReleaseId, t.sourceHash)

/-- **The two tables.** The primary key of `voice_identities` is the argument
of `identities`. -/
structure VoiceTables (R V : Type) [Field R] [LinearOrder R] [AddCommGroup V] [Module R V]
    [EmbeddingSpace R V] where
  identities : String → Option VoiceIdentity
  templates : List (VoiceTemplate R V)
  /-- The external id is the id. -/
  external : ∀ id row, identities id = some row → row.externalId = some id
  /-- The primary key of `voice_templates`. -/
  ids_nodup : (templates.map VoiceTemplate.id).Nodup
  /-- The foreign key. -/
  references : ∀ t ∈ templates, (identities t.identityId).isSome
  /-- The unique index. -/
  sources_nodup : (templates.map VoiceTemplate.source).Nodup

/-- Nobody is enrolled. -/
def VoiceTables.empty : VoiceTables R V where
  identities _ := none
  templates := []
  external _ _ h := nomatch h
  ids_nodup := List.nodup_nil
  references _ h := nomatch h
  sources_nodup := List.nodup_nil

/-! ## Statements -/

namespace VoiceTables

variable (s : VoiceTables R V)

/-- `WHERE id = … AND tenant_id = …`. -/
def find (tenantId identityId : String) : Option VoiceIdentity :=
  (s.identities identityId).filter (fun row => row.tenantId = tenantId)

/-- `WHERE identity_id = … AND tenant_id = … AND model_release_id = …`. -/
def templatesOf (tenantId identityId modelReleaseId : String) : List (VoiceTemplate R V) :=
  s.templates.filter (fun t => t.identityId = identityId ∧ t.tenantId = tenantId
    ∧ t.modelReleaseId = modelReleaseId)

/-- The identity of the row is replaced by one of the same external id. -/
def setIdentity (identityId : String) (row : VoiceIdentity)
    (hrow : row.externalId = some identityId) : VoiceTables R V :=
  { s with
    identities := Function.update s.identities identityId (some row)
    external := fun id row' h => by
      by_cases hid : id = identityId
      · subst hid
        rw [Function.update_self] at h
        exact Option.some.inj h ▸ hrow
      · rw [Function.update_of_ne hid] at h
        exact s.external id row' h
    references := fun t ht => by
      by_cases hid : t.identityId = identityId
      · rw [hid, Function.update_self]
        rfl
      · rw [Function.update_of_ne hid]
        exact s.references t ht }

/-- `INSERT INTO voice_identities … ON CONFLICT (id) DO UPDATE … WHERE` the
row is of the same tenant. The row of another tenant stays as it is. -/
def upsertIdentity (identityId tenantId displayName consentRef : String) : VoiceTables R V :=
  match h : s.identities identityId with
  | none =>
    s.setIdentity identityId
      { tenantId, externalId := some identityId, displayName := some displayName, consentRef } rfl
  | some row =>
    if row.tenantId = tenantId then
      s.setIdentity identityId { row with displayName := some displayName, consentRef }
        (s.external identityId row h)
    else s

/-- `INSERT INTO voice_templates … ON CONFLICT (identity_id, model_release_id,
source_hash) DO NOTHING`. -/
def insertTemplate (t : VoiceTemplate R V) : Except PyError (VoiceTables R V) :=
  if hsource : t.source ∈ s.templates.map VoiceTemplate.source then .ok s
  else if hid : t.id ∈ s.templates.map VoiceTemplate.id then .error (.other "UniqueViolation")
  else if href : (s.identities t.identityId).isSome then
    .ok { s with
      templates := s.templates ++ [t]
      ids_nodup := by
        rw [List.map_append]
        exact s.ids_nodup.append (List.nodup_singleton _) (List.disjoint_singleton.mpr hid)
      references := fun t' ht' => (List.mem_append.mp ht').elim (s.references t')
        (fun hlast => List.mem_singleton.mp hlast ▸ href)
      sources_nodup := by
        rw [List.map_append]
        exact s.sources_nodup.append (List.nodup_singleton _)
          (List.disjoint_singleton.mpr hsource) }
  else .error (.other "ForeignKeyViolation")

/-- `DELETE FROM voice_identities WHERE id = … AND tenant_id = … RETURNING
id`. The templates of the identity go with it. -/
def deleteIdentity (tenantId identityId : String) : VoiceTables R V × Bool :=
  match s.find tenantId identityId with
  | none => (s, false)
  | some _ =>
    ({ identities := Function.update s.identities identityId none
       templates := s.templates.filter (fun t => t.identityId ≠ identityId)
       external := fun id row h => by
        by_cases hid : id = identityId
        · subst hid
          rw [Function.update_self] at h
          cases h
        · rw [Function.update_of_ne hid] at h
          exact s.external id row h
       ids_nodup := s.ids_nodup.sublist (List.filter_sublist.map _)
       references := fun t ht => by
        have hkept := List.mem_filter.mp ht
        rw [Function.update_of_ne (by simpa using hkept.2)]
        exact s.references t hkept.1
       sources_nodup := s.sources_nodup.sublist (List.filter_sublist.map _) }, true)

end VoiceTables

/-! ## Scoring -/

/-- A row of the scoring query. -/
structure ScoredIdentity (R : Type) where
  identityId : String
  displayName : Option String
  score : R

/-- `GROUP BY i.id, i.display_name` with `MAX(…)`: one row for each identity,
with the best of its scores. -/
def bestScores {R : Type} [LinearOrder R] :
    List (ScoredIdentity R) → List (ScoredIdentity R)
  | [] => []
  | row :: rows =>
    let groups := bestScores rows
    if groups.any (fun g => g.identityId = row.identityId ∧ g.displayName = row.displayName) then
      groups.map (fun g =>
        if g.identityId = row.identityId ∧ g.displayName = row.displayName then
          { g with score := max row.score g.score }
        else g)
    else row :: groups

/-- The cosine of two vectors: `1 - (v <=> w)` of the vector extension. -/
def cosine (v w : V) : R :=
  EmbeddingSpace.dot v w / (EmbeddingSpace.norm (R := R) v * EmbeddingSpace.norm (R := R) w)

/-- The join of a template with its identity, if the identity is not
deleted. -/
def VoiceTables.scoreOf (s : VoiceTables R V) (vector : V) (t : VoiceTemplate R V) :
    Option (ScoredIdentity R) :=
  ((s.identities t.identityId).filter (fun row => row.deletedAt = none)).map (fun row =>
    ⟨t.identityId, row.displayName, cosine t.vector vector⟩)

/-- **What the libraries leave open.** -/
structure VoiceDatabase (R V : Type) [LinearOrder R] where
  dimension : V → ℕ
  /-- The hash of a vector and the duration of its speech. -/
  sourceHash : V → ℕ → String
  /-- `ORDER BY score DESC`. -/
  orderByScore : List (ScoredIdentity R) → List (ScoredIdentity R)
  orderByScore_perm : ∀ rows, (orderByScore rows).Perm rows
  orderByScore_sorted : ∀ rows, (orderByScore rows).Pairwise (fun g g' => g'.score ≤ g.score)

/-- `EMBEDDING_DIMENSION`. -/
def embeddingDimension : ℕ := 192

/-- `_to_vector_literal`: the check it makes. -/
def VoiceDatabase.toVectorLiteral (db : VoiceDatabase R V) (e : SpeakerEmbedding R V) :
    Except PyError V :=
  if db.dimension e.vector ≠ embeddingDimension then
    .error (.valueError
      ("expected 192-dimensional embedding, got " ++ toString (db.dimension e.vector)))
  else .ok e.vector

/-- The query of `identify`: the two best identities of a tenant. -/
def VoiceTables.bestIdentities (db : VoiceDatabase R V) (s : VoiceTables R V) (vector : V)
    (tenantId modelVersion : String) : List (ScoredIdentity R) :=
  (db.orderByScore (bestScores ((s.templates.filter (fun t => t.tenantId = tenantId
    ∧ t.modelReleaseId = modelVersion)).filterMap (s.scoreOf vector)))).take 2

/-! ## Transactions -/

/-- A transaction of the registry. -/
inductive VoiceCommand (R V : Type) [Field R] [LinearOrder R] [AddCommGroup V] [Module R V]
    [EmbeddingSpace R V]
  /-- The one of `enroll`, for clips under the ids drawn for their
  templates. -/
  | enroll (tenantId identityId displayName consentRef modelVersion : String)
      (accepted : List (String × SpeakerEmbedding R V))
  | bestIdentities (vector : V) (tenantId modelVersion : String)
  | deleteIdentity (tenantId identityId : String)
  | identityExists (tenantId identityId : String)
  | templatesOf (tenantId identityId modelVersion : String)

/-- Whose rows a transaction is about. -/
def VoiceCommand.tenantId : VoiceCommand R V → String
  | .enroll tenantId _ _ _ _ _ | .bestIdentities _ tenantId _ | .deleteIdentity tenantId _
  | .identityExists tenantId _ | .templatesOf tenantId _ _ => tenantId

/-- What a transaction replies with. -/
def VoiceReply : VoiceCommand R V → Type
  | .enroll _ _ _ _ _ _ => Except PyError (ℕ × ℕ)
  | .bestIdentities _ _ _ => List (ScoredIdentity R)
  | .deleteIdentity _ _ | .identityExists _ _ => Bool
  | .templatesOf _ _ _ => List (VoiceTemplate R V)

namespace VoiceTables

/-- The row of an accepted clip. -/
def templateRow (db : VoiceDatabase R V) (tenantId identityId id : String)
    (e : SpeakerEmbedding R V) : VoiceTemplate R V where
  id
  identityId
  tenantId
  modelReleaseId := e.modelVersion
  vector := e.vector
  quality := e.quality
  speechMs := e.speechDurationMs
  sourceHash := db.sourceHash e.vector e.speechDurationMs
  norm_close := e.norm_close
  quality_nonneg := e.quality_nonneg
  quality_le_one := e.quality_le_one

/-- One insert of `enroll`. -/
def insertClip (db : VoiceDatabase R V) (tenantId identityId : String) (s : VoiceTables R V)
    (clip : String × SpeakerEmbedding R V) : Except PyError (VoiceTables R V) :=
  match db.toVectorLiteral clip.2 with
  | .error e => .error e
  | .ok _ => s.insertTemplate (templateRow db tenantId identityId clip.1 clip.2)

/-- The inserts of `enroll`, one after another. -/
def insertClips (db : VoiceDatabase R V) (tenantId identityId : String) :
    List (String × SpeakerEmbedding R V) → VoiceTables R V → Except PyError (VoiceTables R V)
  | [], s => .ok s
  | clip :: clips, s =>
    match s.insertClip db tenantId identityId clip with
    | .error e => .error e
    | .ok s => insertClips db tenantId identityId clips s

/-- **One transaction.** One that raises is rolled back. The texts are taken to be
free of NUL characters, which PostgreSQL refuses to store. -/
def execute (db : VoiceDatabase R V) (s : VoiceTables R V) (c : VoiceCommand R V) :
    VoiceTables R V × VoiceReply c :=
  match c with
  | .enroll tenantId identityId displayName consentRef modelVersion accepted =>
    match (s.upsertIdentity identityId tenantId displayName consentRef).insertClips db tenantId
      identityId accepted with
    | .error e => (s, .error e)
    | .ok s' =>
      let stored := s'.templatesOf tenantId identityId modelVersion
      (s', .ok (stored.length, (stored.map VoiceTemplate.speechMs).sum))
  | .bestIdentities vector tenantId modelVersion =>
    (s, s.bestIdentities db vector tenantId modelVersion)
  | .deleteIdentity tenantId identityId => s.deleteIdentity tenantId identityId
  | .identityExists tenantId identityId =>
    (s, ((s.find tenantId identityId).filter (fun row => row.deletedAt = none)).isSome)
  | .templatesOf tenantId identityId modelVersion =>
    (s, s.templatesOf tenantId identityId modelVersion)

end VoiceTables

/-! ## The methods -/

/-- The verdict on one clip of an enrollment. -/
structure EnrollmentClipReport where
  clipIndex : ℕ
  accepted : Bool
  speechDurationMs : ℕ
  reasons : List String := []
deriving DecidableEq, Repr

/-- What an enrollment returns. -/
structure EnrollmentReport where
  identityId : String
  acceptedClips : ℕ
  rejectedClips : ℕ
  totalSpeechMs : ℕ
  prototypeCount : ℕ
  embeddingModelVersion : String
  meetsPolicy : Bool
  clips : List EnrollmentClipReport := []
  reasons : List String := []
deriving DecidableEq, Repr

/-- **The registry**, at a database. -/
structure PgVectorVoiceRegistry (R V : Type) [LinearOrder R] where
  pool : VoiceDatabase R V
  modelVersion : String
  acceptThreshold : Option R := none
  ambiguousMargin : Option R := none
  minimumClips : ℕ := 3
  minimumTotalSpeechMs : ℕ := 15000

/-- A program of transactions. -/
abbrev VoiceProgram (R V α : Type) [Field R] [LinearOrder R] [AddCommGroup V] [Module R V]
    [EmbeddingSpace R V] : Type := Program (VoiceCommand R V) VoiceReply α

namespace PgVectorVoiceRegistry

variable (registry : PgVectorVoiceRegistry R V)

/-- `_clip_reasons`: why a clip is not accepted. -/
def clipReasons (e : SpeakerEmbedding R V) : List String :=
  (if e.modelVersion ≠ registry.modelVersion then ["embedding_model_mismatch"] else [])
    ++ (if e.speechDurationMs < 3000 then ["clip_shorter_than_3s"] else [])
    ++ (if 15000 < e.speechDurationMs then ["clip_longer_than_15s"] else [])
    ++ (if e.origin = .separated then ["separated_source_not_allowed"] else [])

/-- `enroll`, where `newIds` are the ids it draws. -/
def enroll (tenantId identityId : String) (embeddings : List (SpeakerEmbedding R V))
    (displayName consentRef : Option String) (newIds : ℕ → String) :
    VoiceProgram R V (Except PyError EnrollmentReport) := do
  let clips := embeddings.zipIdx.map (fun clip =>
    { clipIndex := clip.2
      accepted := (registry.clipReasons clip.1).isEmpty
      speechDurationMs := clip.1.speechDurationMs
      reasons := registry.clipReasons clip.1 : EnrollmentClipReport })
  let accepted := embeddings.filter (fun e => (registry.clipReasons e).isEmpty)
  let reply ← .issue (VoiceCommand.enroll tenantId identityId (orDefault displayName identityId)
    (orDefault consentRef "unspecified") registry.modelVersion
    (accepted.zipIdx.map (fun clip => (newIds clip.2, clip.1))))
  match (reply : Except PyError (ℕ × ℕ)) with
  | .error e => return .error e
  | .ok (prototypeCount, totalSpeech) =>
    let reasons :=
      (if prototypeCount < registry.minimumClips then ["fewer_than_minimum_clips"] else [])
        ++ (if totalSpeech < registry.minimumTotalSpeechMs then ["insufficient_total_speech"]
          else [])
    return .ok {
      identityId
      acceptedClips := accepted.length
      rejectedClips := embeddings.length - accepted.length
      totalSpeechMs := totalSpeech
      prototypeCount
      embeddingModelVersion := registry.modelVersion
      meetsPolicy := reasons.isEmpty
      clips, reasons }

/-- What `identify` makes of the two best identities. -/
def decision (accept margin : R) : List (ScoredIdentity R) → VoiceIdDecision R
  | [] => { status := .unknown, reason := "empty_registry" }
  | best :: rest =>
    let gap := rest.head?.map (fun second => best.score - second.score)
    if best.score < accept then
      { status := .unknown, bestScore := some best.score, margin := gap, reason := "below_accept" }
    else if gap.any (· < margin) then
      { status := .ambiguous, bestScore := some best.score, margin := gap, reason := "low_margin" }
    else
      { status := .enrolled
        registrySpeakerId := some best.identityId
        speakerName := best.displayName
        bestScore := some best.score
        margin := gap
        reason := "accept" }

/-- `identify`. -/
def identify (tenantId : String) (e : SpeakerEmbedding R V) :
    VoiceProgram R V (Except PyError (VoiceIdDecision R)) :=
  match registry.acceptThreshold, registry.ambiguousMargin with
  | some accept, some margin =>
    if e.modelVersion ≠ registry.modelVersion then
      return .ok { status := .unknown, reason := "embedding_model_mismatch" }
    else
      match registry.pool.toVectorLiteral e with
      | .error err => return .error err
      | .ok vector => do
        let rows ← .issue (VoiceCommand.bestIdentities vector tenantId registry.modelVersion)
        return .ok (decision accept margin (rows : List (ScoredIdentity R)))
  | _, _ => return .ok { status := .uncalibrated, reason := "thresholds_null" }

/-- `delete_identity`. -/
def deleteIdentity (tenantId identityId : String) : VoiceProgram R V Bool :=
  .issue (VoiceCommand.deleteIdentity tenantId identityId)

/-- `identity_exists`. -/
def identityExists (tenantId identityId : String) : VoiceProgram R V Bool :=
  .issue (VoiceCommand.identityExists tenantId identityId)

/-- The embedding a stored template is read back as. -/
def storedEmbedding (t : VoiceTemplate R V) : SpeakerEmbedding R V where
  vector := t.vector
  modelVersion := registry.modelVersion
  quality := t.quality
  speechDurationMs := t.speechMs
  origin := .clean
  norm_close := t.norm_close
  quality_nonneg := t.quality_nonneg
  quality_le_one := t.quality_le_one

/-- `prototypes_of`. -/
def prototypesOf (tenantId identityId : String) :
    VoiceProgram R V (Except PyError (List (SpeakerPrototype R V))) := do
  match ← identityExists tenantId identityId with
  | false =>
    return .error (.sastt .tenantAccessDenied
      ("identity " ++ pyRepr identityId ++ " is not visible to this tenant")
      [("identity_id", .str identityId)])
  | true =>
    let rows ← .issue (VoiceCommand.templatesOf tenantId identityId registry.modelVersion)
    return (rows : List (VoiceTemplate R V)).mapM (fun t =>
      SpeakerPrototype.fromEmbedding identityId (registry.storedEmbedding t))

end PgVectorVoiceRegistry

/-! ## Calls -/

/-- A client of the registry, at work for a tenant. -/
structure VoiceClient where
  tenantId : String
  client : ℕ := 0
deriving DecidableEq, Repr

/-- A call of the registry. -/
inductive VoiceCall (R V : Type) [Field R] [LinearOrder R] [AddCommGroup V] [Module R V]
    [EmbeddingSpace R V]
  | enroll (identityId : String) (embeddings : List (SpeakerEmbedding R V))
      (displayName consentRef : Option String) (newIds : ℕ → String)
  | identify (e : SpeakerEmbedding R V)
  | deleteIdentity (identityId : String)
  | identityExists (identityId : String)
  | prototypesOf (identityId : String)

/-- What a call returns or raises. -/
inductive VoiceResult (R V : Type)
  | report (report : Except PyError EnrollmentReport)
  | decision (decision : Except PyError (VoiceIdDecision R))
  | deleted (deleted : Bool)
  | existence (exists_ : Bool)
  | prototypes (prototypes : Except PyError (List (SpeakerPrototype R V)))

/-- The program of a call of a client. -/
def PgVectorVoiceRegistry.program (registry : PgVectorVoiceRegistry R V) (c : VoiceClient) :
    VoiceCall R V → VoiceProgram R V (VoiceResult R V)
  | .enroll identityId embeddings displayName consentRef newIds =>
    .report <$> registry.enroll c.tenantId identityId embeddings displayName consentRef newIds
  | .identify e => .decision <$> registry.identify c.tenantId e
  | .deleteIdentity identityId => .deleted <$> deleteIdentity c.tenantId identityId
  | .identityExists identityId => .existence <$> identityExists c.tenantId identityId
  | .prototypesOf identityId => .prototypes <$> registry.prototypesOf c.tenantId identityId

/-- The tables and the calls under way at them. -/
abbrev VoiceSystem (R V : Type) [Field R] [LinearOrder R] [AddCommGroup V] [Module R V]
    [EmbeddingSpace R V] : Type :=
  CallSystem VoiceClient (VoiceCommand R V) VoiceReply (VoiceTables R V) (VoiceResult R V)

/-- A turn of a client of the registry. -/
abbrev VoiceTurn (R V : Type) [Field R] [LinearOrder R] [AddCommGroup V] [Module R V]
    [EmbeddingSpace R V] : Type :=
  Turn VoiceClient (VoiceCall R V)

namespace PgVectorVoiceRegistry

variable (registry : PgVectorVoiceRegistry R V)

/-- One turn. -/
def step (s : VoiceSystem R V) (e : VoiceTurn R V) : VoiceSystem R V :=
  s.step (VoiceTables.execute registry.pool) registry.program e

/-- What a turn returns. -/
def result (s : VoiceSystem R V) (e : VoiceTurn R V) : Option (VoiceResult R V) :=
  s.result (VoiceTables.execute registry.pool) registry.program e

/-- **What the clients of a tenant are answered** over a run from empty
tables. -/
def results (tenantId : String) (turns : List (VoiceTurn R V)) :
    List (VoiceTurn R V × Option (VoiceResult R V)) :=
  (trace registry.step registry.result ⟨VoiceTables.empty, fun _ => none⟩ turns).filter
    (fun a => a.1.caller.tenantId = tenantId)

end PgVectorVoiceRegistry

end Sastt

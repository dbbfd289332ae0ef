import Sastt.Adapters.OpenSet

/-!
# Who can be identified

An enrollment is reported on: how many clips of the identity there are by now,
how much speech, and whether that is what the policy asks for. Identification
reads what is stored, and the report is not stored. So the policy does not
decide who is a candidate; having a clip does. An identity is identified only
if a call that enrolled it accepted a clip and it was not deleted since
(`identified_accepted`), in both registries.

What the report counts is what is stored. In PostgreSQL that is the rows. In
memory the speech is counted apart, after the prototypes have been made, so a
clip without quality, on which that raises, leaves prototypes whose speech is
never counted; otherwise the entry has one prototype for each accepted clip, and
their speech (`Accounts`).
-/

namespace Sastt

variable {R V : Type} [Field R] [LinearOrder R] [AddCommGroup V] [Module R V] [EmbeddingSpace R V]

/-! ## Accepted since -/

/-- The call deletes the identity. -/
def VoiceCall.Deletes (identityId : String) : VoiceCall R V → Prop
  | .deleteIdentity id => id = identityId
  | _ => False

/-- The call enrolls the identity, with a clip nothing is held against. -/
def VoiceCall.Accepts (reasons : SpeakerEmbedding R V → List String) (identityId : String) :
    VoiceCall R V → Prop
  | .enroll id embeddings _ _ _ =>
    id = identityId ∧ ∃ e ∈ embeddings, (reasons e).isEmpty = true
  | _ => False

/-- **A clip of the identity was accepted, and the identity not deleted since.** -/
def AcceptedSince (reasons : SpeakerEmbedding R V → List String) (identityId : String)
    (calls : List (VoiceCall R V)) : Prop :=
  ∃ before e after, calls = before ++ e :: after ∧ e.Accepts reasons identityId
    ∧ ∀ c ∈ after, ¬ c.Deletes identityId

variable {reasons : SpeakerEmbedding R V → List String} {identityId : String}
  {calls : List (VoiceCall R V)} {e : VoiceCall R V}

/-- The clips accepted of the identity, after one more call. -/
def VoiceCall.clipsAfter (reasons : SpeakerEmbedding R V → List String) (identityId : String)
    (clips : List (SpeakerEmbedding R V)) : VoiceCall R V → List (SpeakerEmbedding R V)
  | .enroll id embeddings _ _ _ =>
    if id = identityId then clips ++ embeddings.filter (fun e => (reasons e).isEmpty) else clips
  | .deleteIdentity id => if id = identityId then [] else clips
  | _ => clips

/-- **The clips accepted of the identity** since it was last deleted. -/
def clipsSince (reasons : SpeakerEmbedding R V → List String) (identityId : String)
    (calls : List (VoiceCall R V)) : List (SpeakerEmbedding R V) :=
  calls.foldl (VoiceCall.clipsAfter reasons identityId) []

/-- Every clip of the call has a quality. -/
def VoiceCall.HasQuality : VoiceCall R V → Prop
  | .enroll _ embeddings _ _ _ => ∀ e ∈ embeddings, 0 < e.quality
  | _ => True

theorem AcceptedSince.append (h : AcceptedSince reasons identityId calls)
    (he : ¬ e.Deletes identityId) : AcceptedSince reasons identityId (calls ++ [e]) := by
  obtain ⟨before, accepted, after, rfl, haccepts, hafter⟩ := h
  refine ⟨before, accepted, after ++ [e], by simp, haccepts, fun c hc => ?_⟩
  rcases List.mem_append.mp hc with hc | hc
  · exact hafter c hc
  · exact List.mem_singleton.mp hc ▸ he

theorem acceptedSince_last (he : e.Accepts reasons identityId) :
    AcceptedSince reasons identityId (calls ++ [e]) :=
  ⟨calls, e, [], rfl, he, fun _ hc => absurd hc List.not_mem_nil⟩

theorem acceptedSince_of_clips (h : clipsSince reasons identityId calls ≠ []) :
    AcceptedSince reasons identityId calls := by
  induction calls using List.reverseRecOn with
  | nil => exact absurd rfl h
  | append_singleton calls e ih =>
    have hlast : clipsSince reasons identityId (calls ++ [e])
        = e.clipsAfter reasons identityId (clipsSince reasons identityId calls) :=
      List.foldl_append
    rw [hlast] at h
    cases e with
    | enroll id embeddings displayName consentRef newIds =>
      unfold VoiceCall.clipsAfter at h
      dsimp only at h
      split_ifs at h with hid
      · by_cases hnew : ∃ e ∈ embeddings, (reasons e).isEmpty = true
        · exact acceptedSince_last ⟨hid, hnew⟩
        · have hnil : embeddings.filter (fun e => (reasons e).isEmpty) = [] :=
            List.filter_eq_nil_iff.mpr (fun e he hok => hnew ⟨e, he, hok⟩)
          rw [hnil, List.append_nil] at h
          exact (ih h).append (fun hdeletes => hdeletes)
      · exact (ih h).append (fun hdeletes => hdeletes)
    | deleteIdentity id =>
      unfold VoiceCall.clipsAfter at h
      dsimp only at h
      split_ifs at h with hid
      · exact absurd rfl h
      · exact (ih h).append hid
    | identify e => exact (ih h).append (fun hdeletes => hdeletes)
    | identityExists id => exact (ih h).append (fun hdeletes => hdeletes)
    | prototypesOf id => exact (ih h).append (fun hdeletes => hdeletes)

/-- **Who the decision names was accepted**, if it names somebody. -/
def VoiceIdDecision.NamesAccepted (reasons : SpeakerEmbedding R V → List String)
    (calls : List (VoiceCall R V)) (d : VoiceIdDecision R) : Prop :=
  d.status = .enrolled → ∃ identityId, d.registrySpeakerId = some identityId
    ∧ AcceptedSince reasons identityId calls

/-- A decision that enrolls names one of the identities that were scored. -/
theorem PgVectorVoiceRegistry.enrolled_decision {accept margin : R}
    {rows : List (ScoredIdentity R)} (h : (decision accept margin rows).status = .enrolled) :
    ∃ row ∈ rows, (decision accept margin rows).registrySpeakerId = some row.identityId := by
  cases rows with
  | nil => cases h
  | cons best rest =>
    unfold decision at h ⊢
    dsimp only at h ⊢
    split at h
    · cases h
    · next haccept =>
      split at h
      · cases h
      · next hmargin =>
        rw [if_neg haccept, if_neg hmargin]
        exact ⟨best, List.mem_cons_self, rfl⟩

/-- The report gives no reason exactly if the minima are reached. -/
theorem isEmpty_reasons {minimumClips prototypeCount minimumTotalSpeechMs totalSpeech : ℕ} :
    ((if prototypeCount < minimumClips then ["fewer_than_minimum_clips"] else [])
        ++ (if totalSpeech < minimumTotalSpeechMs then ["insufficient_total_speech"]
          else [])).isEmpty = true
      ↔ minimumClips ≤ prototypeCount ∧ minimumTotalSpeechMs ≤ totalSpeech := by
  rw [List.isEmpty_iff, List.append_eq_nil_iff, ← not_lt, ← not_lt]
  refine and_congr ?_ ?_
  · split <;> simp_all
  · split <;> simp_all

/-! ## The registry in memory -/

namespace FakeVoiceRegistry

variable (registry : FakeVoiceRegistry R) (tenantId : String)

/-- The entries after some calls of a tenant. -/
def after (calls : List (VoiceCall R V)) : RegistryEntries R V :=
  calls.foldl (fun tenants e => (registry.call ⟨tenantId, 0⟩ tenants e).2) (fun _ => [])

variable {registry tenantId} {tenants : RegistryEntries R V}

theorem after_eq_history (calls : List (VoiceCall R V)) :
    registry.after tenantId calls = registry.history (calls.map (fun e => (tenantId, e))) := by
  unfold after history
  rw [List.foldl_map]

/-- **An entry accounts for clips**: it has no prototypes but theirs, and if they all have a
quality, one of each and their speech. -/
structure Accounts (quality : Prop) (clips : List (SpeakerEmbedding R V))
    (found : Option (RegistryEntry R V)) : Prop where
  prototypes_le : ∀ entry ∈ found, entry.prototypes.length ≤ clips.length
  prototypes : quality → (found.elim 0 fun entry => entry.prototypes.length) = clips.length
  speech : quality → found.elim 0 RegistryEntry.acceptedSpeechMs
    = (clips.map SpeakerEmbedding.speechDurationMs).sum

/-- Fewer clips may have a quality. -/
theorem Accounts.imp {quality quality' : Prop} {clips : List (SpeakerEmbedding R V)}
    {found : Option (RegistryEntry R V)} (hq : quality' → quality)
    (h : Accounts quality clips found) : Accounts quality' clips found :=
  ⟨h.prototypes_le, fun h' => h.prototypes (hq h'), fun h' => h.speech (hq h')⟩

section Counting

variable [IsStrictOrderedRing R]

/-- The loop of `enroll` appends a prototype of each clip, until one has no quality. -/
theorem addPrototypes_spec (accepted : List (SpeakerEmbedding R V)) (entry : RegistryEntry R V) :
    (addPrototypes accepted entry).2.prototypes.length
        ≤ entry.prototypes.length + accepted.length
      ∧ (addPrototypes accepted entry).2.acceptedSpeechMs = entry.acceptedSpeechMs
      ∧ ((∀ e ∈ accepted, 0 < e.quality) → (addPrototypes accepted entry).1 = .ok ()
        ∧ (addPrototypes accepted entry).2.prototypes.length
          = entry.prototypes.length + accepted.length) := by
  induction accepted generalizing entry with
  | nil => exact ⟨le_rfl, rfl, fun _ => ⟨rfl, rfl⟩⟩
  | cons e accepted ih =>
    rw [addPrototypes]
    cases hfirst : SpeakerPrototype.fromEmbedding entry.identityId e with
    | error err =>
      refine ⟨Nat.le_add_right _ _, rfl, fun hquality => ?_⟩
      have hpos := hquality e List.mem_cons_self
      unfold SpeakerPrototype.fromEmbedding at hfirst
      rw [l2Normalize_of_ne_zero (smul_ne_zero hpos.ne' e.vector_ne_zero)] at hfirst
      cases hfirst
    | ok prototype =>
      obtain ⟨hle, hspeech, hok⟩ :=
        ih { entry with prototypes := entry.prototypes ++ [prototype] }
      rw [List.length_append, List.length_singleton] at hle hok
      rw [List.length_cons]
      refine ⟨hle.trans (by omega), hspeech, fun hquality => ?_⟩
      obtain ⟨hreturns, hlength⟩ := hok (fun e he => hquality e (List.mem_cons_of_mem _ he))
      exact ⟨hreturns, hlength.trans (by omega)⟩

/-- **`enroll` accounts for the clips that it accepts**, too. -/
theorem Accounts.enrolledEntry {quality : Prop} {clips : List (SpeakerEmbedding R V)}
    {found : Option (RegistryEntry R V)} (h : Accounts quality clips found)
    (identityId : String) {embeddings : List (SpeakerEmbedding R V)}
    (hquality : quality → ∀ e ∈ embeddings, 0 < e.quality)
    (displayName consentRef : Option String) :
    Accounts quality (clips ++ embeddings.filter (fun e => (registry.clipReasons e).isEmpty))
      (some (registry.enrolledEntry identityId embeddings displayName consentRef found)) := by
  set accepted := embeddings.filter (fun e => (registry.clipReasons e).isEmpty)
  unfold FakeVoiceRegistry.enrolledEntry
  set start := found.getD { identityId, displayName := orDefault displayName identityId }
  have hle₀ : start.prototypes.length ≤ clips.length := by
    cases found with
    | none => exact Nat.zero_le _
    | some entry => exact h.prototypes_le entry rfl
  have hcount₀ : quality → start.prototypes.length = clips.length
      ∧ start.acceptedSpeechMs = (clips.map SpeakerEmbedding.speechDurationMs).sum := by
    intro hq
    have hcount := h.prototypes hq
    have hspeech := h.speech hq
    cases found with
    | none => exact ⟨hcount, hspeech⟩
    | some entry => exact ⟨hcount, hspeech⟩
  obtain ⟨hle, hspeech, hok⟩ := addPrototypes_spec accepted { start with
    consentRef := if orDefault consentRef "" = "" then start.consentRef else consentRef
    displayName := orDefault displayName start.displayName }
  have hreturns := fun hq => hok (fun e he => hquality hq e (List.mem_filter.mp he).1)
  dsimp only at hle hspeech hreturns ⊢
  refine ⟨?_, fun hq => ?_, fun hq => ?_⟩
  · rw [List.length_append]
    split
    · rintro _ ⟨⟩
      exact hle.trans (Nat.add_le_add_right hle₀ _)
    · rintro _ ⟨⟩
      exact hle.trans (Nat.add_le_add_right hle₀ _)
  · rw [(hreturns hq).1, List.length_append, ← (hcount₀ hq).1]
    exact (hreturns hq).2
  · rw [(hreturns hq).1, List.map_append, List.sum_append, ← (hcount₀ hq).2]
    exact congrArg (· + _) hspeech

variable (registry tenantId) in
/-- **The entry of an identity accounts for the clips accepted of it.** -/
theorem accounts_after (calls : List (VoiceCall R V)) (identityId : String) :
    Accounts (∀ e ∈ calls, e.HasQuality) (clipsSince registry.clipReasons identityId calls)
      ((registry.after tenantId calls tenantId).find? (fun e => e.identityId = identityId)) := by
  induction calls using List.reverseRecOn with
  | nil => exact ⟨nofun, fun _ => rfl, fun _ => rfl⟩
  | append_singleton calls e ih =>
    have hafter : registry.after tenantId (calls ++ [e])
        = (registry.call ⟨tenantId, 0⟩ (registry.after tenantId calls) e).2 := List.foldl_append
    have hclips : clipsSince registry.clipReasons identityId (calls ++ [e])
        = e.clipsAfter registry.clipReasons identityId
          (clipsSince registry.clipReasons identityId calls) := List.foldl_append
    have hbefore : (∀ c ∈ calls ++ [e], c.HasQuality) → ∀ c ∈ calls, c.HasQuality :=
      fun hq c hc => hq c (List.mem_append_left _ hc)
    have hlast : (∀ c ∈ calls ++ [e], c.HasQuality) → e.HasQuality :=
      fun hq => hq e (List.mem_append_right _ List.mem_cons_self)
    replace ih := Accounts.imp hbefore ih
    rw [hafter, hclips, find?_call (tenantId, e)]
    cases e with
    | enroll id embeddings displayName consentRef newIds =>
      unfold VoiceCall.clipsAfter
      dsimp only
      by_cases hid : id = identityId
      · subst hid
        rw [if_pos rfl, if_pos ⟨rfl, rfl⟩]
        exact ih.enrolledEntry _ hlast displayName consentRef
      · rw [if_neg hid, if_neg (fun h => hid (Option.some.inj h.2))]
        exact ih
    | deleteIdentity id =>
      unfold VoiceCall.clipsAfter
      dsimp only
      by_cases hid : id = identityId
      · subst hid
        rw [if_pos rfl, if_pos ⟨rfl, rfl⟩]
        exact ⟨nofun, fun _ => rfl, fun _ => rfl⟩
      · rw [if_neg hid, if_neg (fun h => hid (Option.some.inj h.2))]
        exact ih
    | _ =>
      rw [if_neg (fun h => nomatch h.2)]
      exact ih

end Counting

/-- An entry with a score has a prototype. -/
theorem scoreOf_some {e : SpeakerEmbedding R V} {entry : RegistryEntry R V}
    {a : R × RegistryEntry R V} (h : scoreOf e entry = .ok (some a)) :
    a.2 = entry ∧ entry.prototypes ≠ [] := by
  unfold scoreOf at h
  cases hsimilarities : entry.prototypes.mapM (fun p => p.similarity e) with
  | error err =>
    rw [hsimilarities] at h
    cases h
  | ok similarities =>
    rw [hsimilarities] at h
    obtain ⟨score, hscore, rfl⟩ := Option.map_eq_some_iff.mp (Except.ok.inj h)
    refine ⟨rfl, fun hnil => ?_⟩
    rw [hnil] at hsimilarities
    cases hsimilarities
    cases hscore

/-- Who is named has an entry with a prototype. -/
theorem identified_entry {e : SpeakerEmbedding R V} {d : VoiceIdDecision R}
    (h : registry.identify tenantId e tenants = .ok d) (henrolled : d.status = .enrolled) :
    ∃ entry ∈ tenants tenantId, d.registrySpeakerId = some entry.identityId
      ∧ entry.prototypes ≠ [] := by
  unfold identify at h
  split at h
  · next accept margin _ _ =>
    split at h
    · cases h
      cases henrolled
    · cases hscores : (tenants tenantId).mapM (scoreOf e) with
      | error err =>
        rw [hscores] at h
        cases h
      | ok scores =>
        rw [hscores] at h
        cases h
        rw [decision_eq] at henrolled ⊢
        obtain ⟨row, hrow, hid⟩ := PgVectorVoiceRegistry.enrolled_decision henrolled
        obtain ⟨a, ha, rfl⟩ := List.mem_map.mp hrow
        have hmem := (List.perm_insertionSort _ _).mem_iff.mp ha
        obtain ⟨score, hscore, rfl⟩ := List.mem_filterMap.mp hmem
        obtain ⟨entry, hentry, hof⟩ := Method.mem_of_mapM hscores hscore
        obtain ⟨rfl, hne⟩ := scoreOf_some hof
        exact ⟨a.2, hentry, hid, hne⟩
  · cases h
    cases henrolled

theorem identify_namesAccepted [IsStrictOrderedRing R] {calls : List (VoiceCall R V)}
    {e : SpeakerEmbedding R V} {d : VoiceIdDecision R}
    (h : registry.identify tenantId e (registry.after tenantId calls) = .ok d) :
    d.NamesAccepted registry.clipReasons calls := by
  intro henrolled
  obtain ⟨entry, hentry, hid, hne⟩ := identified_entry h henrolled
  refine ⟨entry.identityId, hid, acceptedSince_of_clips (fun hnil => hne ?_)⟩
  have hfind : (registry.after tenantId calls tenantId).find?
      (fun e => e.identityId = entry.identityId) = some entry := by
    rw [after_eq_history] at hentry ⊢
    rw [find?_history]
    exact mem_history_iff.mp hentry
  have hle := (accounts_after registry tenantId calls entry.identityId).prototypes_le entry hfind
  rw [hnil, List.length_nil, Nat.le_zero] at hle
  exact List.eq_nil_of_length_eq_zero hle

/-- **What `enroll` reports of the policy** is what the entry then has. -/
theorem enroll_meetsPolicy {identityId : String} {embeddings : List (SpeakerEmbedding R V)}
    {displayName consentRef : Option String} {r : EnrollmentReport}
    (h : (registry.enroll tenantId identityId embeddings displayName consentRef tenants).1
      = .ok r) (found : Option (RegistryEntry R V))
    (hfound : (tenants tenantId).find? (fun e => e.identityId = identityId) = found) :
    r.meetsPolicy = true
      ↔ registry.minimumClips ≤ (registry.enrolledEntry identityId embeddings displayName
          consentRef found).prototypes.length
        ∧ registry.minimumTotalSpeechMs ≤ (registry.enrolledEntry identityId embeddings displayName
          consentRef found).acceptedSpeechMs := by
  subst hfound
  unfold enroll at h
  unfold enrolledEntry
  dsimp only at h ⊢
  split at h
  · cases h
  · next hadd =>
    cases h
    rw [hadd]
    exact isEmpty_reasons

end FakeVoiceRegistry

/-! ## The registry in PostgreSQL -/

namespace PgVectorVoiceRegistry

variable (registry : PgVectorVoiceRegistry R V) (tenantId : String)

/-- The tables after some calls of a tenant. -/
def after (calls : List (VoiceCall R V)) : VoiceTables R V :=
  calls.foldl (fun s e => registry.call s (⟨tenantId, 0⟩, e)) VoiceTables.empty

/-- **Every row is the tenant's**, and every template of an identity with an accepted
clip. -/
structure Backed (calls : List (VoiceCall R V)) (s : VoiceTables R V) : Prop where
  owned : ∀ id row, s.identities id = some row → row.tenantId = tenantId
  accepted : ∀ x ∈ s.templates, AcceptedSince registry.clipReasons x.identityId calls

variable {registry tenantId} {s s' : VoiceTables R V}

/-- The inserts of `enroll` leave the identities. -/
theorem insertClips_identities {db : VoiceDatabase R V} {identityId : String}
    {clips : List (String × SpeakerEmbedding R V)}
    (h : s.insertClips db tenantId identityId clips = .ok s') : s'.identities = s.identities := by
  induction clips generalizing s with
  | nil =>
    cases h
    rfl
  | cons clip clips ih =>
    unfold VoiceTables.insertClips VoiceTables.insertClip at h
    cases hliteral : db.toVectorLiteral clip.2 with
    | error e =>
      rw [hliteral] at h
      cases h
    | ok vector =>
      rw [hliteral] at h
      dsimp only at h
      unfold VoiceTables.insertTemplate at h
      split_ifs at h
      · rw [ih h]
      · rw [ih h]

theorem Backed.call (h : registry.Backed tenantId calls s) (e : VoiceCall R V) :
    registry.Backed tenantId (calls ++ [e]) (registry.call s (⟨tenantId, 0⟩, e)) := by
  have hsame : (∀ id, ¬ e.Deletes id) → registry.Backed tenantId (calls ++ [e]) s :=
    fun hkeep => ⟨h.owned, fun x hx => (h.accepted x hx).append (hkeep _)⟩
  cases e with
  | enroll identityId embeddings displayName consentRef newIds =>
    rw [call_enroll]
    unfold VoiceTables.execute
    dsimp only
    split
    · exact hsame (fun _ hdeletes => hdeletes)
    · next s' hclips =>
      constructor
      · intro id row hrow
        rw [insertClips_identities hclips, VoiceTables.upsertIdentity_identities] at hrow
        by_cases hid : id = identityId
        · subst hid
          rw [Function.update_self] at hrow
          cases hrow
          unfold VoiceTables.upsertedRow
          split
          · rfl
          · next row hfound =>
            have howned := h.owned _ row hfound
            rw [if_pos howned]
            exact howned
        · rw [Function.update_of_ne hid] at hrow
          exact h.owned id row hrow
      · intro x hx
        cases haccepted : registry.acceptedClips embeddings newIds with
        | nil =>
          rw [haccepted] at hclips
          cases hclips
          rw [VoiceTables.upsertIdentity_templates] at hx
          exact (h.accepted x hx).append (fun hdeletes => hdeletes)
        | cons clip clips =>
          cases VoiceTables.mem_insertClips hclips hx with
          | inl hold =>
            rw [VoiceTables.upsertIdentity_templates] at hold
            exact (h.accepted x hold).append (fun hdeletes => hdeletes)
          | inr hnew =>
            refine acceptedSince_last ⟨hnew.2.symm, ?_⟩
            have hclip : clip ∈ registry.acceptedClips embeddings newIds :=
              haccepted ▸ List.mem_cons_self
            obtain ⟨e, he, -⟩ := List.mem_map.mp hclip
            obtain ⟨hmem, hok⟩ := List.mem_filter.mp (List.fst_mem_of_mem_zipIdx he)
            exact ⟨e.1, hmem, hok⟩
  | deleteIdentity identityId =>
    rw [call_deleteIdentity]
    rcases s.deleteIdentity_cases tenantId identityId
      with ⟨hnone, hdelete⟩ | ⟨row, s', -, -, hdelete, hidentities, htemplates⟩
    · rw [hdelete]
      refine ⟨h.owned, fun x hx => (h.accepted x hx).append (fun hdeletes => ?_)⟩
      obtain ⟨row, hrow⟩ := Option.isSome_iff_exists.mp (s.references x hx)
      have hid : identityId = x.identityId := hdeletes
      have hfind := Option.filter_eq_none_iff.mp hnone row (hid ▸ hrow)
      simp [h.owned _ row hrow] at hfind
    · rw [hdelete]
      constructor
      · intro id row' hrow'
        rw [hidentities] at hrow'
        by_cases hid : id = identityId
        · subst hid
          rw [Function.update_self] at hrow'
          cases hrow'
        · rw [Function.update_of_ne hid] at hrow'
          exact h.owned id row' hrow'
      · intro x hx
        rw [htemplates] at hx
        obtain ⟨hold, hother⟩ := List.mem_filter.mp hx
        exact (h.accepted x hold).append
          (fun hdeletes => of_decide_eq_true hother hdeletes.symm)
  | identify e =>
    rw [show registry.call s (⟨tenantId, 0⟩, .identify e) = s by
      unfold PgVectorVoiceRegistry.call program
      dsimp only
      rw [Program.alone_map, alone_identify]]
    exact hsame (fun _ hdeletes => hdeletes)
  | identityExists identityId => exact hsame (fun _ hdeletes => hdeletes)
  | prototypesOf identityId =>
    rw [show registry.call s (⟨tenantId, 0⟩, .prototypesOf identityId) = s by
      unfold PgVectorVoiceRegistry.call program
      dsimp only
      rw [Program.alone_map, alone_prototypesOf]]
    exact hsame (fun _ hdeletes => hdeletes)

theorem backed_after (calls : List (VoiceCall R V)) :
    registry.Backed tenantId calls (registry.after tenantId calls) := by
  induction calls using List.reverseRecOn with
  | nil => exact ⟨fun _ _ h => (nomatch h), fun _ hx => absurd hx List.not_mem_nil⟩
  | append_singleton calls e ih =>
    unfold after
    rw [List.foldl_append]
    exact ih.call e

theorem identify_namesAccepted {e : SpeakerEmbedding R V} {d : VoiceIdDecision R}
    (h : registry.identified (registry.after tenantId calls) tenantId e = .ok d) :
    d.NamesAccepted registry.clipReasons calls := by
  intro henrolled
  unfold identified identify at h
  split at h
  · next accept margin _ _ =>
    split at h
    · cases h
      cases henrolled
    · split at h
      · cases h
      · cases h
        obtain ⟨row, hrow, hid⟩ := enrolled_decision henrolled
        obtain ⟨x, hx, -, hxid⟩ := VoiceTables.mem_bestIdentities hrow
        exact ⟨row.identityId, hid, hxid ▸ (backed_after calls).accepted x hx⟩
  · cases h
    cases henrolled

/-- What the transaction of `enroll` counts are the rows it leaves. -/
theorem execute_enroll_ok {db : VoiceDatabase R V}
    {identityId displayName consentRef modelVersion : String}
    {accepted : List (String × SpeakerEmbedding R V)} {count speech : ℕ}
    (h : (VoiceTables.execute db s
      (.enroll tenantId identityId displayName consentRef modelVersion accepted)).2
        = .ok (count, speech)) :
    let after := (VoiceTables.execute db s
      (.enroll tenantId identityId displayName consentRef modelVersion accepted)).1
    count = (after.templatesOf tenantId identityId modelVersion).length
      ∧ speech = ((after.templatesOf tenantId identityId modelVersion).map
        VoiceTemplate.speechMs).sum := by
  unfold VoiceTables.execute at h ⊢
  dsimp only at h ⊢
  split at h
  · cases h
  · next hclips =>
    cases h
    exact ⟨rfl, rfl⟩

/-- **What `enroll` reports of the policy** is what the table then has. -/
theorem enroll_meetsPolicy {identityId : String} {embeddings : List (SpeakerEmbedding R V)}
    {displayName consentRef : Option String} {newIds : ℕ → String} {r : EnrollmentReport}
    {after : VoiceTables R V}
    (h : (registry.enroll tenantId identityId embeddings displayName consentRef newIds).alone
      (VoiceTables.execute registry.pool) s = (.ok r, after)) :
    r.meetsPolicy = true
      ↔ registry.minimumClips ≤ (after.templatesOf tenantId identityId registry.modelVersion).length
        ∧ registry.minimumTotalSpeechMs
          ≤ ((after.templatesOf tenantId identityId registry.modelVersion).map
            VoiceTemplate.speechMs).sum := by
  unfold enroll at h
  dsimp only at h
  rw [Program.alone_bind, Program.alone_issue] at h
  split at h
  · cases h
  · next hreply =>
    obtain ⟨hcount, hspeech⟩ := execute_enroll_ok hreply
    cases h
    rw [← hcount, ← hspeech]
    exact isEmpty_reasons

/-! ## Both registries -/

/-- **Who is identified was accepted**, and nothing more: both registries name an
identity only if a clip of it was accepted since it was last deleted. Whether the
clips are enough is for the report to say, which compares with the policy what is
stored after the call. -/
theorem identified_accepted [IsStrictOrderedRing R] (memory : FakeVoiceRegistry R)
    (registry : PgVectorVoiceRegistry R V) (tenantId : String) (calls : List (VoiceCall R V)) :
    (∀ e d, memory.identify tenantId e (memory.after tenantId calls) = .ok d →
        d.NamesAccepted memory.clipReasons calls)
      ∧ (∀ e d, registry.identified (registry.after tenantId calls) tenantId e = .ok d →
        d.NamesAccepted registry.clipReasons calls)
      ∧ (∀ identityId embeddings displayName consentRef newIds (r : EnrollmentReport),
        (memory.enroll tenantId identityId embeddings displayName consentRef
          (memory.after tenantId calls)).1 = .ok r →
        let calls' := calls ++ [.enroll identityId embeddings displayName consentRef newIds]
        ∃ entry, (memory.after tenantId calls' tenantId).find?
            (fun e => e.identityId = identityId) = some entry
          ∧ (r.meetsPolicy = true ↔ memory.minimumClips ≤ entry.prototypes.length
            ∧ memory.minimumTotalSpeechMs ≤ entry.acceptedSpeechMs)
          ∧ ((∀ e ∈ calls', e.HasQuality) →
            entry.prototypes.length = (clipsSince memory.clipReasons identityId calls').length
            ∧ entry.acceptedSpeechMs = ((clipsSince memory.clipReasons identityId calls').map
              SpeakerEmbedding.speechDurationMs).sum))
      ∧ ∀ identityId embeddings displayName consentRef newIds (r : EnrollmentReport) after,
        (registry.enroll tenantId identityId embeddings displayName consentRef newIds).alone
          (VoiceTables.execute registry.pool) (registry.after tenantId calls) = (.ok r, after) →
        (r.meetsPolicy = true ↔ registry.minimumClips
            ≤ (after.templatesOf tenantId identityId registry.modelVersion).length
          ∧ registry.minimumTotalSpeechMs
            ≤ ((after.templatesOf tenantId identityId registry.modelVersion).map
              VoiceTemplate.speechMs).sum) := by
  refine ⟨fun _ _ h => FakeVoiceRegistry.identify_namesAccepted h,
    fun _ _ h => identify_namesAccepted h, ?_, fun _ _ _ _ _ _ _ h => enroll_meetsPolicy h⟩
  intro identityId embeddings displayName consentRef newIds r hr calls'
  have hafter : memory.after tenantId calls' = (memory.call ⟨tenantId, 0⟩
      (memory.after tenantId calls) (.enroll identityId embeddings displayName consentRef
        newIds)).2 := List.foldl_append
  have hentry := (congrArg (fun tenants => (tenants tenantId).find?
    (fun e => decide (e.identityId = identityId))) hafter).trans (FakeVoiceRegistry.find?_call
      (tenantId, .enroll identityId embeddings displayName consentRef newIds))
  rw [if_pos ⟨rfl, rfl⟩] at hentry
  refine ⟨_, hentry, FakeVoiceRegistry.enroll_meetsPolicy hr _ rfl, fun hquality => ?_⟩
  have haccounts := FakeVoiceRegistry.accounts_after memory tenantId calls' identityId
  rw [hentry] at haccounts
  exact ⟨haccounts.prototypes hquality, haccounts.speech hquality⟩

/-- One clip of five seconds is enrolled, where the policy asks for three clips. -/
def oneClip : VoiceCall ℚ ℚ :=
  .enroll "emp_1" [lineClip true] (some "Bob") none
    (fun n => "vtpl_b" ++ toString n)

/-- Whoever has this clip is identified by it. -/
theorem identified_accepted_oneClip :
    ∃ d, lineRegistry.inMemory.identify "acme" (lineClip true)
        (lineRegistry.inMemory.after "acme" [oneClip]) = .ok d ∧ d.status = .enrolled
      ∧ d.NamesAccepted lineRegistry.inMemory.clipReasons [oneClip] := by
  have henrolled : (lineRegistry.inMemory.identify "acme" (lineClip true)
      (lineRegistry.inMemory.after "acme" [oneClip])).toOption.map VoiceIdDecision.status
        = some .enrolled := by decide +kernel
  cases hd : lineRegistry.inMemory.identify "acme" (lineClip true)
      (lineRegistry.inMemory.after "acme" [oneClip]) with
  | error e =>
    rw [hd] at henrolled
    cases henrolled
  | ok d =>
    rw [hd] at henrolled
    exact ⟨d, rfl, Option.some.inj henrolled,
      (identified_accepted lineRegistry.inMemory lineRegistry "acme" [oneClip]).1 _ d hd⟩

/-- What a report says of the policy. -/
def policyOf : VoiceResult ℚ ℚ → Option Bool
  | .report (.ok r) => some r.meetsPolicy
  | _ => none

/-- Who a decision names. -/
def namedBy : VoiceResult ℚ ℚ → Option String
  | .decision (.ok d) => d.registrySpeakerId
  | _ => none

/-- **The report says no, and the identity is identified all the same**, by both
registries. -/
theorem identified_below_policy :
    policyOf (lineRegistry.inMemory.call ⟨"acme", 0⟩ (fun _ => []) oneClip).1 = some false
      ∧ namedBy (lineRegistry.inMemory.call ⟨"acme", 0⟩
        (lineRegistry.inMemory.after "acme" [oneClip])
          (.identify (lineClip true))).1 = some "emp_1"
      ∧ policyOf ((lineRegistry.program ⟨"acme", 0⟩ oneClip).alone
        (VoiceTables.execute lineRegistry.pool) VoiceTables.empty).1 = some false
      ∧ namedBy ((lineRegistry.program ⟨"acme", 0⟩
        (.identify (lineClip true))).alone
          (VoiceTables.execute lineRegistry.pool)
          (lineRegistry.after "acme" [oneClip])).1 = some "emp_1" := by
  decide +kernel

end PgVectorVoiceRegistry

end Sastt

import Sastt.Adapters.RegistryAgreement
import Sastt.Lib.Leaders

/-!
# Open-set identification

`identify` ranks the identities of a tenant by the best score of their prototypes and looks
at the first two. So it finds the identity that leads all others by the margin, if there is
one (`leads_cons_iff`), and no order of enrollment changes what it answers: what the
dictionary holds of an identity is decided by the calls about this identity alone
(`find?_history`), and only ties are ranked by the order of the dictionary
(`identify_openSet`).
-/

namespace Sastt

variable {R V : Type} [Field R] [LinearOrder R] [AddCommGroup V] [Module R V] [EmbeddingSpace R V]

/-- Whom a call enrolls or deletes. -/
def VoiceCall.subject : VoiceCall R V → Option String
  | .enroll identityId _ _ _ _ => some identityId
  | .deleteIdentity identityId => some identityId
  | _ => none

/-- **The calls of a tenant about an identity**, in their order. -/
def callsAbout (tenantId identityId : String) (calls : List (String × VoiceCall R V)) :
    List (VoiceCall R V) :=
  (calls.filter (fun c => c.1 = tenantId ∧ c.2.subject = some identityId)).map Prod.snd

/-- **The largest similarity** of the probe to the prototypes of an entry. -/
def HasBest (e : SpeakerEmbedding R V) (entry : RegistryEntry R V) (best : R) : Prop :=
  (∃ p ∈ entry.prototypes, p.similarity e = .ok best)
    ∧ ∀ p ∈ entry.prototypes, ∃ score, p.similarity e = .ok score ∧ score ≤ best

/-- **The identity leads**: its best score is ahead of that of every other one by the
margin. -/
def LeadsOthers (margin : R) (e : SpeakerEmbedding R V) (entries : List (RegistryEntry R V))
    (identityId : String) (best : R) : Prop :=
  (∃ entry ∈ entries, entry.identityId = identityId ∧ HasBest e entry best)
    ∧ ∀ other ∈ entries, other.identityId ≠ identityId →
      ∀ score, HasBest e other score → margin ≤ best - score

/-- **The identity is accepted**: it leads, and reaches the threshold. -/
def Accepted (accept margin : R) (e : SpeakerEmbedding R V) (entries : List (RegistryEntry R V))
    (identityId : String) : Prop :=
  ∃ best, accept ≤ best ∧ LeadsOthers margin e entries identityId best

/-- **The probe is ambiguous**: some identity reaches the threshold, none leads. -/
def Undecided (accept margin : R) (e : SpeakerEmbedding R V)
    (entries : List (RegistryEntry R V)) : Prop :=
  (∃ entry ∈ entries, ∃ best, HasBest e entry best ∧ accept ≤ best)
    ∧ ¬ ∃ identityId best, LeadsOthers margin e entries identityId best

namespace FakeVoiceRegistry

variable (registry : FakeVoiceRegistry R)

/-- The entries after calls of any tenants. -/
def history (calls : List (String × VoiceCall R V)) : RegistryEntries R V :=
  calls.foldl (fun tenants c => (registry.call ⟨c.1, 0⟩ tenants c.2).2) (fun _ => [])

/-! ## One identity -/

/-- What `enroll` makes of the entry it finds. -/
def enrolledEntry (identityId : String) (embeddings : List (SpeakerEmbedding R V))
    (displayName consentRef : Option String) (found : Option (RegistryEntry R V)) :
    RegistryEntry R V :=
  let accepted := embeddings.filter (fun e => (registry.clipReasons e).isEmpty)
  let entry := found.getD { identityId, displayName := orDefault displayName identityId }
  let added := addPrototypes accepted { entry with
    consentRef := if orDefault consentRef "" = "" then entry.consentRef else consentRef
    displayName := orDefault displayName entry.displayName }
  match added.1 with
  | .error _ => added.2
  | .ok _ => { added.2 with
      acceptedSpeechMs :=
        added.2.acceptedSpeechMs + (accepted.map SpeakerEmbedding.speechDurationMs).sum }

/-- What a call about an identity makes of its entry. -/
def entryAfter (identityId : String) (found : Option (RegistryEntry R V)) :
    VoiceCall R V → Option (RegistryEntry R V)
  | .enroll _ embeddings displayName consentRef _ =>
    some (registry.enrolledEntry identityId embeddings displayName consentRef found)
  | .deleteIdentity _ => none
  | _ => found

section Entries

variable {registry} {tenants : RegistryEntries R V} {tenantId identityId : String}

omit [Field R] [LinearOrder R] [AddCommGroup V] [Module R V] [EmbeddingSpace R V] in
/-- What is assigned to is found as it was assigned. -/
theorem find?_setEntry (entry : RegistryEntry R V) (entries : List (RegistryEntry R V))
    (identityId : String) :
    (setEntry entry entries).find? (fun e => e.identityId = identityId)
      = if entry.identityId = identityId then some entry
        else entries.find? (fun e => e.identityId = identityId) := by
  unfold setEntry
  split
  · next hany =>
    induction entries with
    | nil => cases hany
    | cons e entries ih =>
      rw [List.map_cons, List.find?_cons, List.find?_cons]
      by_cases hsame : e.identityId = entry.identityId
      · rw [if_pos hsame, hsame]
        split_ifs with hid
        · simp [hid]
        · simp only [hid, decide_false]
          by_cases hrest : entries.any (fun e => e.identityId = entry.identityId)
          · rw [ih hrest, if_neg hid]
          · congr 1
            refine (List.map_congr_left (fun e he => if_neg (fun heq => hrest ?_))).trans
              (List.map_id' entries)
            exact List.any_eq_true.mpr ⟨e, he, decide_eq_true heq⟩
      · have hrest : entries.any (fun e => e.identityId = entry.identityId) = true := by
          simpa [hsame] using hany
        rw [if_neg hsame, ih hrest]
        by_cases hid : e.identityId = identityId
        · have hne : entry.identityId ≠ identityId := fun heq => hsame (hid.trans heq.symm)
          simp [hid, hne]
        · simp only [hid, decide_false]
  · rw [List.find?_append]
    next hnone =>
    split_ifs with hid
    · rw [List.find?_eq_none.mpr (fun e he => ?_)]
      · simp [hid]
      · exact fun heq => hnone (List.any_eq_true.mpr ⟨e, he, by simpa [hid] using heq⟩)
    · simp [hid]

/-- The loop of `enroll` is about one identity. -/
theorem identityId_addPrototypes (accepted : List (SpeakerEmbedding R V))
    (entry : RegistryEntry R V) :
    (addPrototypes accepted entry).2.identityId = entry.identityId := by
  induction accepted generalizing entry with
  | nil => rfl
  | cons e accepted ih =>
    rw [addPrototypes]
    split
    · rfl
    · exact ih _

theorem identityId_enrolledEntry (embeddings : List (SpeakerEmbedding R V))
    (displayName consentRef : Option String) {found : Option (RegistryEntry R V)}
    (hfound : ∀ entry ∈ found, entry.identityId = identityId) :
    (registry.enrolledEntry identityId embeddings displayName consentRef found).identityId
      = identityId := by
  have hid : (found.getD { identityId, displayName := orDefault displayName identityId }).identityId
      = identityId := by
    cases found with
    | none => rfl
    | some entry => exact hfound entry rfl
  unfold enrolledEntry
  dsimp only
  split
  · exact (identityId_addPrototypes _ _).trans hid
  · exact (identityId_addPrototypes _ _).trans hid

/-- **`enroll` assigns to the entry of the identity.** -/
theorem enroll_snd (embeddings : List (SpeakerEmbedding R V))
    (displayName consentRef : Option String) :
    (registry.enroll tenantId identityId embeddings displayName consentRef tenants).2
      = Function.update tenants tenantId (setEntry
        (registry.enrolledEntry identityId embeddings displayName consentRef
          ((tenants tenantId).find? (fun e => e.identityId = identityId))) (tenants tenantId)) := by
  unfold enroll enrolledEntry
  dsimp only
  split
  · next err entry hadd =>
    rw [hadd]
  · next entry hadd =>
    rw [hadd]

omit [Field R] [LinearOrder R] [AddCommGroup V] [Module R V] [EmbeddingSpace R V] in
theorem identityId_of_find? {entries : List (RegistryEntry R V)} {entry : RegistryEntry R V}
    (h : entries.find? (fun e => e.identityId = identityId) = some entry) :
    entry.identityId = identityId := by
  simpa using List.find?_some h

/-- A call leaves the entries of other tenants. -/
theorem call_of_ne {tenant : String} (h : tenant ≠ tenantId) (c : VoiceCall R V) :
    (registry.call ⟨tenant, 0⟩ tenants c).2 tenantId = tenants tenantId := by
  cases c with
  | enroll id embeddings displayName consentRef newIds =>
    unfold call
    dsimp only
    rw [enroll_snd, Function.update_of_ne (Ne.symm h)]
  | deleteIdentity id =>
    unfold call deleteIdentity
    dsimp only
    rw [Function.update_of_ne (Ne.symm h)]
  | _ => rfl

/-- **What a call leaves of an identity** is decided by what it is about. -/
theorem find?_call (c : String × VoiceCall R V) :
    ((registry.call ⟨c.1, 0⟩ tenants c.2).2 tenantId).find? (fun e => e.identityId = identityId)
      = if c.1 = tenantId ∧ c.2.subject = some identityId then
          registry.entryAfter identityId
            ((tenants tenantId).find? (fun e => e.identityId = identityId)) c.2
        else (tenants tenantId).find? (fun e => e.identityId = identityId) := by
  obtain ⟨tenant, c⟩ := c
  by_cases htenant : tenant = tenantId
  · subst htenant
    cases c with
    | enroll id embeddings displayName consentRef newIds =>
      unfold call
      dsimp only
      rw [enroll_snd, Function.update_self, find?_setEntry, identityId_enrolledEntry embeddings
        displayName consentRef (fun _ h => identityId_of_find? h)]
      by_cases hid : id = identityId
      · subst hid
        simp [VoiceCall.subject, entryAfter]
      · simp [VoiceCall.subject, hid]
    | deleteIdentity id =>
      unfold call deleteIdentity
      dsimp only
      rw [Function.update_self, List.find?_filter]
      by_cases hid : id = identityId
      · subst hid
        simp [VoiceCall.subject, entryAfter]
      · simp only [VoiceCall.subject, Option.some.injEq, hid, and_false, if_false]
        congr 1
        funext e
        by_cases he : e.identityId = identityId
        · simp [he, Ne.symm hid]
        · simp [he]
    | identify e => simp [call, VoiceCall.subject]
    | identityExists id => simp [call, VoiceCall.subject]
    | prototypesOf id => simp [call, VoiceCall.subject]
  · rw [call_of_ne htenant]
    simp [htenant]

/-- **What the dictionary holds of an identity** is decided by the calls about it. -/
theorem find?_history (calls : List (String × VoiceCall R V)) :
    (registry.history calls tenantId).find? (fun e => e.identityId = identityId)
      = (callsAbout tenantId identityId calls).foldl (registry.entryAfter identityId) none := by
  induction calls using List.reverseRecOn with
  | nil => rfl
  | append_singleton calls c ih =>
    have hlast : registry.history (calls ++ [c])
        = (registry.call ⟨c.1, 0⟩ (registry.history calls) c.2).2 := List.foldl_append
    unfold callsAbout at ih ⊢
    rw [hlast, find?_call, ih, List.filter_append, List.map_append, List.foldl_append]
    by_cases habout : c.1 = tenantId ∧ c.2.subject = some identityId
    · simp [habout]
    · simp [habout]

/-- No identity has two entries. -/
theorem nodup_history (calls : List (String × VoiceCall R V)) (tenantId : String) :
    ((registry.history calls tenantId).map RegistryEntry.identityId).Nodup := by
  induction calls using List.reverseRecOn with
  | nil => exact List.nodup_nil
  | append_singleton calls c ih =>
    have hlast : registry.history (calls ++ [c])
        = (registry.call ⟨c.1, 0⟩ (registry.history calls) c.2).2 := List.foldl_append
    obtain ⟨tenant, c⟩ := c
    rw [hlast]
    by_cases htenant : tenant = tenantId
    · subst htenant
      cases c with
      | enroll id embeddings displayName consentRef newIds =>
        unfold call
        dsimp only
        rw [enroll_snd, Function.update_self]
        exact nodup_setEntry ih
      | deleteIdentity id =>
        unfold call deleteIdentity
        dsimp only
        rw [Function.update_self]
        exact ih.sublist (List.filter_sublist.map _)
      | _ => exact ih
    · rw [call_of_ne htenant]
      exact ih

/-- What is there is what the calls about it have made. -/
theorem mem_history_iff {calls : List (String × VoiceCall R V)} {entry : RegistryEntry R V} :
    entry ∈ registry.history calls tenantId
      ↔ (callsAbout tenantId entry.identityId calls).foldl
        (registry.entryAfter entry.identityId) none = some entry := by
  rw [← find?_history]
  constructor
  · intro hentry
    cases hfind : (registry.history calls tenantId).find?
        (fun e => e.identityId = entry.identityId) with
    | none =>
      have hne := List.find?_eq_none.mp hfind entry hentry
      simp at hne
    | some found =>
      exact congrArg some (List.inj_on_of_nodup_map (nodup_history calls tenantId)
        (List.mem_of_find?_eq_some hfind) hentry (identityId_of_find? hfind))
  · exact List.mem_of_find?_eq_some

/-- **Two histories leave the same entries**, in some order, if they agree on each
identity. -/
theorem history_perm {calls calls' : List (String × VoiceCall R V)}
    (h : ∀ identityId, callsAbout tenantId identityId calls'
      = callsAbout tenantId identityId calls) :
    (registry.history calls' tenantId).Perm (registry.history calls tenantId) := by
  refine (List.perm_ext_iff_of_nodup ((nodup_history calls' tenantId).of_map _)
    ((nodup_history calls tenantId).of_map _)).mpr (fun entry => ?_)
  rw [mem_history_iff, mem_history_iff, h]

/-! ## Prototypes -/

section Prototypes

variable [IsStrictOrderedRing R]

/-- The loop of `enroll` appends prototypes of the clips. -/
theorem modelVersion_addPrototypes {accepted : List (SpeakerEmbedding R V)} {version : String}
    (haccepted : ∀ e ∈ accepted, e.modelVersion = version) {entry : RegistryEntry R V}
    (hentry : ∀ p ∈ entry.prototypes, p.modelVersion = version) :
    ∀ p ∈ (addPrototypes accepted entry).2.prototypes, p.modelVersion = version := by
  induction accepted generalizing entry with
  | nil => exact hentry
  | cons e accepted ih =>
    rw [addPrototypes]
    cases hfirst : SpeakerPrototype.fromEmbedding entry.identityId e with
    | error err => exact hentry
    | ok prototype =>
      refine ih (fun e he => haccepted e (List.mem_cons_of_mem _ he)) (fun p hp => ?_)
      cases List.mem_append.mp hp with
      | inl hp => exact hentry p hp
      | inr hp =>
        obtain rfl := List.mem_singleton.mp hp
        obtain ⟨-, err, herr⟩ | ⟨-, q, hq, -, -, hversion⟩ :=
          SpeakerPrototype.fromEmbedding_cases entry.identityId e
        · cases herr.symm.trans hfirst
        · cases hq.symm.trans hfirst
          exact hversion.trans (haccepted e List.mem_cons_self)

theorem modelVersion_enrolledEntry (embeddings : List (SpeakerEmbedding R V))
    (displayName consentRef : Option String) {found : Option (RegistryEntry R V)}
    (hfound : ∀ entry ∈ found, ∀ p ∈ entry.prototypes, p.modelVersion = registry.modelVersion) :
    ∀ p ∈ (registry.enrolledEntry identityId embeddings displayName consentRef found).prototypes,
      p.modelVersion = registry.modelVersion := by
  have haccepted : ∀ e ∈ embeddings.filter (fun e => (registry.clipReasons e).isEmpty),
      e.modelVersion = registry.modelVersion := fun e he => by
    by_contra hne
    have hempty := (List.mem_filter.mp he).2
    simp [clipReasons, hne] at hempty
  have hbefore : ∀ p ∈ (found.getD
      { identityId, displayName := orDefault displayName identityId }).prototypes,
      p.modelVersion = registry.modelVersion := by
    cases found with
    | none => exact fun _ hp => absurd hp List.not_mem_nil
    | some entry => exact hfound entry rfl
  unfold enrolledEntry
  dsimp only
  split
  · exact modelVersion_addPrototypes haccepted hbefore
  · exact modelVersion_addPrototypes haccepted hbefore

/-- **The prototypes are of the registry's model.** -/
theorem modelVersion_history {calls : List (String × VoiceCall R V)} {entry : RegistryEntry R V}
    (hentry : entry ∈ registry.history calls tenantId) :
    ∀ p ∈ entry.prototypes, p.modelVersion = registry.modelVersion := by
  have hall : ∀ found : Option (RegistryEntry R V),
      (∀ entry ∈ found, ∀ p ∈ entry.prototypes, p.modelVersion = registry.modelVersion) →
      ∀ about : List (VoiceCall R V), ∀ after ∈ about.foldl (registry.entryAfter entry.identityId)
        found, ∀ p ∈ after.prototypes, p.modelVersion = registry.modelVersion := by
    intro found hfound about
    induction about generalizing found with
    | nil => exact hfound
    | cons c about ih =>
      refine ih _ ?_
      cases c with
      | enroll id embeddings displayName consentRef newIds =>
        intro after hafter
        obtain rfl := Option.mem_some_iff.mp hafter
        exact modelVersion_enrolledEntry embeddings displayName consentRef hfound
      | deleteIdentity id => exact fun after hafter => absurd hafter (Option.not_mem_none after)
      | _ => exact hfound
  exact hall none (fun after hafter => absurd hafter (Option.not_mem_none after)) _ entry
    (mem_history_iff.mp hentry)

end Prototypes

end Entries

/-! ## Scores -/

section Scores

variable {e : SpeakerEmbedding R V} {entry : RegistryEntry R V}

/-- The best score of an entry, if it has a prototype. -/
def bestOf (e : SpeakerEmbedding R V) (entry : RegistryEntry R V) :
    Option (R × RegistryEntry R V) :=
  (entry.prototypes.map (fun p => EmbeddingSpace.dot p.centroid e.vector)).max?.map
    (fun score => (score, entry))

theorem scoreOf_eq (hversion : ∀ p ∈ entry.prototypes, p.modelVersion = e.modelVersion) :
    scoreOf e entry = .ok (bestOf e entry) := by
  have hscores : entry.prototypes.mapM (fun p => p.similarity e)
      = .ok (entry.prototypes.map (fun p => (EmbeddingSpace.dot p.centroid e.vector : R))) :=
    Method.mapM_of_ok (fun p hp => if_neg (not_not.mpr (hversion p hp).symm))
  unfold scoreOf
  rw [hscores]
  rfl

theorem bestOf_eq_some_iff (hversion : ∀ p ∈ entry.prototypes, p.modelVersion = e.modelVersion)
    {a : R × RegistryEntry R V} :
    bestOf e entry = some a ↔ a.2 = entry ∧ HasBest e entry a.1 := by
  have hscore : ∀ p ∈ entry.prototypes, ∀ score,
      p.similarity e = .ok score ↔ EmbeddingSpace.dot p.centroid e.vector = score := by
    intro p hp score
    unfold SpeakerPrototype.similarity
    rw [if_neg (not_not.mpr (hversion p hp).symm), Except.ok.injEq]
  have hbest : HasBest e entry a.1 ↔
      (entry.prototypes.map (fun p => EmbeddingSpace.dot p.centroid e.vector)).max?
        = some a.1 := by
    rw [List.max?_eq_some_iff, List.mem_map, List.forall_mem_map]
    unfold HasBest
    constructor
    · rintro ⟨⟨p, hp, heq⟩, hle⟩
      refine ⟨⟨p, hp, (hscore p hp a.1).mp heq⟩, fun q hq => ?_⟩
      obtain ⟨score, heq, hscored⟩ := hle q hq
      exact ((hscore q hq score).mp heq).trans_le hscored
    · rintro ⟨⟨p, hp, heq⟩, hle⟩
      exact ⟨⟨p, hp, (hscore p hp a.1).mpr heq⟩,
        fun q hq => ⟨_, (hscore q hq _).mpr rfl, hle q hq⟩⟩
  rw [hbest]
  unfold bestOf
  rw [Option.map_eq_some_iff]
  constructor
  · rintro ⟨score, hmax, rfl⟩
    exact ⟨rfl, hmax⟩
  · rintro ⟨rfl, hmax⟩
    exact ⟨a.1, hmax, rfl⟩

end Scores

section Decision

omit [AddCommGroup V] [Module R V] [EmbeddingSpace R V]

variable {accept margin : R}

/-- The gap is below the margin unless the first leads the second. -/
theorem gap_iff {best : R} {rest : List (R × RegistryEntry R V)} :
    (rest.head?.map (fun second => best - second.1)).any (· < margin) = true
      ↔ ¬ ∀ second ∈ rest.head?, margin ≤ best - second.1 := by
  cases rest with
  | nil => simp
  | cons second rest => simp

/-- **Whoever reaches the threshold and leads all others is named.** -/
theorem decision_of_leads [IsOrderedAddMonoid R] (hmargin : 0 < margin)
    {l : List (R × RegistryEntry R V)} (h : Ranked Prod.fst l) (hnodup : l.Nodup)
    {a : R × RegistryEntry R V} (hleads : Leads Prod.fst margin l a) (haccept : accept ≤ a.1) :
    (decision accept margin l).status = .enrolled
      ∧ (decision accept margin l).registrySpeakerId = some a.2.identityId := by
  cases l with
  | nil => cases hleads.1
  | cons best rest =>
    obtain ⟨rfl, hsecond⟩ := (leads_cons_iff hmargin h hnodup).mp hleads
    unfold decision
    dsimp only
    rw [if_neg (not_lt.mpr haccept), if_neg (fun hgap => gap_iff.mp hgap hsecond)]
    exact ⟨rfl, rfl⟩

/-- **Nobody is named if nobody leads**, and nobody is looked at below the threshold. -/
theorem decision_of_not_leads [IsOrderedAddMonoid R] {l : List (R × RegistryEntry R V)}
    (h : Ranked Prod.fst l) (hnodup : l.Nodup)
    (hleads : ¬ ∃ a, Leads Prod.fst margin l a ∧ accept ≤ a.1) :
    (decision accept margin l).status
      = if ∃ a ∈ l, accept ≤ a.1 then .ambiguous else .unknown := by
  cases l with
  | nil => simp [decision]
  | cons best rest =>
    unfold decision
    dsimp only
    by_cases haccept : accept ≤ best.1
    · have hgap : (rest.head?.map (fun second => best.1 - second.1)).any (· < margin) = true :=
        gap_iff.mpr (fun hsecond =>
          hleads ⟨best, (h.leads_head_iff hnodup).mpr hsecond, haccept⟩)
      rw [if_neg (not_lt.mpr haccept), if_pos hgap,
        if_pos ⟨best, List.mem_cons_self, haccept⟩]
    · have hnone : ¬ ∃ a ∈ best :: rest, accept ≤ a.1 := by
        rintro ⟨a, ha, hle⟩
        exact haccept (hle.trans (h.le_head ha))
      rw [if_pos (not_le.mp haccept), if_neg hnone]

/-- **A decision does not depend on how ties are ranked.** -/
theorem decision_perm [IsOrderedAddMonoid R] (hmargin : 0 < margin)
    {l l' : List (R × RegistryEntry R V)} (h : Ranked Prod.fst l) (h' : Ranked Prod.fst l')
    (hnodup : l.Nodup) (hperm : l.Perm l') :
    decision accept margin l = decision accept margin l' := by
  have hscores := h.scores_eq h' hperm
  cases l with
  | nil => rw [hperm.nil_eq]
  | cons best rest =>
    cases l' with
    | nil => cases hscores
    | cons best' rest' =>
      obtain ⟨hbest, hrest⟩ := List.cons.inj hscores
      have hgap : rest'.head?.map (fun second => best'.1 - second.1)
          = rest.head?.map (fun second => best.1 - second.1) := by
        have hsecond := congrArg
          (fun scores : List R => scores.head?.map (best.1 - ·)) hrest
        rw [List.head?_map, List.head?_map, Option.map_map, Option.map_map] at hsecond
        rw [← hbest]
        exact hsecond.symm
      unfold decision
      dsimp only
      rw [hgap, ← hbest]
      split_ifs with hlow hclose
      · rfl
      · rfl
      · have hleads : Leads Prod.fst margin (best :: rest) best :=
          (h.leads_head_iff hnodup).mpr (not_not.mp (fun hsecond => hclose (gap_iff.mpr hsecond)))
        obtain rfl := Option.some.inj ((hleads.of_perm hperm).head?_eq hmargin h')
        rfl

end Decision

/-! ## The answer -/

section Answer

variable {registry} {e : SpeakerEmbedding R V} {entries : List (RegistryEntry R V)}
  {accept margin : R} {identityId : String} {best : R}

/-- The rows that are ranked. -/
def rows (e : SpeakerEmbedding R V) (entries : List (RegistryEntry R V)) :
    List (R × RegistryEntry R V) :=
  entries.filterMap (bestOf e)

theorem identify_eq {tenantId : String} {tenants : RegistryEntries R V}
    (haccept : registry.acceptThreshold = some accept)
    (hmargin : registry.ambiguousMargin = some margin)
    (hmodel : e.modelVersion = registry.modelVersion)
    (hversion : ∀ entry ∈ tenants tenantId, ∀ p ∈ entry.prototypes,
      p.modelVersion = e.modelVersion) :
    registry.identify tenantId e tenants = .ok (decision accept margin
      ((rows e (tenants tenantId)).insertionSort (fun a b => b.1 ≤ a.1))) := by
  have hscores : (tenants tenantId).mapM (scoreOf e)
      = .ok ((tenants tenantId).map (bestOf e)) :=
    Method.mapM_of_ok (fun entry hentry => scoreOf_eq (hversion entry hentry))
  unfold identify
  rw [haccept, hmargin]
  dsimp only
  rw [if_neg (not_not.mpr hmodel), hscores]
  show Except.ok (decision accept margin
    ((((tenants tenantId).map (bestOf e)).filterMap id).insertionSort (fun a b => b.1 ≤ a.1))) = _
  rw [List.filterMap_map]
  rfl

theorem mem_rows_iff (hversion : ∀ entry ∈ entries, ∀ p ∈ entry.prototypes,
    p.modelVersion = e.modelVersion) {a : R × RegistryEntry R V} :
    a ∈ rows e entries ↔ a.2 ∈ entries ∧ HasBest e a.2 a.1 := by
  unfold rows
  rw [List.mem_filterMap]
  constructor
  · rintro ⟨entry, hentry, hbest⟩
    obtain ⟨rfl, hbest⟩ := (bestOf_eq_some_iff (hversion entry hentry)).mp hbest
    exact ⟨hentry, hbest⟩
  · rintro ⟨hentry, hbest⟩
    exact ⟨a.2, hentry, (bestOf_eq_some_iff (hversion a.2 hentry)).mpr ⟨rfl, hbest⟩⟩

theorem nodup_rows (hnodup : (entries.map RegistryEntry.identityId).Nodup) :
    (rows e entries).Nodup := by
  refine (hnodup.of_map _).filterMap (fun entry entry' a ha ha' => ?_)
  obtain ⟨score, -, rfl⟩ := Option.map_eq_some_iff.mp (Option.mem_def.mp ha)
  obtain ⟨score', -, heq⟩ := Option.map_eq_some_iff.mp (Option.mem_def.mp ha')
  exact (congrArg Prod.snd heq).symm

/-- **An identity leads the others if its row does.** -/
theorem leadsOthers_iff (hnodup : (entries.map RegistryEntry.identityId).Nodup)
    (hversion : ∀ entry ∈ entries, ∀ p ∈ entry.prototypes, p.modelVersion = e.modelVersion) :
    LeadsOthers margin e entries identityId best
      ↔ ∃ a, Leads Prod.fst margin (rows e entries) a ∧ a.2.identityId = identityId
        ∧ a.1 = best := by
  constructor
  · rintro ⟨⟨entry, hentry, rfl, hbest⟩, hothers⟩
    refine ⟨(best, entry), ⟨(mem_rows_iff hversion).mpr ⟨hentry, hbest⟩, fun b hb hne => ?_⟩,
      rfl, rfl⟩
    obtain ⟨hother, hscore⟩ := (mem_rows_iff hversion).mp hb
    refine hothers b.2 hother (fun hid => hne ?_) b.1 hscore
    obtain rfl : b.2 = entry := List.inj_on_of_nodup_map hnodup hother hentry hid
    have hrow : bestOf e b.2 = some b :=
      (bestOf_eq_some_iff (hversion b.2 hother)).mpr ⟨rfl, hscore⟩
    have hleader : bestOf e b.2 = some (best, b.2) :=
      (bestOf_eq_some_iff (hversion b.2 hother)).mpr ⟨rfl, hbest⟩
    exact Option.some.inj (hrow.symm.trans hleader)
  · rintro ⟨a, hleads, rfl, rfl⟩
    obtain ⟨hentry, hbest⟩ := (mem_rows_iff hversion).mp hleads.1
    refine ⟨⟨a.2, hentry, rfl, hbest⟩, fun other hother hne score hscore => ?_⟩
    exact hleads.2 (score, other) ((mem_rows_iff hversion).mpr ⟨hother, hscore⟩)
      (fun heq => hne (congrArg (fun b => b.2.identityId) heq))

/-- Nothing is scored across model versions. -/
theorem not_hasBest {entry : RegistryEntry R V}
    (hversion : ∀ p ∈ entry.prototypes, p.modelVersion ≠ e.modelVersion) :
    ¬ HasBest e entry best := by
  rintro ⟨⟨p, hp, hscore⟩, -⟩
  unfold SpeakerPrototype.similarity at hscore
  rw [if_pos (hversion p hp).symm] at hscore
  cases hscore

variable (accept) in
/-- The decision about entries of the probe's model. -/
theorem decision_openSet [IsOrderedAddMonoid R] (hpos : 0 < margin)
    (hnodup : (entries.map RegistryEntry.identityId).Nodup)
    (hversion : ∀ entry ∈ entries, ∀ p ∈ entry.prototypes, p.modelVersion = e.modelVersion)
    {d : VoiceIdDecision R} (hd : d = decision accept margin
      ((rows e entries).insertionSort (fun a b => b.1 ≤ a.1))) :
    (∀ x, d.status = .enrolled ∧ d.registrySpeakerId = some x ↔ Accepted accept margin e entries x)
      ∧ (d.status = .ambiguous ↔ Undecided accept margin e entries)
      ∧ (d.status = .unknown
        ↔ (¬ ∃ x, Accepted accept margin e entries x) ∧ ¬ Undecided accept margin e entries) := by
  have hperm := List.perm_insertionSort (fun a b => b.1 ≤ a.1) (rows e entries)
  have hranked := ranked_insertionSort Prod.fst (rows e entries)
  set l := (rows e entries).insertionSort (fun a b => b.1 ≤ a.1) with hl
  have hunique : l.Nodup := hperm.nodup_iff.mpr (nodup_rows hnodup)
  have hleads : ∀ x best, LeadsOthers margin e entries x best
      ↔ ∃ a, Leads Prod.fst margin l a ∧ a.2.identityId = x ∧ a.1 = best := by
    intro x best
    rw [leadsOthers_iff hnodup hversion]
    exact ⟨fun ⟨a, h, hx⟩ => ⟨a, h.of_perm hperm.symm, hx⟩,
      fun ⟨a, h, hx⟩ => ⟨a, h.of_perm hperm, hx⟩⟩
  have hreached : (∃ entry ∈ entries, ∃ best, HasBest e entry best ∧ accept ≤ best)
      ↔ ∃ a ∈ l, accept ≤ a.1 := by
    constructor
    · rintro ⟨entry, hentry, best, hbest, hle⟩
      exact ⟨(best, entry), hperm.mem_iff.mpr ((mem_rows_iff hversion).mpr ⟨hentry, hbest⟩), hle⟩
    · rintro ⟨a, ha, hle⟩
      obtain ⟨hentry, hbest⟩ := (mem_rows_iff hversion).mp (hperm.mem_iff.mp ha)
      exact ⟨a.2, hentry, a.1, hbest, hle⟩
  unfold Accepted Undecided
  simp only [hleads, hreached]
  by_cases hleader : ∃ a, Leads Prod.fst margin l a ∧ accept ≤ a.1
  · obtain ⟨a, ha, hle⟩ := hleader
    obtain ⟨hstatus, hid⟩ := decision_of_leads hpos hranked hunique ha hle
    rw [← hd] at hstatus hid
    have honly : ∀ b, Leads Prod.fst margin l b → b = a := fun b hb =>
      Option.some.inj ((hb.head?_eq hpos hranked).symm.trans (ha.head?_eq hpos hranked))
    refine ⟨fun x => ⟨fun ⟨_, hx⟩ => ?_, fun ⟨best, _, b, hb, hx, _⟩ => ⟨hstatus, ?_⟩⟩, ?_, ?_⟩
    · exact ⟨a.1, hle, a, ha, Option.some.inj (hid.symm.trans hx), rfl⟩
    · rw [hid, ← hx, honly b hb]
    · rw [hstatus]
      exact ⟨nofun, fun h => absurd ⟨a.2.identityId, a.1, a, ha, rfl, rfl⟩ h.2⟩
    · rw [hstatus]
      exact ⟨nofun, fun h => absurd ⟨a.2.identityId, a.1, hle, a, ha, rfl, rfl⟩ h.1⟩
  · have hstatus := decision_of_not_leads hranked hunique hleader
    rw [← hd] at hstatus
    have hnone : ∀ x, ¬ ∃ best, accept ≤ best
        ∧ ∃ a, Leads Prod.fst margin l a ∧ a.2.identityId = x ∧ a.1 = best := by
      rintro x ⟨best, hle, a, ha, -, rfl⟩
      exact hleader ⟨a, ha, hle⟩
    by_cases hsome : ∃ a ∈ l, accept ≤ a.1
    · -- a leader would be above whoever reaches the threshold
      have hnobody : ¬ ∃ x best, ∃ a, Leads Prod.fst margin l a ∧ a.2.identityId = x
          ∧ a.1 = best := by
        rintro ⟨x, best, a, ha, -, -⟩
        obtain ⟨b, hb, hle⟩ := hsome
        refine hleader ⟨a, ha, hle.trans ?_⟩
        by_cases hba : b = a
        · rw [hba]
        · exact sub_nonneg.mp (hpos.le.trans (ha.2 b hb hba))
      rw [if_pos hsome] at hstatus
      rw [hstatus]
      refine ⟨fun x => ⟨fun h => absurd h.1 nofun, fun h => absurd h (hnone x)⟩,
        ⟨fun _ => ⟨hsome, hnobody⟩, fun _ => rfl⟩, ⟨nofun, fun h => absurd ⟨hsome, hnobody⟩ h.2⟩⟩
    · rw [if_neg hsome] at hstatus
      rw [hstatus]
      refine ⟨fun x => ⟨fun h => absurd h.1 nofun, fun h => absurd h (hnone x)⟩,
        ⟨nofun, fun h => absurd h.1 hsome⟩, ⟨fun _ => ⟨?_, fun h => hsome h.1⟩, fun _ => rfl⟩⟩
      rintro ⟨x, h⟩
      exact hnone x h

variable (registry) in
/-- **Open-set identification is exact.** The probe is accepted as the identity that
reaches the threshold and leads every other one of the tenant by the margin, is ambiguous if
some identity reaches the threshold and none leads, and is unknown otherwise; and only what
was called about each identity counts, in whatever order they were enrolled. -/
theorem identify_openSet [IsStrictOrderedRing R]
    (haccept : registry.acceptThreshold = some accept)
    (hmargin : registry.ambiguousMargin = some margin) (hpos : 0 < margin)
    (calls : List (String × VoiceCall R V)) (tenantId : String) (e : SpeakerEmbedding R V) :
    ∃ d, registry.identify tenantId e (registry.history calls) = .ok d
      ∧ (∀ x, d.status = .enrolled ∧ d.registrySpeakerId = some x
        ↔ e.modelVersion = registry.modelVersion
          ∧ Accepted accept margin e (registry.history calls tenantId) x)
      ∧ (d.status = .ambiguous ↔ Undecided accept margin e (registry.history calls tenantId))
      ∧ (d.status = .unknown
        ↔ (¬ ∃ x, e.modelVersion = registry.modelVersion
            ∧ Accepted accept margin e (registry.history calls tenantId) x)
          ∧ ¬ Undecided accept margin e (registry.history calls tenantId))
      ∧ ∀ calls', (∀ identityId, callsAbout tenantId identityId calls'
          = callsAbout tenantId identityId calls) →
        registry.identify tenantId e (registry.history calls') = .ok d := by
  by_cases hmodel : e.modelVersion = registry.modelVersion
  · have hversion : ∀ calls : List (String × VoiceCall R V),
        ∀ entry ∈ registry.history calls tenantId, ∀ p ∈ entry.prototypes,
          p.modelVersion = e.modelVersion := fun calls entry hentry p hp =>
      (modelVersion_history hentry p hp).trans hmodel.symm
    obtain ⟨hnamed, hambiguous, hunknown⟩ := decision_openSet accept hpos
      (nodup_history calls tenantId) (hversion calls) rfl
    refine ⟨_, identify_eq haccept hmargin hmodel (hversion calls), ?_, hambiguous, ?_, ?_⟩
    · simpa only [hmodel, true_and] using hnamed
    · simpa only [hmodel, true_and] using hunknown
    · intro calls' hsame
      rw [identify_eq haccept hmargin hmodel (hversion calls')]
      refine congrArg Except.ok (decision_perm hpos (ranked_insertionSort _ _)
        (ranked_insertionSort _ _) ?_ ?_)
      · exact (List.perm_insertionSort _ _).nodup_iff.mpr (nodup_rows (nodup_history _ _))
      · exact (List.perm_insertionSort _ _).trans
          (((history_perm hsame).filterMap (bestOf e)).trans (List.perm_insertionSort _ _).symm)
  · have hmismatch : ∀ tenants : RegistryEntries R V, registry.identify tenantId e tenants
        = .ok { status := .unknown, reason := "embedding_model_mismatch" } := fun tenants => by
      unfold identify
      rw [haccept, hmargin]
      exact if_pos hmodel
    have hnobody : ∀ entry ∈ registry.history calls tenantId, ∀ best, ¬ HasBest e entry best :=
      fun entry hentry best => not_hasBest (fun p hp heq =>
        hmodel (heq.symm.trans (modelVersion_history hentry p hp)))
    have hundecided : ¬ Undecided accept margin e (registry.history calls tenantId) := by
      rintro ⟨⟨entry, hentry, best, hbest, -⟩, -⟩
      exact hnobody entry hentry best hbest
    refine ⟨_, hmismatch _, fun x => ⟨fun h => absurd h.1 nofun, fun h => absurd h.1 hmodel⟩,
      ⟨nofun, fun h => absurd h hundecided⟩, ⟨fun _ => ⟨?_, hundecided⟩, fun _ => rfl⟩,
      fun _ _ => hmismatch _⟩
    rintro ⟨x, h, -⟩
    exact hmodel h

end Answer

end FakeVoiceRegistry

open PgVectorVoiceRegistry (lineClip lineRegistry)

/-- Two opposite voices are enrolled. -/
def oppositeVoices : List (String × VoiceCall ℚ ℚ) :=
  [("acme", .enroll "emp_2" [lineClip false] (some "Alice") none
      (fun n => toString n)),
    ("acme", .enroll "emp_1" [lineClip true] (some "Bob") none
      (fun n => toString n))]

theorem FakeVoiceRegistry.identify_openSet_opposite :
    Accepted (1 / 2) (1 / 10) (lineClip true)
      (lineRegistry.inMemory.history oppositeVoices "acme") "emp_1" := by
  obtain ⟨d, hd, hnamed, -⟩ := identify_openSet lineRegistry.inMemory rfl rfl (by norm_num)
    oppositeVoices "acme" (lineClip true)
  have htold : (lineRegistry.inMemory.identify "acme" (lineClip true)
      (lineRegistry.inMemory.history oppositeVoices)).toOption.map
        (fun d => (d.status, d.registrySpeakerId)) = some (.enrolled, some "emp_1") := by
    decide +kernel
  rw [hd] at htold
  exact ((hnamed "emp_1").mp (Prod.mk.inj (Option.some.inj htold))).2

end Sastt

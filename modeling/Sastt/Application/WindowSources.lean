import Sastt.Application.ConstrainedLinks
import Sastt.Application.RegionGroups
import Sastt.Application.SessionCalls

/-!
# The sources of a window are different people

Each source of a window is linked to a speaker, or a temporary speaker is created for it, or it
is nobody. A link is to a prototype, of which no two are of one speaker, and no two sources are
linked to one; and a temporary speaker is new. None of the calls that are made meanwhile merges
anybody. So the sources that are somebody are different people when the region is done
(`windowSources_separateAndLink`).
-/

namespace Sastt

open Method

variable {R V S : Type} [Field R] [LinearOrder R] [IsStrictOrderedRing R] [AddCommGroup V]
  [Module R V] [EmbeddingSpace R V]

namespace SessionSpeakerState

variable {st st' : SessionSpeakerState R V} {ids ids' : List String} {id : String}

/-- **The ids stand for different speakers.** -/
structure StandApart (st : SessionSpeakerState R V) (ids : List String) : Prop where
  registered : ∀ id ∈ ids, st.Registered id
  apart : (ids.map st.rootOf).Nodup

section

omit [AddCommGroup V] [Module R V] [EmbeddingSpace R V]

theorem standApart_nil (st : SessionSpeakerState R V) : st.StandApart [] :=
  ⟨fun _ hid => (List.not_mem_nil hid).elim, List.nodup_nil⟩

theorem StandApart.sublist (h : st.StandApart ids) (hsub : ids'.Sublist ids) :
    st.StandApart ids' where
  registered id hid := h.registered id (hsub.subset hid)
  apart := h.apart.sublist (hsub.map st.rootOf)

/-- Whoever joins the session stands for nobody else. -/
theorem StandApart.extend (h : st.StandApart ids) (hst : st.WellFormed) (hst' : st'.WellFormed)
    (hparent : st'.parentOf = st.parentOf) (hext : Extends st st') : st'.StandApart ids where
  registered id hid := hext.registered id (h.registered id hid)
  apart := by
    rw [rootOf_congr hst.ends hst'.ends hparent]
    exact h.apart

/-- **Somebody new is somebody else.** -/
theorem StandApart.insert {front back : List String} (h : st.StandApart (front ++ back))
    (hst : st.WellFormed) (hnew : ¬ st.Registered id) (hst' : st'.WellFormed)
    (hparent : st'.parentOf = st.parentOf) (hext : Extends st st') (hid : st'.Registered id) :
    st'.StandApart (front ++ id :: back) := by
  have hold := h.extend hst hst' hparent hext
  have hroot : st'.rootOf id = id := by
    rw [rootOf_congr hst.ends hst'.ends hparent, rootOf_of_not_registered hnew]
  have hfresh : id ∉ (front ++ back).map st'.rootOf := by
    rw [rootOf_congr hst.ends hst'.ends hparent]
    intro hmem
    obtain ⟨k, hk, hkid⟩ := List.mem_map.mp hmem
    obtain ⟨s, -, hs, -⟩ := hst.get_of_registered (h.registered k hk)
    rw [hkid] at hs
    exact hnew (Option.isSome_iff_exists.mpr ⟨s, hs⟩)
  have hperm : (front ++ id :: back).Perm (id :: (front ++ back)) := List.perm_middle
  refine ⟨fun k hk => ?_, ?_⟩
  · rcases List.mem_cons.mp (hperm.mem_iff.mp hk) with rfl | hk
    · exact hid
    · exact hold.registered k hk
  · rw [(hperm.map st'.rootOf).nodup_iff, List.map_cons, hroot]
    exact List.nodup_cons.mpr ⟨hfresh, hold.apart⟩

/-- A temporary speaker is new. -/
theorem createTemporarySpeaker_fresh {ulid : String} {s : SessionSpeaker R V}
    (h : createTemporarySpeaker ulid st = (.ok s, st')) :
    ¬ st.Registered s.sessionSpeakerId ∧ st'.Registered s.sessionSpeakerId := by
  unfold createTemporarySpeaker at h
  rw [read_bind] at h
  split at h
  · cases h
  · rw [modify_bind, SpeakerIdentityStateMachine.new, if_pos (by decide), ofExcept_ok_bind] at h
    obtain ⟨_, t, hregister, h⟩ := bind_eq_ok.mp h
    cases h
    unfold register at hregister
    rw [read_bind] at hregister
    split at hregister
    · cases hregister
    · next hfresh =>
      cases hregister
      exact ⟨hfresh, Option.isSome_iff_exists.mpr ⟨_, Function.update_self _ _ _⟩⟩

end

end SessionSpeakerState

open SessionSpeakerState

namespace Session

variable {ulids : ℕ → String} {s t : Session R V}

/-- Plain calls change nobody's pointer. -/
theorem Calls.parentOf (h : Calls ulids Op.Plain s t) (hs : s.speakers.WellFormed) :
    t.speakers.parentOf = s.speakers.parentOf := by
  induction h with
  | refl => rfl
  | tail hcalls hcall ih =>
    have hwf := (Calls.keeps hcalls hs).1
    rw [← ih]
    cases hcall with
    | draw => rfl
    | mint op hplain _ =>
      refine hwf.parentOf_step op ?_
      rintro a b reason rfl
      exact hplain
    | move op hplain _ =>
      refine hwf.parentOf_step op ?_
      rintro a b reason rfl
      exact hplain

/-- Plain calls bring nobody together. -/
theorem Calls.standApart {ids : List String} (h : Calls ulids Op.Plain s t)
    (hs : s.speakers.WellFormed) (hapart : s.speakers.StandApart ids) :
    t.speakers.StandApart ids :=
  hapart.extend hs (h.keeps hs).1 (h.parentOf hs) (h.keeps hs).2.1

end Session

namespace OfflinePipeline

open Session

variable {p : OfflinePipeline R} {adapters : PipelineAdapters R V S} {ulids : ℕ → String}
  {s t : Session R V}

/-! ## Who a source is -/

/-- **A source is the speaker it was linked to, or somebody new, or nobody.** -/
theorem identifySource_cases {source : SeparatedSource R V S} {link : LinkingDecision R}
    {speakerId : Option String} (hs : s.speakers.WellFormed)
    (h : identifySource ulids source link s = (.ok speakerId, t)) :
    speakerId = link.sessionSpeakerId
      ∨ link.sessionSpeakerId = none ∧ ∃ id, speakerId = some id
        ∧ ¬ s.speakers.Registered id ∧ t.speakers.Registered id := by
  unfold identifySource at h
  rw [read_bind] at h
  cases hembedding : source.embedding with
  | none =>
    rw [hembedding] at h
    cases hlink : link.sessionSpeakerId with
    | none | some id =>
      rw [hlink] at h
      cases h
      exact Or.inl rfl
  | some embedding =>
    rw [hembedding] at h
    cases hlink : link.sessionSpeakerId with
    | some id =>
      rw [hlink] at h
      obtain ⟨speaker, s₁, -, h⟩ := bind_eq_ok.mp h
      split_ifs at h
      all_goals
        obtain ⟨_, s₂, -, h⟩ := bind_eq_ok.mp h
        cases h
        exact Or.inl rfl
    | none =>
      rw [hlink] at h
      dsimp only at h
      split_ifs at h
      · obtain ⟨ulid, s₁, hulid, h⟩ := bind_eq_ok.mp h
        cases hulid
        obtain ⟨temporary, s₂, htemporary, h⟩ := bind_eq_ok.mp h
        obtain ⟨_, s₃, hbuffer, h⟩ := bind_eq_ok.mp h
        cases h
        have hcreate := FusionEngine.onSpeakers_eq_ok htemporary
        obtain ⟨hnew, hregistered⟩ := createTemporarySpeaker_fresh hcreate
        have hs₂ : s₂.speakers.WellFormed := by
          have hkeeps := (within_createTemporarySpeaker (ulids s.drawn) s.speakers hs).1
          rwa [hcreate] at hkeeps
        have hext := ((((sourceFrame_calls ulids).buffer _ _).rel hbuffer).keeps hs₂).2.1
        exact Or.inr ⟨rfl, _, rfl, hnew, hext.registered _ hregistered⟩
      · cases h
        exact Or.inl rfl

/-! ## Who the sources of a window are -/

/-- **The word groups of a window**: each is of a source of its own and has words, and no two of
the speakers they name are one person. -/
structure WindowSources (st : SessionSpeakerState R V) (groups : List (WordGroup R)) : Prop where
  tracks : (groups.map (fun g => g.sourceTrack)).Nodup
  apart : st.StandApart (groups.filterMap (fun g => g.sessionSpeakerId))
  spoken : ∀ g ∈ groups, g.isOverlap = true ∧ g.words ≠ []

/-- **The loop over the sources keeps them apart.** -/
theorem emitSources_apart {window : WindowContext R}
    {sources : List (SeparatedSource R V S × LinkingDecision R)} {assigned : List String}
    {result result' : CropResult R} (hs : s.speakers.WellFormed)
    (hapart : s.speakers.StandApart
      (assigned ++ sources.filterMap (fun x => x.2.sessionSpeakerId)))
    (h : p.emitSources adapters ulids window sources assigned result s = (.ok (true, result'), t)) :
    ∃ groups, result'.groups = result.groups ++ groups
      ∧ t.speakers.StandApart (assigned ++ groups.filterMap (fun g => g.sessionSpeakerId))
      ∧ (groups.map (fun g => g.sourceTrack)).Sublist (sources.map (fun x => some x.1.track))
      ∧ ∀ g ∈ groups, g.interval = window.owned ∧ g.isOverlap = true ∧ g.words ≠ [] := by
  induction sources generalizing assigned result s with
  | nil =>
    cases h
    exact ⟨[], (List.append_nil _).symm, hapart, List.Sublist.slnil, fun _ hg => nomatch hg⟩
  | cons linked rest ih =>
    obtain ⟨source, link⟩ := linked
    unfold emitSources at h
    obtain ⟨asr, s₁, hasr, h⟩ := bind_eq_ok.mp h
    obtain ⟨-, rfl⟩ := ofExcept_eq_ok.mp hasr
    have hdropped : s.speakers.StandApart
        (assigned ++ rest.filterMap (fun x => x.2.sessionSpeakerId)) :=
      hapart.sublist ((List.Sublist.refl assigned).append
        ((List.sublist_cons_self _ rest).filterMap _))
    split_ifs at h with hsilent hplausible
    · obtain ⟨groups, hgroups, happ, htracks, hspoken⟩ := ih hs hdropped h
      exact ⟨groups, hgroups, happ, htracks.cons _, hspoken⟩
    · cases h
    · obtain ⟨speakerId, s₁, hidentify, h⟩ := bind_eq_ok.mp h
      obtain ⟨_, s₂, hconstrain, h⟩ := bind_eq_ok.mp h
      have hcalls := ((sourceFrame_calls ulids).identifySource source link).rel hidentify
      have hcalls' := ((sourceFrame_calls ulids).constrainSource assigned speakerId).rel hconstrain
      have hs₁ := (hcalls.keeps hs).1
      have hs₂ := (hcalls'.keeps hs₁).1
      -- with the new one in place of the link, they are still apart
      have hplaced : s₁.speakers.StandApart ((assigned ++ speakerId.toList)
          ++ rest.filterMap (fun x => x.2.sessionSpeakerId)) := by
        rw [List.append_assoc]
        rcases identifySource_cases hs hidentify with rfl | ⟨-, id, rfl, hnew, hregistered⟩
        · have hsame : (assigned ++ (link.sessionSpeakerId.toList
              ++ rest.filterMap (fun x => x.2.sessionSpeakerId)))
              = assigned ++ ((source, link) :: rest).filterMap (fun x => x.2.sessionSpeakerId) := by
            cases hlink : link.sessionSpeakerId <;> simp [hlink]
          rw [hsame]
          exact hcalls.standApart hs hapart
        · exact hdropped.insert hs hnew hs₁ (hcalls.parentOf hs) (hcalls.keeps hs).2.1 hregistered
      obtain ⟨groups, hgroups, happ, htracks, hspoken⟩ :=
        ih hs₂ (hcalls'.standApart hs₁ hplaced) h
      refine ⟨sourceGroup window (wordsOwnedBy asr.words window.owned) asr source.track link
        speakerId :: groups, ?_, ?_, htracks.cons_cons _, ?_⟩
      · rw [hgroups, List.append_assoc]
        rfl
      · rw [List.append_assoc] at happ
        cases speakerId <;> exact happ
      · rintro g (_ | ⟨_, hg⟩)
        · exact ⟨rfl, rfl, hsilent⟩
        · exact hspoken g hg

/-- **The links of a window are to different people**, one for each source. -/
theorem standApart_linkWindow (hone : OneToOne p.linearSumAssignment) {c : RegionContext R S}
    {st : SessionSpeakerState R V} (hst : st.WellFormed) {window : TimeInterval}
    {sources : List (SeparatedSource R V S)} {previousMapping : PreviousMapping}
    {links : List (LinkingDecision R) × PreviousMapping}
    (h : p.linkWindow c st window sources previousMapping = .ok links) :
    links.1.length = sources.length
      ∧ st.StandApart (links.1.filterMap (fun d => d.sessionSpeakerId)) := by
  obtain ⟨speakers, hsub, hprototypes⟩ := p.exists_windowSpeakers st
  have howners := hst.nodup_owners hsub
  rw [← hprototypes] at howners
  have hkeys : ((p.windowPrototypes st).map SpeakerPrototype.speakerKey).Nodup := by
    refine List.Nodup.of_map st.rootOf ?_
    rwa [List.map_map]
  rw [linkWindow_eq] at h
  obtain ⟨result, hresult, rfl⟩ := except_map_eq_ok.mp h
  have hsafe := safeLinks_linkSources hone hkeys hresult
  -- whom a source is linked to has a prototype
  have hlinked : ∀ d ∈ result.decisions, ∀ id, d.sessionSpeakerId = some id →
      d.status = .linked ∧ ∃ prototype ∈ p.windowPrototypes st, prototype.speakerKey = id := by
    intro d hd id hid
    by_cases hstatus : d.status = .linked
    · obtain ⟨prototype, hmem, hkey⟩ := (hsafe.named d hd).1 hstatus
      exact ⟨hstatus, prototype, hmem, Option.some.inj (hkey.symm.trans hid)⟩
    · rw [(hsafe.named d hd).2 hstatus] at hid
      cases hid
  refine ⟨?_, fun id hid => ?_, ?_⟩
  · have hlength := congrArg List.length hsafe.one_each
    rw [List.length_map, List.length_range] at hlength
    exact hlength.trans (List.length_map _)
  · obtain ⟨d, hd, hid⟩ := List.mem_filterMap.mp hid
    obtain ⟨-, prototype, hmem, rfl⟩ := hlinked d hd id hid
    rw [hprototypes] at hmem
    obtain ⟨speaker, hspeaker, hp⟩ := List.mem_filterMap.mp hmem
    by_contra hnot
    have hroot := hst.rootOf_speakerKey (hsub.subset hspeaker) hp
    rw [rootOf_of_not_registered hnot] at hroot
    rw [hroot] at hnot
    exact hnot (Option.isSome_iff_exists.mpr
      ⟨speaker, (hst.mem_active.mp (hsub.subset hspeaker)).1⟩)
  · refine List.pairwise_map.mpr (List.pairwise_filterMap.mpr ?_)
    refine hsafe.one_to_one.imp_of_mem (fun {d d'} hd hd' hne => ?_)
    intro id hid id' hid' hroot
    obtain ⟨hstatus, prototype, hmem, rfl⟩ := hlinked d hd id hid
    obtain ⟨hstatus', prototype', hmem', rfl⟩ := hlinked d' hd' id' hid'
    refine hne hstatus hstatus' ?_
    rw [hid, hid', List.inj_on_of_nodup_map howners hmem hmem' hroot]

/-- Each source that is listened to has a track of its own. -/
theorem nodup_tracks_listenWindow {c : RegionContext R S} {separator : SpeechSeparator R S} {n : ℕ}
    {window owned : TimeInterval} {r : List String × List (SeparatedSource R V S)}
    (h : p.listenWindow adapters c separator n window owned = .ok r) :
    (r.2.map SeparatedSource.track).Nodup := by
  obtain ⟨crop, -, h⟩ := except_bind_eq_ok.mp h
  obtain ⟨batch, -, h⟩ := except_bind_eq_ok.mp h
  obtain ⟨sources, hsources, h⟩ := except_bind_eq_ok.mp h
  cases h
  have htracks : List.Forall₂ (· = ·)
      (((batch.sources.zip batch.sourceQuality).zipIdx).map Prod.snd)
      (sources.map SeparatedSource.track) := by
    refine List.forall₂_map_left_iff.mpr (List.forall₂_map_right_iff.mpr ?_)
    exact (forall₂_of_mapM hsources).imp (fun x source hone => (track_of_separatedSource hone).symm)
  rw [List.forall₂_eq_eq_eq] at htracks
  show (sources.map SeparatedSource.track).Nodup
  rw [← htracks, List.zipIdx_map_snd]
  exact List.nodup_range'

/-! ## A region, window by window -/

omit [AddCommGroup V] [Module R V] [EmbeddingSpace R V] in
theorem windowSources_nil (st : SessionSpeakerState R V) : WindowSources st [] where
  tracks := List.nodup_nil
  apart := standApart_nil st
  spoken _ hg := nomatch hg

omit [AddCommGroup V] [Module R V] [EmbeddingSpace R V] in
theorem WindowSources.sublist {st : SessionSpeakerState R V} {groups groups' : List (WordGroup R)}
    (h : WindowSources st groups) (hsub : groups'.Sublist groups) : WindowSources st groups' where
  tracks := h.tracks.sublist (hsub.map _)
  apart := h.apart.sublist (hsub.filterMap _)
  spoken g hg := h.spoken g (hsub.subset hg)

/-- The word groups of the slice one window owns. -/
def sliceGroups (groups : List (WordGroup R)) (slice : TimeInterval) : List (WordGroup R) :=
  groups.filter (fun g => g.interval = slice)

/-- **The loop over the windows keeps the sources of each apart.** -/
theorem separateWindows_apart (hone : OneToOne p.linearSumAssignment) {c : RegionContext R S}
    {separator : SpeechSeparator R S} {n : ℕ} {windows : List (TimeInterval × TimeInterval)}
    (howned : (windows.map Prod.snd).Nodup) {previousMapping : PreviousMapping}
    {result result' : CropResult R} (hs : s.speakers.WellFormed)
    (h : p.separateWindows adapters ulids c separator n windows previousMapping result s
      = (.ok (true, result'), t)) :
    ∃ groups, result'.groups = result.groups ++ groups
      ∧ (∀ g ∈ groups, g.interval ∈ windows.map Prod.snd)
      ∧ ∀ slice, WindowSources t.speakers (sliceGroups groups slice) := by
  induction windows generalizing n previousMapping result s with
  | nil =>
    cases h
    exact ⟨[], (List.append_nil _).symm, (fun _ hg => nomatch hg), fun _ => windowSources_nil _⟩
  | cons first rest ih =>
    obtain ⟨window, owned⟩ := first
    rw [List.map_cons, List.nodup_cons] at howned
    unfold separateWindows at h
    obtain ⟨⟨flags, sources⟩, s₁, hlistened, h⟩ := bind_eq_ok.mp h
    obtain ⟨hlisten, rfl⟩ := ofExcept_eq_ok.mp hlistened
    dsimp only at h
    rw [read_bind] at h
    obtain ⟨⟨decisions, mapping⟩, s₁, hlinked, h⟩ := bind_eq_ok.mp h
    obtain ⟨hlink, rfl⟩ := ofExcept_eq_ok.mp hlinked
    obtain ⟨⟨credible, result₁⟩, s₁, hemit, h⟩ := bind_eq_ok.mp h
    dsimp only at h
    split_ifs at h with hcredible
    · rw [hcredible] at hemit
      obtain ⟨hlength, hapart⟩ := standApart_linkWindow hone hs hlink
      dsimp only at hlength hapart
      have hids : (sources.zip decisions).filterMap (fun x => x.2.sessionSpeakerId)
          = decisions.filterMap (fun d => d.sessionSpeakerId) := by
        conv_rhs => rw [← List.map_snd_zip hlength.le, List.filterMap_map]
        rfl
      have htracks : ((sources.zip decisions).map (fun x => some x.1.track)).Nodup := by
        have hfst : (sources.zip decisions).map (fun x => some x.1.track)
            = (sources.map SeparatedSource.track).map some := by
          conv_rhs => rw [← List.map_fst_zip hlength.ge, List.map_map, List.map_map]
          rfl
        rw [hfst]
        exact (nodup_tracks_listenWindow hlisten).map (Option.some_injective ℕ)
      obtain ⟨here, hhere, happ, hsub, hspoken⟩ :=
        emitSources_apart hs (by rwa [List.nil_append, hids]) hemit
      have hs₁ := ((((sourceFrame_calls ulids).emitSources _ _ _ _).rel hemit).keeps hs).1
      have hlater := ((sourceFrame_calls ulids).separateWindows _ _ _ _ _ _).rel h
      obtain ⟨there, hthere, hslices, hsources⟩ := ih howned.2 hs₁ h
      refine ⟨here ++ there, ?_, ?_, fun slice => ?_⟩
      · rw [hthere, hhere, List.append_assoc]
      · intro g hg
        rcases List.mem_append.mp hg with hg | hg
        · exact List.mem_cons.mpr (Or.inl (hspoken g hg).1)
        · exact List.mem_cons_of_mem _ (hslices g hg)
      · unfold sliceGroups
        rw [List.filter_append]
        by_cases hslice : slice = owned
        · -- the slice of this window: none of the others owns it
          have hall : here.filter (fun g => g.interval = slice) = here :=
            List.filter_eq_self.mpr (fun g hg => by simp [hslice, (hspoken g hg).1])
          have hnone : there.filter (fun g => g.interval = slice) = [] := by
            refine List.filter_eq_nil_iff.mpr (fun g hg => ?_)
            simp only [decide_eq_true_eq]
            rintro rfl
            exact howned.1 (hslice ▸ hslices g hg)
          rw [hall, hnone, List.append_nil]
          exact ⟨htracks.sublist hsub, hlater.standApart hs₁ happ, fun g hg => (hspoken g hg).2⟩
        · have hnone : here.filter (fun g => g.interval = slice) = [] := by
            refine List.filter_eq_nil_iff.mpr (fun g hg => ?_)
            simp only [decide_eq_true_eq]
            rintro rfl
            exact hslice (hspoken g hg).1
          rw [hnone, List.nil_append]
          exact hsources slice
    · cases h

/-- A mixture is one group at most, and names nobody. -/
theorem windowSources_mixtureFallback {mono : AudioBuffer S} {region : OverlapRegion R}
    {decision : RouteDecision R} {warnings : List String} {r : List (WordGroup R) × List String}
    (st : SessionSpeakerState R V)
    (h : p.mixtureFallback adapters mono region decision warnings = .ok r) (slice : TimeInterval) :
    WindowSources st (sliceGroups r.1 slice) := by
  obtain ⟨crop, -, h⟩ := except_bind_eq_ok.mp h
  obtain ⟨result, -, h⟩ := except_bind_eq_ok.mp h
  dsimp only at h
  split_ifs at h with hsilent
  · cases h
    exact windowSources_nil st
  · obtain ⟨speech, -, h⟩ := except_bind_eq_ok.mp h
    split_ifs at h
    · cases h
      exact windowSources_nil st
    · cases h
      refine WindowSources.sublist ?_ List.filter_sublist
      refine ⟨List.nodup_singleton _, standApart_nil st, fun g hg => ?_⟩
      rw [List.mem_singleton.mp hg]
      exact ⟨rfl, hsilent⟩

/-- **The sources of each window of a region are different people when the region is done.** -/
theorem windowSources_separateAndLink (hone : OneToOne p.linearSumAssignment)
    {c : RegionContext R S} {padded : TimeInterval} {separator : SpeechSeparator R S}
    {r : List (WordGroup R) × List String × Bool} (hs : s.speakers.WellFormed)
    (h : p.separateAndLink adapters ulids c padded separator s = (.ok r, t))
    (slice : TimeInterval) : WindowSources t.speakers (sliceGroups r.1 slice) := by
  obtain ⟨windows, s₁, hcut, h⟩ := bind_eq_ok.mp h
  obtain ⟨hsplit, rfl⟩ := ofExcept_eq_ok.mp hcut
  obtain ⟨⟨credible, result⟩, s₂, hwindows, h⟩ := bind_eq_ok.mp h
  dsimp only at h
  split_ifs at h with hcredible
  · cases h
    rw [hcredible] at hwindows
    have howned : (windows.map Prod.snd).Nodup := by
      obtain ⟨stop, -, htiles⟩ := tiles_of_splitCrop hsplit
      refine List.pairwise_map.mpr ((List.pairwise_map.mp htiles.ordered).imp ?_)
      rintro w w' hbefore hsame
      exact absurd (hsame ▸ hbefore) (not_le.mpr w'.2.start_lt_end)
    obtain ⟨groups, hgroups, -, hapart⟩ := separateWindows_apart hone howned hs hwindows
    rw [List.nil_append] at hgroups
    rw [hgroups]
    exact hapart slice
  · obtain ⟨mixed, s₃, hheard, h⟩ := bind_eq_ok.mp h
    obtain ⟨hmixed, rfl⟩ := ofExcept_eq_ok.mp hheard
    cases h
    exact windowSources_mixtureFallback _ hmixed slice

end OfflinePipeline

end Sastt

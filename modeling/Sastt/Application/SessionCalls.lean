import Mathlib.Logic.Relation
import Sastt.Application.FusionMethods
import Sastt.Application.OfflineRun
import Sastt.Application.RegionFrames
import Sastt.Application.WriteFrames

/-!
# A pipeline only makes calls

Whatever a pipeline does to a session is a sequence of calls: it draws an id,
it calls a method of the speakers with the id it has just drawn, or it calls
one that needs no id (`Session.Call`). So what holds along its stages need be
proved of single calls. The stages up to fusion make plain calls only, which
register speakers, mark them and learn their voices, but neither merge nor
rename them (`Op.Plain`).

The first thing that follows is that every speaker id was drawn by the session
(`Session.Minted`), and so no id is registered twice.
-/

namespace Sastt

open Method

variable {R V S : Type} [Field R] [LinearOrder R] [IsStrictOrderedRing R] [AddCommGroup V]
  [Module R V] [EmbeddingSpace R V]

/-- **A plain call** neither merges speakers nor renames them. -/
def Op.Plain : Op R V → Prop
  | .createTemporarySpeaker _ | .ensureClusterSpeaker _ _ | .unattributedSpeaker _
  | .addCannotLink _ _ | .updatePrototype _ _ _ _ | .bufferProvisionalEmbedding _ _ => True
  | _ => False

/-! ## Who is registered by a call -/

namespace SessionSpeakerState

/-- Nobody is registered, but possibly a speaker under the given id. -/
def Registers (ulid : Option String) (st st' : SessionSpeakerState R V) : Prop :=
  ∀ id ∈ st'.order, id ∈ st.order ∨ ∃ u ∈ ulid, id = "sess_spk_" ++ u

section Registers

omit [AddCommGroup V] [Module R V] [EmbeddingSpace R V]

variable {ulid : Option String}

instance : Std.Refl (Registers (R := R) (V := V) ulid) := ⟨fun _ _ hid => Or.inl hid⟩

instance : IsTrans (SessionSpeakerState R V) (Registers ulid) :=
  ⟨fun _ _ _ h h' id hid => (h' id hid).elim (h id) Or.inr⟩

theorem rosterFrame_registers : RosterFrame (Registers (R := R) (V := V) ulid) where
  books _ _ _ ho _ _ hid := Or.inl (ho ▸ hid)
  write _ _ _ _ hid := Or.inl hid

/-- A speaker is registered under the id it was given. -/
theorem admits_registers {u : String} (hu : u ∈ ulid) :
    Admits (Registers (R := R) (V := V) ulid) u := by
  intro s hid _ _ _
  refine within_bind within_read (fun st => ?_)
  split
  · exact within_throw _
  · refine within_modify (fun st id hmem => ?_)
    rcases List.mem_append.mp hmem with hmem | hmem
    · exact Or.inl hmem
    · exact Or.inr ⟨u, hu, (List.mem_singleton.mp hmem).trans hid⟩

end Registers

/-- **A call registers at most the id it was given.** -/
theorem registers_step (st : SessionSpeakerState R V) (op : Op R V) :
    Registers op.ulid st (st.step op) :=
  rosterFrame_registers.step st op (fun _ hu => admits_registers hu)
    (fun _ _ _ _ _ hid => Or.inl hid)

end SessionSpeakerState

/-! ## Calls on a session -/

namespace Session

/-- **One call on a session.** -/
inductive Call (ulids : ℕ → String) (allowed : Op R V → Prop) : Session R V → Session R V → Prop
  | draw (s : Session R V) : Call ulids allowed s { s with drawn := s.drawn + 1 }
  /-- A method that may register a speaker is given the id just drawn. -/
  | mint (s : Session R V) (op : Op R V) (hallowed : allowed op)
      (hulid : op.ulid = some (ulids s.drawn)) :
      Call ulids allowed s ⟨s.speakers.step op, s.drawn + 1⟩
  | move (s : Session R V) (op : Op R V) (hallowed : allowed op) (hulid : op.ulid = none) :
      Call ulids allowed s ⟨s.speakers.step op, s.drawn⟩

/-- A sequence of calls. -/
def Calls (ulids : ℕ → String) (allowed : Op R V → Prop) : Session R V → Session R V → Prop :=
  Relation.ReflTransGen (Call ulids allowed)

variable {ulids : ℕ → String} {allowed : Op R V → Prop}

instance : Std.Refl (Calls ulids allowed) := ⟨fun _ => .refl⟩

instance : IsTrans (Session R V) (Calls ulids allowed) := ⟨fun _ _ _ => .trans⟩

/-- **Every speaker id was drawn.** -/
def Minted (ulids : ℕ → String) (s : Session R V) : Prop :=
  ∀ id ∈ s.speakers.order, ∃ i < s.drawn, id = "sess_spk_" ++ ulids i

/-- What a call keeps of the session. -/
theorem Call.keeps {s t : Session R V} (h : Call ulids allowed s t) (hs : s.speakers.WellFormed) :
    t.speakers.WellFormed ∧ SessionSpeakerState.Extends s.speakers t.speakers
      ∧ s.drawn ≤ t.drawn := by
  cases h with
  | draw => exact ⟨hs, .refl _, Nat.le_succ _⟩
  | mint op _ _ =>
    obtain ⟨hwell, hext, -⟩ := SessionSpeakerState.step_cases hs op
    exact ⟨hwell, hext, Nat.le_succ _⟩
  | move op _ _ =>
    obtain ⟨hwell, hext, -⟩ := SessionSpeakerState.step_cases hs op
    exact ⟨hwell, hext, le_refl _⟩

theorem Call.minted {s t : Session R V} (h : Call ulids allowed s t) (hs : s.Minted ulids) :
    t.Minted ulids := by
  have hold : ∀ id ∈ s.speakers.order, ∃ i < s.drawn + 1, id = "sess_spk_" ++ ulids i := by
    intro id hid
    obtain ⟨i, hi, hi'⟩ := hs id hid
    exact ⟨i, Nat.lt_succ_of_lt hi, hi'⟩
  cases h with
  | draw => exact hold
  | mint op _ hulid =>
    intro id hid
    rcases SessionSpeakerState.registers_step s.speakers op id hid with hid | ⟨u, hu, hid⟩
    · exact hold id hid
    · rw [hulid] at hu
      cases hu
      exact ⟨s.drawn, Nat.lt_succ_self _, hid⟩
  | move op _ hulid =>
    intro id hid
    rcases SessionSpeakerState.registers_step s.speakers op id hid with hid | ⟨u, hu, -⟩
    · exact hs id hid
    · rw [hulid] at hu
      cases hu

/-- **What calls keep of the session.** -/
theorem Calls.keeps {s t : Session R V} (h : Calls ulids allowed s t)
    (hs : s.speakers.WellFormed) : t.speakers.WellFormed
      ∧ SessionSpeakerState.Extends s.speakers t.speakers ∧ s.drawn ≤ t.drawn := by
  induction h with
  | refl => exact ⟨hs, .refl _, le_refl _⟩
  | tail _ hcall ih =>
    obtain ⟨hwell, hext, hdrawn⟩ := ih
    obtain ⟨hwell', hext', hdrawn'⟩ := hcall.keeps hwell
    exact ⟨hwell', hext.trans hext', hdrawn.trans hdrawn'⟩

/-- **Calls mint ids that were drawn.** -/
theorem Calls.minted {s t : Session R V} (h : Calls ulids allowed s t) (hs : s.Minted ulids) :
    t.Minted ulids := by
  induction h with
  | refl => exact hs
  | tail _ hcall ih => exact hcall.minted ih

/-- More calls may be allowed. -/
theorem Calls.mono {more : Op R V → Prop} (hmore : ∀ op, allowed op → more op) {s t : Session R V}
    (h : Calls ulids allowed s t) : Calls ulids more s t := by
  induction h with
  | refl => exact .refl
  | tail _ hcall ih =>
    refine ih.tail ?_
    cases hcall with
    | draw => exact .draw _
    | mint op hop hulid => exact .mint _ op (hmore op hop) hulid
    | move op hop hulid => exact .move _ op (hmore op hop) hulid

theorem within_draw : Within (Calls ulids allowed) (newUlid ulids) := fun s => .single (.draw s)

/-- A call of a method that needs no id. -/
theorem within_move {α : Type} {m : Method PyError (SessionSpeakerState R V) α} (op : Op R V)
    (hallowed : allowed op) (hulid : op.ulid = none) (hm : ∀ st, (m st).2 = st.step op) :
    Within (Calls ulids allowed) (onSpeakers m) := fun s => by
  show Calls ulids allowed s ⟨(m s.speakers).2, s.drawn⟩
  rw [hm]
  exact .single (.move s op hallowed hulid)

/-- A call of a method with the id that was drawn for it. -/
theorem within_mint {α : Type} {m : String → Method PyError (SessionSpeakerState R V) α}
    (op : String → Op R V) (hallowed : ∀ ulid, allowed (op ulid))
    (hulid : ∀ ulid, (op ulid).ulid = some ulid)
    (hm : ∀ ulid st, (m ulid st).2 = st.step (op ulid)) :
    Within (Calls ulids allowed) (newUlid ulids >>= fun ulid => onSpeakers (m ulid)) := fun s => by
  show Calls ulids allowed s ⟨(m (ulids s.drawn) s.speakers).2, s.drawn + 1⟩
  rw [hm]
  exact .single (.mint s _ (hallowed _) (hulid _))

theorem within_ensureCluster (clusterId : String) :
    Within (Calls ulids Op.Plain) (newUlid ulids >>= fun ulid =>
      onSpeakers (R := R) (V := V) (SessionSpeakerState.ensureClusterSpeaker ulid clusterId)) :=
  within_mint (.ensureClusterSpeaker · clusterId) (fun _ => trivial) (fun _ => rfl) (fun _ _ => rfl)

theorem within_markDifferent (a b : String) :
    Within (Calls ulids Op.Plain)
      (onSpeakers (R := R) (V := V) (SessionSpeakerState.addCannotLink a b)) :=
  within_move (.addCannotLink a b) trivial rfl (fun _ => rfl)

theorem within_learn (id : String) (embedding : SpeakerEmbedding R V) (margin : Option R)
    (passed : Bool) :
    Within (Calls ulids Op.Plain)
      (onSpeakers (SessionSpeakerState.updatePrototype id embedding margin passed)) :=
  within_move (.updatePrototype id embedding margin passed) trivial rfl (fun _ => rfl)

theorem within_buffer (id : String) (embedding : SpeakerEmbedding R V) :
    Within (Calls ulids Op.Plain)
      (onSpeakers (SessionSpeakerState.bufferProvisionalEmbedding id embedding)) :=
  within_move (.bufferProvisionalEmbedding id embedding) trivial rfl (fun _ => rfl)

/-! ## The stages of a pipeline -/

/-- **Fusion makes plain calls.** -/
theorem steps_calls (ulids : ℕ → String) :
    FusionEngine.Steps ulids (Calls (R := R) (V := V) ulids Op.Plain) where
  newUlid := within_draw
  attributeWord word turns previous := by
    refine within_bind within_read (fun s => ?_)
    split
    · exact within_pure _
    · exact within_bind_two (within_ensureCluster _) (fun _ => within_pure _)
  fallbackSpeakerId := by
    refine within_bind within_read (fun s => ?_)
    split
    · exact within_pure _
    · exact within_bind_two (within_mint (.unattributedSpeaker ·) (fun _ => trivial)
        (fun _ => rfl) (fun _ _ => rfl)) (fun _ => within_pure _)

/-- **Registering the speakers of the clusters makes plain calls.** -/
theorem within_buildGlobalSpeakers (adapters : PipelineAdapters R V S) (ulids : ℕ → String)
    (diarization : DiarizationResult R) (regions : List (OverlapRegion R)) (mono : AudioBuffer S) :
    Within (Calls ulids Op.Plain) (buildGlobalSpeakers adapters ulids diarization regions
      mono) := by
  refine within_bind (within_forEach (fun cluster _ => within_bind_two
    (within_ensureCluster cluster) (fun _ => within_pure _))) (fun _ =>
      within_bind (within_forEach (fun clusters _ => ?_)) (fun _ =>
        within_forEach (fun cluster _ => ?_)))
  · refine within_bind within_read (fun s => ?_)
    split
    · exact within_markDifferent _ _
    · exact within_pure _
  · refine within_bind within_read (fun s => ?_)
    split
    · exact within_pure _
    · refine within_forEach (fun interval _ => within_bind within_read (fun s => ?_))
      split
      · exact within_pure _
      · refine within_bind (within_ofExcept _) (fun embedding => ?_)
        split
        · exact within_pure _
        · exact within_bind (within_learn _ _ _ _) (fun _ => within_pure _)

end Session

namespace OfflinePipeline

open Session

variable {p : OfflinePipeline R} {adapters : PipelineAdapters R V S} {ulids : ℕ → String}

theorem sourceFrame_calls (ulids : ℕ → String) :
    SourceFrame ulids (Calls (R := R) (V := V) ulids Op.Plain) where
  create := within_mint (.createTemporarySpeaker ·) (fun _ => trivial) (fun _ => rfl)
    (fun _ _ => rfl)
  mark := within_markDifferent
  learn := within_learn
  buffer := within_buffer

/-- **Handling an overlap region makes plain calls.** -/
theorem calls_handleOverlapRegion (c : RegionContext R S) :
    Within (Calls ulids Op.Plain) (p.handleOverlapRegion adapters ulids c) :=
  (sourceFrame_calls ulids).handleOverlapRegion c

end OfflinePipeline

end Sastt

import Sastt.Application.SessionRuns

/-!
# Prototype updates, total and atomic

Both update methods look a speaker up, pass their gates and build its next
centroid. Read as total functions they return a verdict on every embedding
the constructor admits, and change a speaker's evidence only when they
accept one (`UpdatesTotally`).

The gates do not look at the direction of an embedding, nor at its quality,
and the centroid is a normalised weighted sum, which can vanish. So the
reading is right exactly when a gate refuses the embedding or the sum does
not vanish (`updates_totally_iff`), at every reachable state and for both
methods. Where it does vanish the method raises, and when there was a
centroid before, it has entered the history by then
(`update_raises_on_opposite`).
-/

namespace Sastt

variable {R V : Type} [Field R] [LinearOrder R] [IsStrictOrderedRing R] [AddCommGroup V]
  [Module R V] [EmbeddingSpace R V]

namespace SessionSpeakerState

/-- What is known about the speaker an id stands for: its prototype, and
those it had before. -/
def evidenceOf (st : SessionSpeakerState R V) (id : String) :
    Except PyError (Option (SpeakerPrototype R V) × List (SpeakerPrototype R V)) :=
  (st.get id).map (fun s => (s.prototype, s.prototypeHistory))

/-- **The update is total and atomic**: it returns, and what it did not
accept leaves no trace in the speaker's evidence. -/
def UpdatesTotally (update : Method PyError (SessionSpeakerState R V) PrototypeUpdate)
    (st : SessionSpeakerState R V) (id : String) : Prop :=
  ∃ u st', update st = (.ok u, st')
    ∧ (u.accepted = false → st'.evidenceOf id = st.evidenceOf id)

variable {st : SessionSpeakerState R V} {id : String} {s : SessionSpeaker R V}

/-- A gated update is total unless its gate lets a degenerate embedding
pass. -/
theorem gatedUpdate_totally_iff {e : SpeakerEmbedding R V}
    {gate : SessionSpeakerState R V → SessionSpeaker R V → Option String}
    (h : st.WellFormed) (hget : st.get id = .ok s)
    (hgate : gate st s = none → e.modelVersion = st.embeddingModelVersion) :
    UpdatesTotally (gatedUpdate gate id e) st id ↔ ¬ (gate st s = none ∧ Degenerate s e) := by
  obtain ⟨r, st', hrun, -, -, hcases⟩ := gatedUpdate_cases h hget hgate
  unfold UpdatesTotally
  rw [hrun]
  rcases hcases with ⟨hrefused, rfl, u, rfl, -⟩ | ⟨hpass, hd, err, rfl⟩ | ⟨-, hd, u, rfl, hacc⟩
  · exact ⟨fun _ hc => hrefused hc.1, fun _ => ⟨u, st', rfl, fun _ => rfl⟩⟩
  · refine ⟨?_, fun hc => absurd ⟨hpass, hd⟩ hc⟩
    rintro ⟨u, st'', hok, -⟩
    cases hok
  · refine ⟨fun _ hc => hd hc.2, fun _ => ⟨u, st', rfl, fun hrefused => ?_⟩⟩
    rw [hacc] at hrefused
    cases hrefused

/-- **Both updates are total and atomic exactly where no degenerate
embedding passes their gates**: none of quality zero for a speaker without a
prototype, and none that cancels the centroid of one with a prototype. -/
theorem updates_totally_iff (e : SpeakerEmbedding R V) (margin : Option R) (passed : Bool)
    (hreach : st.Reachable) (hget : st.get id = .ok s) :
    (UpdatesTotally (updatePrototype id e margin passed) st id
        ↔ ¬ (st.updateGate s e margin passed = none ∧ Degenerate s e))
      ∧ (UpdatesTotally (bufferProvisionalEmbedding id e) st id
        ↔ ¬ (st.bufferGate s e = none ∧ Degenerate s e)) := by
  rw [updatePrototype_eq, bufferProvisionalEmbedding_eq]
  exact ⟨gatedUpdate_totally_iff hreach.wellFormed hget version_of_updateGate,
    gatedUpdate_totally_iff hreach.wellFormed hget version_of_bufferGate⟩

/-- Two seconds of clean speech, in one of the two directions of a line. -/
def cleanVoice (forward : Bool) : SpeakerEmbedding ℚ ℚ :=
  (lineVoice forward).slice 2000 .clean none none "model"

/-- A session with one speaker, whose centroid points one way. -/
def oneSpeaker : SessionSpeakerState ℚ ℚ :=
  (new "session" {} "model").run
    [.createSessionSpeaker "a" none none,
      .updatePrototype "sess_spk_a" (cleanVoice true) none true]

/-- The two updates of a registered speaker. -/
theorem updates_totally_iff_of_oneSpeaker :
    ∃ s, oneSpeaker.get "sess_spk_a" = .ok s ∧
      let e := cleanVoice true
      (UpdatesTotally (updatePrototype "sess_spk_a" e none true) oneSpeaker "sess_spk_a"
        ↔ ¬ (oneSpeaker.updateGate s e none true = none ∧ Degenerate s e))
      ∧ (UpdatesTotally (bufferProvisionalEmbedding "sess_spk_a" e) oneSpeaker "sess_spk_a"
        ↔ ¬ (oneSpeaker.bufferGate s e = none ∧ Degenerate s e)) := by
  have hreach : oneSpeaker.Reachable := ⟨"session", {}, "model", _, rfl⟩
  have hok : (oneSpeaker.get "sess_spk_a").isOk = true := by decide +kernel
  rcases hget : oneSpeaker.get "sess_spk_a" with err | s
  · rw [hget] at hok
    cases hok
  · exact ⟨s, rfl, updates_totally_iff _ none true hreach hget⟩

/-- **An embedding that points the other way raises**: neither its direction
nor the vanishing sum is looked at before the history is extended. -/
theorem update_raises_on_opposite :
    ¬ UpdatesTotally (updatePrototype "sess_spk_a" (cleanVoice false) none true)
      oneSpeaker "sess_spk_a" := by
  rintro ⟨u, st', hok, -⟩
  have hraises : (updatePrototype "sess_spk_a" (cleanVoice false) none true
      oneSpeaker).1.isOk = false := by decide +kernel
  rw [hok] at hraises
  cases hraises

end SessionSpeakerState

end Sastt

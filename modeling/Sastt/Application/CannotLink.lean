import Sastt.Application.SessionRuns

/-!
# Cannot-link constraints along a session

Two speakers heard at the same time are two people, and `addCannotLink`
records it by marking each with the other's id. What the marks are for is
that no later merge brings the two under one id (`CannotLinkHolds`).

A merge checks the marks of its source against the *id* of its target, but a
mark is the id its owner's peer had when the constraint was recorded, and
the peer may have been merged since. So the constraints hold along a run
exactly when every merge that goes through respects the marks as `get`
resolves them (`cannotLinkHolds_iff`), and a session can lose one
(`cannotLink_lost`): `a` and `b` are held apart, `a` is merged into `c`,
which is handed the mark `b` – but `b` still carries the mark `a`, and is
merged into `c` after it.
-/

namespace Sastt

variable {R V : Type} [Field R] [LinearOrder R] [IsStrictOrderedRing R]

namespace SessionSpeakerState

/-! ## The invariant -/

/-- No mark of the speaker `a` stands for resolves to the speaker `b` stands
for. -/
def MarksResolveElsewhere (st : SessionSpeakerState R V) (a b : String) : Prop :=
  ∀ A B, st.get a = .ok A → st.get b = .ok B →
    ∀ x ∈ A.cannotLink, ∀ X, st.get x = .ok X → X.sessionSpeakerId ≠ B.sessionSpeakerId

/-- **The constraints hold, and the marks of the speakers say exactly which
speakers they hold apart.** -/
structure Constrained (st : SessionSpeakerState R V) (apart : String → String → Prop) :
    Prop where
  ends : st.Ends
  marked : Marked (st.forest ends) st.marksOf apart
  separated : Separated (st.forest ends) apart

section Invariant

variable {st st' : SessionSpeakerState R V} {apart : String → String → Prop}

/-- Without speakers there are no constraints. -/
theorem constrained_new (sessionId : String) (config : SasttConfig R) (version : String) :
    Constrained (new sessionId config version : SessionSpeakerState R V) (fun _ _ => False) where
  ends _ := rfl
  marked := ⟨nofun, fun _ x _ hx => absurd hx (Finset.notMem_empty x), nofun⟩
  separated := nofun

/-- The invariant speaks of pointers and marks only. -/
theorem Constrained.congr (hc : Constrained st apart) (h' : st'.WellFormed)
    (hp : st'.parentOf = st.parentOf) (hm : st'.marksOf = st.marksOf) :
    Constrained st' apart where
  ends := h'.ends
  marked := by
    rw [hm]
    exact hc.marked.congr hp
  separated := hc.separated.congr hp

theorem Constrained.rootOf_ne (hc : Constrained st apart) {a b : String} (hab : apart a b) :
    st.rootOf a ≠ st.rootOf b := by
  rw [rootOf_eq hc.ends, rootOf_eq hc.ends]
  exact hc.separated a b hab

/-- For a merge that goes through, respecting the marks as `get` resolves
them is respecting them in the forest. -/
theorem respects_iff (h : st.WellFormed) {a b : String} (hs : st.MergeSucceeds a b) :
    Respects (st.forest h.ends) st.marksOf (st.rootOf a) (st.rootOf b)
      ↔ st.MarksResolveElsewhere a b := by
  obtain ⟨A, B, ha, hb, -⟩ := hs
  obtain ⟨-, hA, -, -⟩ := h.get_eq_ok ha
  obtain ⟨-, hB, hBid, -⟩ := h.get_eq_ok hb
  unfold Respects
  rw [marksOf_of_speaker hA]
  constructor
  · intro hr A' B' ha' hb' x hx X hX
    rw [ha] at ha'
    rw [hb] at hb'
    cases ha'
    cases hb'
    rw [(h.get_eq_ok hX).2.2.1, hBid, rootOf_eq h.ends]
    exact hr x hx
  · intro hr x hx
    rw [← rootOf_eq h.ends]
    by_cases hreg : st.Registered x
    · obtain ⟨X, hX, -, hXid, -⟩ := h.get_of_registered hreg
      rw [← hXid, ← hBid]
      exact hr A B ha hb x hx X hX
    · rw [rootOf_of_not_registered hreg]
      rintro rfl
      exact hreg (Option.isSome_iff_exists.mpr ⟨B, hB⟩)

/-- The pointers after a merge are those of the linked forest. -/
theorem constrained_merge_iff (h : st.WellFormed) (h' : st'.WellFormed)
    (hc : Constrained st apart) {a b : String} (hs : st.MergeSucceeds a b)
    (hp : st'.parentOf = Function.update st.parentOf (st.rootOf a) (some (st.rootOf b)))
    (hm : st'.marksOf = handMarks st.marksOf (st.rootOf a) (st.rootOf b)) :
    (st.MarksResolveElsewhere a b → Constrained st' apart)
      ∧ ((∀ x y, apart x y → st'.rootOf x ≠ st'.rootOf y) → st.MarksResolveElsewhere a b) := by
  obtain ⟨A, B, ha, hb, hallow⟩ := id hs
  have hne : st.rootOf a ≠ st.rootOf b := by
    rw [← (h.get_eq_ok ha).2.2.1, ← (h.get_eq_ok hb).2.2.1]
    exact hallow.1
  have hlink := hc.marked.separated_link_iff (h.parentOf_rootOf a) (h.parentOf_rootOf b) hne
    hc.separated
  have hmarked := fun hr => hc.marked.link (h.parentOf_rootOf a) (h.parentOf_rootOf b) hne hr
  rw [← respects_iff h hs]
  refine ⟨fun hr => ⟨h'.ends, ?_, (hlink.mpr hr).congr hp⟩, fun hsep => hlink.mp ?_⟩
  · rw [hm]
    exact (hmarked hr).congr hp
  · refine Separated.congr (f := st'.forest h'.ends) (fun x y hxy => ?_) hp.symm
    rw [← rootOf_eq, ← rootOf_eq]
    exact hsep x y hxy

end Invariant

/-! ## Runs -/

variable [AddCommGroup V] [Module R V] [EmbeddingSpace R V]

/-- **The constraints hold along a run**: ids that stood for different
speakers when they were constrained do so at every later point. -/
def CannotLinkHolds (start : SessionSpeakerState R V) (ops : List (Op R V)) : Prop :=
  ∀ pre a b mid, pre ++ .addCannotLink a b :: mid <+: ops → (start.run pre).Different a b →
    (start.run (pre ++ .addCannotLink a b :: mid)).Different a b

/-- Every merge of the run that goes through respects the marks of its
source as they resolve. -/
def MergesRespectMarks (start : SessionSpeakerState R V) (ops : List (Op R V)) : Prop :=
  ∀ pre a b reason, pre ++ [.merge a b reason] <+: ops → (start.run pre).MergeSucceeds a b →
    (start.run pre).MarksResolveElsewhere a b

/-- The run recorded a constraint between `a` and `b`. -/
def Recorded (start : SessionSpeakerState R V) (ops : List (Op R V)) (a b : String) : Prop :=
  ∃ pre post, ops = pre ++ .addCannotLink a b :: post ∧ (start.run pre).Different a b

/-- The constraints of a run, in both orders. -/
def Apart (start : SessionSpeakerState R V) (ops : List (Op R V)) (a b : String) : Prop :=
  Recorded start ops a b ∨ Recorded start ops b a

section Recording

variable {start : SessionSpeakerState R V} {ops : List (Op R V)} {op : Op R V} {a b : String}

theorem recorded_nil : ¬ Recorded start [] a b := by
  rintro ⟨pre, post, hops, -⟩
  simp at hops

/-- One more call records the constraint it adds. -/
theorem recorded_append_singleton : Recorded start (ops ++ [op]) a b
    ↔ Recorded start ops a b ∨ (op = .addCannotLink a b ∧ (start.run ops).Different a b) := by
  constructor
  · rintro ⟨pre, post, hops, hd⟩
    rcases List.eq_nil_or_concat post with rfl | ⟨post, last, rfl⟩
    · obtain ⟨rfl, hop⟩ := List.append_inj' hops rfl
      exact Or.inr ⟨List.singleton_inj.mp hop, hd⟩
    · rw [List.concat_eq_append, ← List.cons_append, ← List.append_assoc] at hops
      exact Or.inl ⟨pre, post, (List.append_inj' hops rfl).1, hd⟩
  · rintro (⟨pre, post, rfl, hd⟩ | ⟨rfl, hd⟩)
    · exact ⟨pre, post ++ [op], by simp, hd⟩
    · exact ⟨ops, [], rfl, hd⟩

/-- A call that records nothing leaves the constraints as they were. -/
theorem apart_append_of_not_recording
    (h : ∀ a b, op = .addCannotLink a b → ¬ (start.run ops).Different a b) :
    Apart start (ops ++ [op]) = Apart start ops := by
  have hrec : Recorded start (ops ++ [op]) = Recorded start ops := by
    funext a b
    refine propext (recorded_append_singleton.trans ⟨?_, Or.inl⟩)
    rintro (hr | ⟨hop, hd⟩)
    · exact hr
    · exact absurd hd (h a b hop)
  unfold Apart
  rw [hrec]

/-- A call that records a constraint adds it in both orders. -/
theorem apart_append_of_recording (hd : (start.run ops).Different a b) :
    Apart start (ops ++ [.addCannotLink a b]) = insertPair (Apart start ops) a b := by
  funext x y
  unfold Apart insertPair
  rw [recorded_append_singleton, recorded_append_singleton]
  refine propext ⟨?_, ?_⟩
  · rintro ((h | ⟨h, -⟩) | (h | ⟨h, -⟩))
    · exact Or.inl (Or.inl h)
    · cases h
      exact Or.inr (Or.inl ⟨rfl, rfl⟩)
    · exact Or.inl (Or.inr h)
    · cases h
      exact Or.inr (Or.inr ⟨rfl, rfl⟩)
  · rintro ((h | h) | ⟨rfl, rfl⟩ | ⟨rfl, rfl⟩)
    · exact Or.inl (Or.inl h)
    · exact Or.inr (Or.inl h)
    · exact Or.inl (Or.inr ⟨rfl, hd⟩)
    · exact Or.inr (Or.inr ⟨rfl, hd⟩)

end Recording

section Runs

variable {start : SessionSpeakerState R V} {ops : List (Op R V)} {op : Op R V}

theorem MergesRespectMarks.of_prefix {more : List (Op R V)}
    (h : MergesRespectMarks start more) (hle : ops <+: more) : MergesRespectMarks start ops :=
  fun pre a b reason hpre => h pre a b reason (hpre.trans hle)

theorem CannotLinkHolds.of_prefix {more : List (Op R V)} (h : CannotLinkHolds start more)
    (hle : ops <+: more) : CannotLinkHolds start ops :=
  fun pre a b mid hpre => h pre a b mid (hpre.trans hle)

/-- **One call keeps the constraints**, provided that a merge respects the
marks. -/
theorem constrained_step (h : (start.run ops).WellFormed)
    (hc : Constrained (start.run ops) (Apart start ops))
    (hr : ∀ a b reason, op = .merge a b reason → (start.run ops).MergeSucceeds a b →
      (start.run ops).MarksResolveElsewhere a b) :
    Constrained (start.run (ops ++ [op])) (Apart start (ops ++ [op])) := by
  rw [run_append, run_singleton]
  obtain ⟨h', -, heff⟩ := step_cases h op
  cases heff with
  | quiet _ hq hmark hmerge =>
    rw [apart_append_of_not_recording hmark]
    exact hc.congr h' hq.parent hq.marks
  | marked a b hd hp hm =>
    rw [apart_append_of_recording hd]
    have hne : (start.run ops).rootOf a ≠ (start.run ops).rootOf b := (h.different_iff.mp hd).2.2
    rw [rootOf_eq h.ends, rootOf_eq h.ends] at hm hne
    refine ⟨h'.ends, ?_, ?_⟩
    · rw [hm]
      exact (hc.marked.insert_pair hne).congr hp
    · refine Separated.congr (f := (start.run ops).forest h.ends) ?_ hp
      rintro x y (hxy | ⟨rfl, rfl⟩ | ⟨rfl, rfl⟩)
      · exact hc.separated x y hxy
      · exact hne
      · exact hne.symm
  | merged a b reason hs hp hm =>
    have hmark : ∀ x y, (.merge a b reason : Op R V) = .addCannotLink x y →
        ¬ (start.run ops).Different x y := nofun
    rw [apart_append_of_not_recording hmark]
    exact (constrained_merge_iff h h' hc hs hp hm).1 (hr a b reason rfl hs)

variable {sessionId version : String} {config : SasttConfig R}

/-- **A run whose merges respect the marks keeps the constraints.** -/
theorem constrained_run (hr : MergesRespectMarks (new sessionId config version) ops) :
    Constrained ((new sessionId config version : SessionSpeakerState R V).run ops)
      (Apart (new sessionId config version) ops) := by
  induction ops using List.reverseRecOn with
  | nil =>
    have hnone : Apart (new sessionId config version : SessionSpeakerState R V) []
        = fun _ _ => False := by
      funext a b
      exact propext ⟨fun h => h.elim recorded_nil recorded_nil, False.elim⟩
    rw [hnone]
    exact constrained_new sessionId config version
  | append_singleton ops op ih =>
    refine constrained_step ((wellFormed_new _ _ _).run ops)
      (ih (hr.of_prefix (List.prefix_append ops [op]))) ?_
    rintro a b reason rfl
    exact hr ops a b reason (List.prefix_refl _)

theorem mergesRespectMarks_of_holds (hh : CannotLinkHolds (new sessionId config version) ops) :
    MergesRespectMarks (new sessionId config version) ops := by
  induction ops using List.reverseRecOn with
  | nil =>
    intro pre a b reason hpre
    simp at hpre
  | append_singleton ops op ih =>
    have hops := ih (hh.of_prefix (List.prefix_append ops [op]))
    intro pre a b reason hpre hs
    rcases List.prefix_concat_iff.mp hpre with heq | hle
    · obtain ⟨rfl, hop⟩ := List.append_inj' heq rfl
      cases List.singleton_inj.mp hop
      have h := (wellFormed_new sessionId config version).run pre
      obtain ⟨h', -, heff⟩ := step_cases h (.merge a b reason)
      cases heff with
      | quiet _ _ _ hmerge => exact absurd hs (hmerge a b reason rfl)
      | merged _ _ _ _ hp hm =>
        -- every constraint recorded so far still holds after the merge
        refine (constrained_merge_iff h h' (constrained_run hops) hs hp hm).2 ?_
        have hrec : ∀ x y, Recorded (new sessionId config version) pre x y →
            (((new sessionId config version).run pre).step (.merge a b reason)).Different x y := by
          rintro x y ⟨front, post, rfl, hd⟩
          have := hh front x y (post ++ [.merge a b reason]) (by simp) hd
          rwa [← List.cons_append, ← List.append_assoc, run_append, run_singleton] at this
        rintro x y (hxy | hxy)
        · exact (h'.different_iff.mp (hrec x y hxy)).2.2
        · exact (h'.different_iff.mp (hrec y x hxy)).2.2.symm
    · exact hops pre a b reason hle hs

/-- **The constraints of a session hold exactly when every merge that goes
through respects the marks as they resolve.** -/
theorem cannotLinkHolds_iff (sessionId : String) (config : SasttConfig R) (version : String)
    (ops : List (Op R V)) :
    CannotLinkHolds (new sessionId config version) ops
      ↔ MergesRespectMarks (new sessionId config version) ops := by
  refine ⟨mergesRespectMarks_of_holds, fun hr pre a b mid hpre hd => ?_⟩
  have h := (wellFormed_new (V := V) sessionId config version).run pre
  have hregistered := Extends.run h (.addCannotLink a b :: mid)
  rw [← run_append] at hregistered
  obtain ⟨ha, hb, -⟩ := h.different_iff.mp hd
  have hc := constrained_run (hr.of_prefix hpre)
  exact ((wellFormed_new sessionId config version).run _).different_iff.mpr
    ⟨hregistered.registered a ha, hregistered.registered b hb,
      hc.rootOf_ne (Or.inl ⟨pre, mid, rfl, hd⟩)⟩

end Runs

/-- A session in which one of two speakers held apart is merged into a
third. -/
theorem cannotLinkHolds_iff_of_one_merge :
    CannotLinkHolds (R := ℚ) (V := ℚ) (new "session" {} "model")
        [.createSessionSpeaker "a" none none, .createSessionSpeaker "b" none none,
          .createSessionSpeaker "c" none none, .addCannotLink "sess_spk_a" "sess_spk_b",
          .merge "sess_spk_a" "sess_spk_c" "reason"]
      ↔ MergesRespectMarks (R := ℚ) (V := ℚ) (new "session" {} "model")
        [.createSessionSpeaker "a" none none, .createSessionSpeaker "b" none none,
          .createSessionSpeaker "c" none none, .addCannotLink "sess_spk_a" "sess_spk_b",
          .merge "sess_spk_a" "sess_spk_c" "reason"] :=
  cannotLinkHolds_iff "session" {} "model" _

/-- **A constraint can be lost.** Three speakers, two of them held apart and
both merged into the third. -/
theorem cannotLink_lost :
    ¬ CannotLinkHolds (R := ℚ) (V := ℚ) (new "session" {} "model")
      [.createSessionSpeaker "a" none none, .createSessionSpeaker "b" none none,
        .createSessionSpeaker "c" none none, .addCannotLink "sess_spk_a" "sess_spk_b",
        .merge "sess_spk_a" "sess_spk_c" "reason", .merge "sess_spk_b" "sess_spk_c" "reason"] := by
  intro h
  have hd := h [.createSessionSpeaker "a" none none, .createSessionSpeaker "b" none none,
    .createSessionSpeaker "c" none none] "sess_spk_a" "sess_spk_b"
    [.merge "sess_spk_a" "sess_spk_c" "reason", .merge "sess_spk_b" "sess_spk_c" "reason"]
    (List.prefix_refl _) (by decide +kernel)
  revert hd
  decide +kernel

end SessionSpeakerState

end Sastt

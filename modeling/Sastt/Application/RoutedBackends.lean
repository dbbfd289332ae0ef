import Sastt.Application.OverlapRouter
import Sastt.Domain.Manifests

/-!
# What the router may choose in production

The production gate lists the backends a configuration may run, and the router
picks one for each region. Neither reads the other. What keeps the router
inside the list is that every row of its table that names a backend is guarded
by the switch that puts it on the list (`mem_activeBackends_of_routed`), but
for the research row, whose switch the gate refuses.
-/

namespace Sastt

variable {R : Type} [Field R] [LinearOrder R] [IsStrictOrderedRing R]

/-- A loop of checks passes exactly if each of them does. -/
theorem forM_eq_ok {ε α : Type} {xs : List α} {check : α → Except ε Unit} :
    xs.forM check = .ok () ↔ ∀ x ∈ xs, check x = .ok () := by
  induction xs with
  | nil => exact iff_of_true rfl (fun _ hx => absurd hx List.not_mem_nil)
  | cons x xs ih =>
    rw [List.forall_mem_cons, ← ih]
    show (check x >>= fun _ => xs.forM check) = .ok () ↔ _
    cases check x with
    | error e => exact iff_of_false nofun (fun h => nomatch h.1)
    | ok u => exact (and_iff_right rfl).symm

namespace DeployedConfig

variable {config : DeployedConfig R} {attributes : String → Bool}
  {manifests : String → Option ModelManifest}

/-! ## What passes the gate -/

/-- **A manifest that admits its backend to production.** -/
structure Admits (config : DeployedConfig R) (attributes : String → Bool) (m : ModelManifest) :
    Prop where
  enabled : m.enabled = true
  reviewed : m.productionAction ≠ .deny
  allowed : m.productionAction ∈ PRODUCTION_ALLOWLIST
    ∨ config.flagEnabled attributes m.requiresFlag = true
  pinned : m.isPinned = true

/-- A backend passes exactly if its manifest admits it. -/
theorem checkBackend_eq_ok {active : String × String} :
    config.checkBackend attributes .production manifests active = .ok ()
      ↔ ∃ m, manifests active.2 = some m ∧ config.Admits attributes m := by
  unfold checkBackend
  cases hm : manifests active.2 with
  | none => exact ⟨nofun, fun ⟨_, h, _⟩ => nomatch h⟩
  | some m =>
    have hproduction : (!Environment.production.isProduction) = false := rfl
    simp only [hproduction, Bool.false_eq_true, if_false]
    constructor
    · intro h
      refine ⟨m, rfl, ?_⟩
      split at h
      · cases h
      · next henabled =>
        split at h
        · cases h
        · next hdeny =>
          split at h
          · cases h
          · next hallowed =>
            split at h
            · cases h
            · next hpinned =>
              refine ⟨by simpa using henabled, hdeny, ?_, ?_⟩
              · by_cases hlist : m.productionAction ∈ PRODUCTION_ALLOWLIST
                · exact Or.inl hlist
                · exact Or.inr (Bool.not_eq_false _ ▸ fun hflag => hallowed ⟨hlist, hflag⟩)
              · rw [Bool.and_eq_true, Bool.not_eq_true', Bool.not_eq_true', not_and_or,
                  Bool.not_eq_false, Bool.not_eq_false] at hpinned
                exact Bool.or_eq_true_iff.mpr hpinned
    · rintro ⟨_, ⟨⟩, h⟩
      have hpinned : (!truthy m.revision && !truthy m.sha256) = false := by
        have hor := h.pinned
        unfold ModelManifest.isPinned at hor
        rw [← Bool.not_or, hor]
        rfl
      rw [if_neg (by rw [h.enabled]; exact nofun), if_neg h.reviewed, if_neg, hpinned]
      · rfl
      · rintro ⟨hlist, hflag⟩
        exact h.allowed.elim hlist (fun hon => nomatch hflag.symm.trans hon)

/-- **What a configuration that may be deployed has.** -/
theorem admits_of_validate
    (h : config.validateForEnvironment attributes .production manifests = .ok ()) :
    config.product.monoFourFiveSourceResearch = false
      ∧ ∀ active ∈ config.activeBackends, ∃ m, manifests active.2 = some m
        ∧ config.Admits attributes m := by
  have hseq : (config.checkProduction >>= fun _ =>
      config.activeBackends.forM (config.checkBackend attributes .production manifests)) = .ok () :=
        h
  cases hcheck : config.checkProduction with
  | error e =>
    rw [hcheck] at hseq
    cases hseq
  | ok u =>
    rw [hcheck] at hseq
    refine ⟨?_, fun active hactive => checkBackend_eq_ok.mp (forM_eq_ok.mp hseq active hactive)⟩
    by_contra hresearch
    unfold checkProduction at hcheck
    rw [if_pos (Bool.not_eq_false _ ▸ hresearch)] at hcheck
    cases hcheck

end DeployedConfig

/-! ## What the router chooses -/

section Router

variable (config : DeployedConfig R) (evidence : CountingEvidence R)

/-- Nothing is counted by the research model unless it is switched on. -/
theorem method_estimateSourceCount {config : SasttConfig R}
    (hresearch : config.product.monoFourFiveSourceResearch = false) :
    (estimateSourceCount evidence config).method ≠ .multidecoderResearch := by
  unfold estimateSourceCount
  dsimp only
  split
  · exact nofun
  · split
    · exact nofun
    · have hnone : evidence.researchEstimate.filter
          (fun _ => config.product.monoFourFiveSourceResearch) = none := by
        cases evidence.researchEstimate with
        | none => rfl
        | some k => simp [Option.filter, hresearch]
      rw [hnone]
      split
      · next h => cases h
      · split <;> exact nofun

/-- **The router stays on the list of the gate**: it takes the research route only if
that is switched on, and any backend it names is an active one. -/
theorem mem_activeBackends_of_routed (count : SourceCountEstimate R) (osdPositive : Bool) :
    ((routeOverlap count config.toSasttConfig evidence osdPositive).route
        = .separateResearchMultidecoder → config.product.monoFourFiveSourceResearch = true)
      ∧ ∀ backend, (routeOverlap count config.toSasttConfig evidence osdPositive).backend
          = some backend →
        ∃ component, (component, backend) ∈ config.activeBackends := by
  unfold routeOverlap
  dsimp only
  split
  · exact ⟨nofun, nofun⟩
  split
  · refine ⟨nofun, ?_⟩
    rintro _ ⟨⟩
    exact ⟨"separation_two_source", by simp [DeployedConfig.activeBackends]⟩
  split
  · split
    · next hbeta =>
      refine ⟨nofun, ?_⟩
      rintro _ ⟨⟩
      exact ⟨"separation_three_source", by simp [DeployedConfig.activeBackends, hbeta]⟩
    · exact ⟨nofun, nofun⟩
  split
  · split
    · next hgss =>
      rw [Bool.and_eq_true, Bool.and_eq_true] at hgss
      refine ⟨nofun, ?_⟩
      rintro _ ⟨⟩
      exact ⟨"separation_multichannel", by simp [DeployedConfig.activeBackends, hgss.1.1]⟩
    · split
      · next hresearch =>
        refine ⟨fun _ => hresearch, ?_⟩
        rintro _ ⟨⟩
        exact ⟨"separation_research", by simp [DeployedConfig.activeBackends, hresearch]⟩
      · exact ⟨nofun, nofun⟩
  split
  · next htarget =>
    refine ⟨nofun, ?_⟩
    rintro _ ⟨⟩
    exact ⟨"target_extraction", by simp [DeployedConfig.activeBackends, htarget.1]⟩
  · exact ⟨nofun, nofun⟩

/-- **The production gate covers every backend the router can choose.** Nothing is
counted or separated by the research model, and the manifest of the backend the
router names for a region admits it to production. -/
theorem routed_backend_admitted (attributes : String → Bool)
    (manifests : String → Option ModelManifest)
    (h : config.validateForEnvironment attributes .production manifests = .ok ())
    (osdPositive : Bool) :
    let count := estimateSourceCount evidence config.toSasttConfig
    let decision := routeOverlap count config.toSasttConfig evidence osdPositive
    count.method ≠ .multidecoderResearch ∧ decision.route ≠ .separateResearchMultidecoder
      ∧ ∀ backend, decision.backend = some backend →
        ∃ m, manifests backend = some m ∧ config.Admits attributes m := by
  obtain ⟨hresearch, hadmits⟩ := DeployedConfig.admits_of_validate h
  obtain ⟨hroute, hbackend⟩ := mem_activeBackends_of_routed config evidence
    (estimateSourceCount evidence config.toSasttConfig) osdPositive
  refine ⟨method_estimateSourceCount evidence hresearch, fun hr => ?_, fun backend hb => ?_⟩
  · exact nomatch hresearch.symm.trans (hroute hr)
  · obtain ⟨component, hactive⟩ := hbackend backend hb
    exact hadmits _ hactive

end Router

/-- Manifests that allow every backend. -/
def allowing : String → Option ModelManifest := fun _ =>
  some { weightLicense := "MIT", productionAction := .allow, revision := some "v1" }

/-- The configuration as it is shipped, with three sources switched on. -/
def betaConfig : DeployedConfig ℚ where
  product := { ProductConfig.default with
    threeSourceBeta := true
    three_needs_beta := fun _ => rfl }
  diarization := {
    min_le_max := ProductConfig.default.speakers_pos
    max_le := ProductConfig.default.speakers_le }
  threeSourceModelPath := some "/models/sepformer"
  beta_needs_model _ := by decide

/-- Three speakers are separated by a backend that was admitted. -/
theorem three_sources_admitted :
    ∃ m, allowing "sepformer_libri3mix" = some m ∧ betaConfig.Admits (fun _ => false) m :=
  (routed_backend_admitted betaConfig { diarizationActiveSpeakers := some 3 } _ allowing
    (by decide +kernel) true).2.2 _ (by decide +kernel)

end Sastt

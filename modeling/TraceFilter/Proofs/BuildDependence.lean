/-
Module: TraceFilter.Proofs.BuildDependence
Purpose: What a build can depend on besides its draft: on the settings only if a default is needed,
  on the clock only if the end of the time range is unset.
Main exports: Draft.SeesAlike, Draft.SeesAlike.buildWhere_eq, Draft.seesAlike_of_endTs_set,
  Draft.seesAlike_of_set, Draft.set_bounds_shield_build
-/
import TraceFilter.Proofs.BuildEvents

namespace TraceFilter

namespace Draft

variable {draft : Draft} {here there : Surroundings}

/-- Two surroundings look alike to a draft when they keep the same records, load the same settings
if the draft needs any, and show the same time if the draft has no end of its own. -/
structure SeesAlike (draft : Draft) (here there : Surroundings) : Prop where
  threshold : here.threshold = there.threshold
  settings : draft.endTs = .null ∨ draft.limit = .null →
    Settings.load here.environment here.threshold =
      Settings.load there.environment there.threshold
  clock : draft.endTs = .null → here.currentMillis = there.currentMillis

namespace SeesAlike

theorem settings_eq (alike : draft.SeesAlike here there) :
    draft.settings here = draft.settings there := by
  unfold Draft.settings
  split
  · next needed => exact alike.settings (needsSettings_iff.1 needed)
  · rfl

theorem endTsOr_eq (alike : draft.SeesAlike here there) (settings : Settings) :
    draft.endTsOr settings here = draft.endTsOr settings there := by
  unfold endTsOr
  split
  · next unset => rw [alike.clock (Value.isNull_iff.1 unset)]
  · rfl

/-- Behind the end of the time range nothing looks at the surroundings any more: the lookback
follows the end, and the limit the settings. -/
theorem fillBounds_eq (alike : draft.SeesAlike here there)
    (readable : DraftPart → Except Fault Unit) (settings : Settings) :
    draft.fillBounds readable here settings = draft.fillBounds readable there settings := by
  rw [fillBounds, fillBounds, alike.endTsOr_eq settings]

/-- A build comes to the same and leaves the same behind in surroundings that look alike to its
draft, whatever parts of the draft can be read. -/
theorem buildWhere_eq (alike : draft.SeesAlike here there)
    (readable : DraftPart → Except Fault Unit) :
    draft.buildWhere readable here = draft.buildWhere readable there := by
  rw [Draft.buildWhere_eq, Draft.buildWhere_eq, alike.settings_eq, alike.threshold]
  have bounds := alike.fillBounds_eq readable
  simp only [bounds]

end SeesAlike

/-- To a draft with an end of its own, surroundings look alike that differ in the clock. -/
theorem seesAlike_of_endTs_set (endTsSet : draft.endTs ≠ .null) (environment : Environment)
    (clock later : Binary64) (threshold : Level) :
    draft.SeesAlike ⟨environment, clock, threshold⟩ ⟨environment, later, threshold⟩ where
  threshold := rfl
  settings := fun _ => rfl
  clock := fun unset => absurd unset endTsSet

/-- To a draft with an end and a limit of its own, surroundings with one threshold look alike. -/
theorem seesAlike_of_set (endTsSet : draft.endTs ≠ .null) (limitSet : draft.limit ≠ .null)
    (environment other : Environment) (clock later : Binary64) (threshold : Level) :
    draft.SeesAlike ⟨environment, clock, threshold⟩ ⟨other, later, threshold⟩ where
  threshold := rfl
  settings := fun needed => absurd needed (not_or.2 ⟨endTsSet, limitSet⟩)
  clock := fun unset => absurd unset endTsSet

/-! ### Builds that nothing from outside reaches -/

/-- A build ignores the clock when it comes to the same and leaves the same behind at any two
times. -/
def IgnoresClock (build : Surroundings → Observed Request) : Prop :=
  ∀ environment clock later threshold,
    build ⟨environment, clock, threshold⟩ = build ⟨environment, later, threshold⟩

/-- A build ignores the environment and the clock when it comes to the same and leaves the same
behind under any two environments and at any two times. -/
def IgnoresEnvironmentAndClock (build : Surroundings → Observed Request) : Prop :=
  ∀ environment other clock later threshold,
    build ⟨environment, clock, threshold⟩ = build ⟨other, later, threshold⟩

/-- A draft with an end of its own is built alike whatever the clock shows, and if it has a limit of
its own too, then also under whatever environment, be its settings in order or not. The same holds
of a draft whose members were assigned. With both set, what the build comes to is a matter of the
draft alone, and of the threshold if something cannot be written. -/
theorem set_bounds_shield_build :
    (∀ draft : Draft, draft.endTs ≠ .null →
      IgnoresClock draft.build ∧
      (draft.limit ≠ .null → IgnoresEnvironmentAndClock draft.build ∧
        (∀ surroundings, (draft.build surroundings).result = do
          let lookback ← clamp (draft.lookbackOr draft.endTs) draft.endTs
          (draft.candidate draft.endTs lookback draft.limit).built surroundings.threshold) ∧
        (draft.IsWritable → ∀ surroundings, (draft.build surroundings).result = do
          let lookback ← clamp (draft.lookbackOr draft.endTs) draft.endTs
          (draft.candidate draft.endTs lookback draft.limit).accept))) ∧
    ∀ opened : OpenedDraft, opened.shape.endTs ≠ .null →
      IgnoresClock opened.build ∧
      (opened.shape.limit ≠ .null → IgnoresEnvironmentAndClock opened.build) := by
  constructor
  · intro draft endTsSet
    refine ⟨?_, fun limitSet => ⟨?_, result_build_of_set endTsSet limitSet, fun writable =>
      result_build_of_set_of_writable writable endTsSet limitSet⟩⟩
    · intro environment clock later threshold
      exact (seesAlike_of_endTs_set endTsSet environment clock later threshold).buildWhere_eq _
    · intro environment other clock later threshold
      exact (seesAlike_of_set endTsSet limitSet environment other clock later
        threshold).buildWhere_eq _
  · intro opened endTsSet
    refine ⟨?_, fun limitSet => ?_⟩
    · intro environment clock later threshold
      exact (seesAlike_of_endTs_set endTsSet environment clock later threshold).buildWhere_eq _
    · intro environment other clock later threshold
      exact (seesAlike_of_set endTsSet limitSet environment other clock later
        threshold).buildWhere_eq _

/-- Both settings are refused and the clock shows no time, but a draft with an end and a limit is
built as under no settings at the epoch: its lookback is clamped, and call and request are
recorded. -/
theorem set_bounds_shield_build_from_refused_settings :
    let draft : Draft :=
      { Draft.empty with
        serviceName := .text "api", endTs := .int 5, lookback := .int 7, limit := .int 1 }
    let request : Request :=
      { serviceName := "api", spanName := none, annotations := [], tags := []
        minDuration := .null, maxDuration := .null, endTs := 5, lookback := 5, limit := 1 }
    let refusing : Surroundings :=
      { environment := ⟨some "seconds", some "ten"⟩
        clock := ⟨false, ⟨2047, by decide⟩, ⟨1, by decide⟩⟩
        threshold := .debug }
    draft.endTs ≠ .null ∧ draft.limit ≠ .null ∧
      refusing.currentMillis = .error .undefinedInteger ∧
      (Settings.load refusing.environment .debug).result = .error (.invalidFields
        ⟨Settings.title, [("end_ts_default", .unknownPolicy),
          ("default_limit", .limitRefused (.malformed "ten"))]⟩) ∧
      draft.build refusing = draft.build ⟨.empty, .zero false, .debug⟩ ∧
      (draft.build refusing).result = .ok request := by
  intro draft request refusing
  have endTsSet : draft.endTs ≠ .null := nofun
  have limitSet : draft.limit ≠ .null := nofun
  have lowered : Text.lower "api" = "api" := by decide +kernel
  have nowhere : (refusing.clock.scaleBy 1000).quantity = .undefined := by decide +kernel
  have timeless : refusing.currentMillis = .error .undefinedInteger := by
    rw [Surroundings.currentMillis, nowhere]
  have shielded := (set_bounds_shield_build.1 draft endTsSet).2 limitSet
  have refused : (Settings.load refusing.environment .debug).result = .error (.invalidFields
      ⟨Settings.title, [("end_ts_default", .unknownPolicy),
        ("default_limit", .limitRefused (.malformed "ten"))]⟩) := rfl
  have alike : draft.build refusing = draft.build ⟨.empty, .zero false, .debug⟩ :=
    shielded.1 refusing.environment .empty refusing.clock (.zero false) .debug
  have clamps : clamp (.int 7) (.int 5) = .ok (.int 5) := clamp_int 7 5
  have accepted : (draft.candidate (.int 5) (.int 5) (.int 1)).accept = .ok request := by
    show Except.ok { request with serviceName := Text.lower "api" } = _
    rw [lowered]
  have writable : draft.IsWritable := by decide +kernel
  refine ⟨endTsSet, limitSet, timeless, refused, alike, ?_⟩
  calc (draft.build refusing).result
      = clamp (.int 7) (.int 5) >>= fun lookback =>
          (draft.candidate (.int 5) lookback (.int 1)).accept := shielded.2.2 writable refusing
    _ = .ok request := by rw [clamps, ok_bind, accepted]

end Draft

end TraceFilter

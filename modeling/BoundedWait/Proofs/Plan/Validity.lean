import BoundedWait.Profiles
import BoundedWait.Proofs.Plan.Strict

/-!
# Plans are valid by construction

A plan can be obtained from changes of a draft, from two times, from counts,
from settings, from profiles, or as a preset.  All these ways lead through one
draft and its checks (`Obtained.exists_changes`), so that the arithmetic of
bounds, delays and decisions cannot fail on any plan that was obtained.
-/

namespace BoundedWait
namespace Plan

/-- The preset plans. -/
def presets : List Plan :=
  [standard, rolePropagation, databaseRow, queueDequeue, inputRequest, buildCompletion,
    serviceReady]

/-- The ways to obtain a plan: changes of the standard draft, two times, counts
of units, settings, the profile of a name, the default profile, and presets. -/
inductive Obtained (p : Plan) : Prop
  | changed {changes : List Draft.Change} (h : (Draft.ofChanges changes).build = .ok p)
  | timed {poll timeout : Duration} (h : fixedEvery poll timeout = .ok p)
  | counted {poll timeout : UInt64} {pollUnit timeoutUnit : TimeUnit}
      (h : ofCounts poll pollUnit timeout timeoutUnit = .ok p)
  | written {s : Settings} (h : s.toPlan = .ok p)
  | named {profiles : Profiles} {name : String} (h : profiles.get name = .ok p)
  | byDefault {profiles : Profiles} (h : profiles.defaultPlan = .ok p)
  | preset (h : p ∈ presets)

section Obtaining

variable {p : Plan}

theorem exists_changes_inSeconds
    {poll timeout : Nat}
    (hpoll : 0 < (Duration.ofSeconds poll).nanos)
    (htimeout : Duration.ofSeconds poll ≤ Duration.ofSeconds timeout) :
    ∃ changes, (Draft.ofChanges changes).build = .ok (inSeconds poll timeout hpoll htimeout) := by
  refine ⟨[.poll (Duration.ofSeconds poll), .timeout (Duration.ofSeconds timeout)], ?_⟩
  rw [Draft.build_eq_ok_iff]
  exact ⟨rfl, rfl, rfl, rfl, rfl, rfl⟩

theorem exists_changes_of_preset
    (h : p ∈ presets) :
    ∃ changes, (Draft.ofChanges changes).build = .ok p := by
  simp only [presets, List.mem_cons, List.not_mem_nil, or_false] at h
  rcases h with rfl | rfl | rfl | rfl | rfl | rfl | rfl
  all_goals exact exists_changes_inSeconds _ _

theorem exists_changes_of_settings
    {s : Settings}
    (h : s.toPlan = .ok p) :
    ∃ changes, (Draft.ofChanges changes).build = .ok p :=
  ⟨_, h⟩

theorem exists_changes_of_planOf
    {s : Settings}
    (h : Profiles.planOf s = .ok p) :
    ∃ changes, (Draft.ofChanges changes).build = .ok p := by
  simp only [Profiles.planOf] at h
  cases hs : s.toPlan with
  | error defect =>
      rw [hs] at h
      cases h
  | ok q =>
      rw [hs] at h
      cases h
      exact exists_changes_of_settings hs

theorem exists_changes_of_defaultPlan
    {profiles : Profiles}
    (h : profiles.defaultPlan = .ok p) :
    ∃ changes, (Draft.ofChanges changes).build = .ok p := by
  simp only [Profiles.defaultPlan] at h
  split at h
  · exact exists_changes_of_planOf h
  · cases h
    exact exists_changes_of_preset (by simp [presets])

theorem exists_changes_of_get
    {profiles : Profiles} {name : String}
    (h : profiles.get name = .ok p) :
    ∃ changes, (Draft.ofChanges changes).build = .ok p := by
  simp only [Profiles.get] at h
  split at h
  · exact exists_changes_of_planOf h
  · -- no profile has the name, which may still be that of the default one
    split at h
    · exact exists_changes_of_defaultPlan h
    · cases h

/-- Every plan that can be obtained is built from changes of the standard draft. -/
theorem Obtained.exists_changes
    (h : Obtained p) :
    ∃ changes, (Draft.ofChanges changes).build = .ok p := by
  cases h with
  | changed h =>
      exact ⟨_, h⟩
  | timed h =>
      exact ⟨_, h⟩
  | counted h =>
      exact ⟨_, h⟩
  | written h =>
      exact exists_changes_of_settings h
  | named h =>
      exact exists_changes_of_get h
  | byDefault h =>
      exact exists_changes_of_defaultPlan h
  | preset h =>
      exact exists_changes_of_preset h

end Obtaining

/-- Building succeeds if and only if the last values of all fields are within
their bounds, and gives a plan with these values.  So every plan that can be
obtained is within the bounds, allows from two attempts up to what the counter
can number, and never makes the arithmetic of bounds, delays and decisions
fail, which it would without a poll interval. -/
theorem obtained_plans_are_sound :
    (∀ changes : List Draft.Change,
      ((∃ p, (Draft.ofChanges changes).build = .ok p) ↔
        0 < (Draft.ofLast changes).poll.nanos ∧
        (Draft.ofLast changes).poll ≤ (Draft.ofLast changes).timeout ∧
        (Draft.ofLast changes).multiplier.isFinite = true ∧
        1.0 ≤ (Draft.ofLast changes).multiplier ∧
        (Draft.ofLast changes).poll ≤
          (Draft.ofLast changes).cap.getD (Draft.ofLast changes).timeout) ∧
      ∀ p, (Draft.ofChanges changes).build = .ok p → (Draft.ofLast changes).Describes p) ∧
    (∀ d : Draft, d.bound? = none ↔ d.poll.nanos = 0) ∧
    ∀ p, Obtained p →
      (0 < p.poll.nanos ∧ p.poll ≤ p.timeout ∧ p.multiplier.isFinite = true ∧
        1.0 ≤ p.multiplier ∧ p.poll ≤ p.cap) ∧
      2 ≤ p.bound ∧ p.bound ≤ UInt32.size - 1 ∧
      (∃ changes, (Draft.ofChanges changes).build = .ok p) ∧
      ∀ d : Draft, d.Describes p →
        d.bound? = some p.bound ∧
        (∀ attempt draw, d.delay? attempt draw = some (p.delay attempt draw)) ∧
        ∀ {α : Type} (n : Nat) (attempt : Attempt α) (elapsed : Duration)
          (cancelled : Bool) (draw : Nat),
          d.settle? n attempt elapsed cancelled draw =
            some (Wait.settle p n attempt elapsed cancelled draw) := by
  refine ⟨?_, fun d => Draft.bound?_eq_none_iff, ?_⟩
  · intro changes
    rw [Draft.ofChanges_eq]
    refine ⟨?_, fun p h => Draft.build_eq_ok_iff.1 h⟩
    rw [Draft.exists_build_iff]
    constructor
    · rintro ⟨hpoll, htimeout, hfinite, hone, hcap⟩
      exact ⟨hpoll, htimeout, hfinite, hone, hcap⟩
    · rintro ⟨hpoll, htimeout, hfinite, hone, hcap⟩
      exact ⟨hpoll, htimeout, hfinite, hone, hcap⟩
  · intro p hobtained
    obtain ⟨changes, hbuild⟩ := hobtained.exists_changes
    have hdescribes := Draft.build_eq_ok_iff.1 hbuild
    have hvalid := hdescribes.valid
    refine ⟨⟨?_, ?_, ?_, ?_, ?_⟩, p.two_le_bound, p.bound_le, ⟨changes, hbuild⟩, ?_⟩
    · rw [hdescribes.poll_eq]
      exact hvalid.poll_pos
    · rw [hdescribes.poll_eq, hdescribes.timeout_eq]
      exact hvalid.poll_le_timeout
    · rw [hdescribes.multiplier_eq]
      exact hvalid.multiplier_finite
    · rw [hdescribes.multiplier_eq]
      exact hvalid.one_le_multiplier
    · rw [hdescribes.poll_eq, hdescribes.cap_eq]
      exact hvalid.poll_le_cap
    · intro d h
      exact ⟨Draft.bound?_eq h, Draft.delay?_eq h, Draft.settle?_eq h⟩

/-- Changes that take back earlier ones: as the timeout stands at first, it is
too short. -/
def secondThoughts : List Draft.Change :=
  [.timeout (.ofSeconds 2), .poll (.ofSeconds 3), .cap (.ofSeconds 1), .multiplier 0.5,
    .timeout (.ofSeconds 5), .jitter true, .multiplier 2.5, .growth .exponential,
    .cap (.ofSeconds 4)]

/-- Only the last changes count, and the plan is sound. -/
theorem obtained_plans_are_sound_after_second_thoughts :
    ∃ p, (Draft.ofChanges secondThoughts).build = .ok p ∧
      p.timeout = .ofSeconds 5 ∧ p.cap = .ofSeconds 4 ∧
      0 < p.poll.nanos ∧ 2 ≤ p.bound ∧
      (Draft.ofLast secondThoughts).bound? = some p.bound ∧
      (Draft.ofLast secondThoughts).delay? 3 7 = some (p.delay 3 7) := by
  obtain ⟨p, hbuild⟩ := (obtained_plans_are_sound.1 secondThoughts).1.2
    ⟨by decide, by decide, by decide, by decide, by decide⟩
  have hdescribes := (obtained_plans_are_sound.1 secondThoughts).2 p hbuild
  obtain ⟨hbounds, hbound, -, -, hstrict⟩ :=
    obtained_plans_are_sound.2.2 p (.changed hbuild)
  obtain ⟨hdivides, hdelay, -⟩ := hstrict _ hdescribes
  exact ⟨p, hbuild, hdescribes.timeout_eq, hdescribes.cap_eq, hbounds.1, hbound, hdivides,
    hdelay 3 7⟩

end Plan
end BoundedWait

import BoundedWait.Plan.Preset
import BoundedWait.Settings
import BoundedWait.Proofs.Plan.Building
import BoundedWait.Proofs.Units.Counting

/-!
# Plans written down and read back

Settings hold each time of a plan as a 64-bit count of a unit.  So a plan that
is written down and read back is the same plan if and only if its times are such
counts (`Settings.ofPlan_toPlan_iff`); the cap may be any time if it is the
timeout, since it is left out then.

Plans that come from settings, or from counts, are always of this kind, since a
unit that cannot count so far stops at a whole second.
-/

namespace BoundedWait

/-- The times of a plan that settings hold are counts of a unit. -/
structure Plan.Counted (p : Plan) : Prop where
  poll : p.poll.Counted
  timeout : p.timeout.Counted
  cap : p.cap ≠ p.timeout → p.cap.Counted

namespace Settings

theorem toDraft_eq
    (s : Settings) :
    s.toDraft =
      { poll := s.pollUnit.toDuration s.poll
        timeout := s.timeoutUnit.toDuration s.timeout
        growth := s.growth
        multiplier := s.multiplier
        cap := s.cap.map s.capUnit.toDuration
        jitter := s.jitter } := by
  simp only [toDraft]
  cases s.cap <;> rfl

theorem toPlan_eq_ok_iff
    {s : Settings} {p : Plan} :
    s.toPlan = .ok p ↔ s.toDraft.Describes p :=
  Plan.Draft.build_eq_ok_iff

/-- The standard settings describe the standard plan. -/
theorem toPlan_standard :
    standard.toPlan = .ok Plan.standard :=
  toPlan_eq_ok_iff.2 ⟨rfl, rfl, rfl, rfl, rfl, rfl⟩

/-- The draft of the settings of a plan: every time is split and put together again. -/
theorem toDraft_ofPlan
    (p : Plan) :
    (ofPlan p).toDraft =
      { poll := (TimeUnit.split p.poll).2.toDuration (TimeUnit.split p.poll).1
        timeout := (TimeUnit.split p.timeout).2.toDuration (TimeUnit.split p.timeout).1
        growth := p.growth
        multiplier := p.multiplier
        cap :=
          if p.cap = p.timeout then none
          else some ((TimeUnit.split p.cap).2.toDuration (TimeUnit.split p.cap).1)
        jitter := p.jitter } := by
  rw [toDraft_eq]
  simp only [ofPlan]
  split <;> rfl

theorem describes_of_counted
    {p : Plan}
    (h : p.Counted) :
    (ofPlan p).toDraft.Describes p := by
  have hpoll := TimeUnit.toDuration_split_iff.2 h.poll
  have htimeout := TimeUnit.toDuration_split_iff.2 h.timeout
  rw [toDraft_ofPlan, hpoll, htimeout]
  refine ⟨rfl, rfl, rfl, rfl, ?_, rfl⟩
  by_cases hcap : p.cap = p.timeout
  · simp only [Plan.Draft.effectiveCap, if_pos hcap, Option.getD_none]
    exact hcap
  · simp only [Plan.Draft.effectiveCap, if_neg hcap, Option.getD_some]
    exact (TimeUnit.toDuration_split_iff.2 (h.cap hcap)).symm

theorem counted_of_describes
    {s : Settings} {p : Plan}
    (h : s.toDraft.Describes p) :
    p.Counted := by
  rw [toDraft_eq] at h
  obtain ⟨hpoll, htimeout, -, -, hcap, -⟩ := h
  refine ⟨?_, ?_, ?_⟩
  · rw [hpoll]
    exact TimeUnit.counted_toDuration _ _
  · rw [htimeout]
    exact TimeUnit.counted_toDuration _ _
  · -- a cap that differs from the timeout has been written down
    intro hdiffers
    rw [hcap]
    simp only [Plan.Draft.effectiveCap] at hcap ⊢
    cases hs : s.cap with
    | none =>
        rw [hs] at hcap
        exact absurd (hcap.trans htimeout.symm) hdiffers
    | some cap =>
        exact TimeUnit.counted_toDuration _ _

theorem ofPlan_toPlan_iff
    {p : Plan} :
    (ofPlan p).toPlan = .ok p ↔ p.Counted := by
  rw [toPlan_eq_ok_iff]
  constructor
  · exact counted_of_describes
  · exact describes_of_counted

/-- Plans of counts are plans of settings. -/
theorem exists_settings_of_counts
    (poll : UInt64) (pollUnit : TimeUnit) (timeout : UInt64) (timeoutUnit : TimeUnit) :
    ∃ s : Settings, s.toPlan = Plan.ofCounts poll pollUnit timeout timeoutUnit := by
  refine ⟨{ standard with
    poll := poll
    pollUnit := pollUnit
    timeout := timeout
    timeoutUnit := timeoutUnit }, ?_⟩
  rfl

/-- Writing a plan down and reading it back loses nothing if and only if each of
its times is a count of a unit, where a cap that is the timeout needs none.
Nothing is lost from a plan that was read from settings, or made from counts. -/
theorem plan_survives_settings :
    (∀ p : Plan, (ofPlan p).toPlan = .ok p ↔
      (∃ (count : UInt64) (u : TimeUnit), p.poll.nanos = count.toNat * u.nanos) ∧
      (∃ (count : UInt64) (u : TimeUnit), p.timeout.nanos = count.toNat * u.nanos) ∧
      (p.cap ≠ p.timeout →
        ∃ (count : UInt64) (u : TimeUnit), p.cap.nanos = count.toNat * u.nanos)) ∧
    (∀ (s : Settings) (p : Plan), s.toPlan = .ok p → (ofPlan p).toPlan = .ok p) ∧
    (∀ (poll : UInt64) (pollUnit : TimeUnit) (timeout : UInt64) (timeoutUnit : TimeUnit)
      (p : Plan), Plan.ofCounts poll pollUnit timeout timeoutUnit = .ok p →
        (ofPlan p).toPlan = .ok p) := by
  have hsettings : ∀ (s : Settings) (p : Plan), s.toPlan = .ok p →
      (ofPlan p).toPlan = .ok p := by
    intro s p h
    exact ofPlan_toPlan_iff.2 (counted_of_describes (toPlan_eq_ok_iff.1 h))
  refine ⟨?_, hsettings, ?_⟩
  · intro p
    rw [ofPlan_toPlan_iff]
    exact ⟨fun ⟨hpoll, htimeout, hcap⟩ => ⟨hpoll, htimeout, hcap⟩,
      fun ⟨hpoll, htimeout, hcap⟩ => ⟨hpoll, htimeout, hcap⟩⟩
  · intro poll pollUnit timeout timeoutUnit p h
    obtain ⟨s, hs⟩ := exists_settings_of_counts poll pollUnit timeout timeoutUnit
    exact hsettings s p (hs.trans h)

/-- Settings with a timeout of more hours than their seconds can be counted. -/
def overlong : Settings :=
  ⟨90, .minutes, 18446744073709551615, .hours, .linear, 1.5, some 36, .hours, true⟩

/-- The timeout of `overlong` stops at the last whole second, and survives. -/
theorem plan_survives_settings_at_last_second :
    ∃ p, overlong.toPlan = .ok p ∧
      p.timeout.nanos = TimeUnit.lastSecond ∧ p.cap < p.timeout ∧
      (ofPlan p).toPlan = .ok p := by
  have hvalid : overlong.toDraft.Valid :=
    ⟨by decide, by decide, by decide, by decide, by decide⟩
  have hbuild := Plan.Draft.build_of_valid hvalid
  have hcap : overlong.toDraft.effectiveCap < overlong.toDraft.timeout := by decide
  exact ⟨hvalid.toPlan, hbuild, rfl, hcap,
    plan_survives_settings.2.1 _ _ hbuild⟩

end Settings
end BoundedWait

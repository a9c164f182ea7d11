import BoundedWait.Plan.Preset
import BoundedWait.Proofs.Settings.RoundTrip
import BoundedWait.Proofs.Units.Rounding

/-!
# Plans that settings cannot hold

When a plan is written down, each of its times is rounded on its own if no unit
counts it.  The plan that is read back has the rounded times
(`toPlan_ofPlan_eq_ok_iff`), but there is none if the poll interval was rounded
past the timeout or past the cap (`exists_toPlan_ofPlan_iff`).

No time gets shorter, but for those beyond the last whole second, which are cut
there.
-/

namespace BoundedWait
namespace Settings

open TimeUnit (rejoined)

/-- The plan that is left of another one by rounding its times. -/
structure RoundsPlan (p q : Plan) : Prop where
  poll_eq : q.poll = rejoined p.poll
  timeout_eq : q.timeout = rejoined p.timeout
  cap_eq : q.cap = rejoined p.cap
  growth_eq : q.growth = p.growth
  multiplier_eq : q.multiplier = p.multiplier
  jitter_eq : q.jitter = p.jitter

variable {p : Plan}

theorem poll_ofPlan
    (p : Plan) :
    (ofPlan p).toDraft.poll = rejoined p.poll := by
  rw [toDraft_ofPlan]
  rfl

theorem timeout_ofPlan
    (p : Plan) :
    (ofPlan p).toDraft.timeout = rejoined p.timeout := by
  rw [toDraft_ofPlan]
  rfl

theorem multiplier_ofPlan
    (p : Plan) :
    (ofPlan p).toDraft.multiplier = p.multiplier := by
  rw [toDraft_ofPlan]

theorem effectiveCap_ofPlan
    (p : Plan) :
    (ofPlan p).toDraft.effectiveCap = rejoined p.cap := by
  rw [toDraft_ofPlan]
  simp only [Plan.Draft.effectiveCap]
  split
  · rename_i hcap
    rw [hcap]
    rfl
  · rfl

theorem toPlan_ofPlan_eq_ok_iff
    {q : Plan} :
    (ofPlan p).toPlan = .ok q ↔ RoundsPlan p q := by
  have hgrowth : (ofPlan p).toDraft.growth = p.growth := by rw [toDraft_ofPlan]
  have hjitter : (ofPlan p).toDraft.jitter = p.jitter := by rw [toDraft_ofPlan]
  rw [toPlan_eq_ok_iff]
  constructor
  · intro h
    exact
      { poll_eq := h.poll_eq.trans (poll_ofPlan p)
        timeout_eq := h.timeout_eq.trans (timeout_ofPlan p)
        cap_eq := h.cap_eq.trans (effectiveCap_ofPlan p)
        growth_eq := h.growth_eq.trans hgrowth
        multiplier_eq := h.multiplier_eq.trans (multiplier_ofPlan p)
        jitter_eq := h.jitter_eq.trans hjitter }
  · intro h
    exact
      { poll_eq := h.poll_eq.trans (poll_ofPlan p).symm
        timeout_eq := h.timeout_eq.trans (timeout_ofPlan p).symm
        cap_eq := h.cap_eq.trans (effectiveCap_ofPlan p).symm
        growth_eq := h.growth_eq.trans hgrowth.symm
        multiplier_eq := h.multiplier_eq.trans (multiplier_ofPlan p).symm
        jitter_eq := h.jitter_eq.trans hjitter.symm }

section Order

variable (p)

theorem poll_pos_ofPlan :
    0 < (ofPlan p).toDraft.poll.nanos := by
  rw [poll_ofPlan]
  exact TimeUnit.rejoined_pos p.poll_pos

theorem multiplier_valid_ofPlan :
    (ofPlan p).toDraft.multiplier.isFinite = true ∧ 1.0 ≤ (ofPlan p).toDraft.multiplier := by
  rw [multiplier_ofPlan]
  exact ⟨p.multiplier_finite, p.one_le_multiplier⟩

theorem poll_le_timeout_ofPlan_iff :
    (ofPlan p).toDraft.poll ≤ (ofPlan p).toDraft.timeout ↔ ¬p.poll.RoundsPast p.timeout := by
  rw [poll_ofPlan, timeout_ofPlan]
  exact TimeUnit.rejoined_le_rejoined_iff p.poll_le_timeout

theorem poll_le_cap_ofPlan_iff :
    (ofPlan p).toDraft.poll ≤ (ofPlan p).toDraft.effectiveCap ↔ ¬p.poll.RoundsPast p.cap := by
  rw [poll_ofPlan, effectiveCap_ofPlan]
  exact TimeUnit.rejoined_le_rejoined_iff p.poll_le_cap

end Order

theorem exists_toPlan_ofPlan_iff :
    (∃ q, (ofPlan p).toPlan = .ok q) ↔
      ¬p.poll.RoundsPast p.timeout ∧ ¬p.poll.RoundsPast p.cap := by
  rw [← poll_le_timeout_ofPlan_iff, ← poll_le_cap_ofPlan_iff, toPlan, Plan.Draft.exists_build_iff]
  constructor
  · intro h
    exact ⟨h.poll_le_timeout, h.poll_le_cap⟩
  · rintro ⟨htimeout, hcap⟩
    obtain ⟨hfinite, hone⟩ := multiplier_valid_ofPlan p
    exact ⟨poll_pos_ofPlan p, htimeout, hfinite, hone, hcap⟩

theorem toPlan_ofPlan_of_past_timeout
    (h : p.poll.RoundsPast p.timeout) :
    (ofPlan p).toPlan = .error (.shortTimeout p.timeout (rejoined p.poll)) := by
  have hshort := mt (poll_le_timeout_ofPlan_iff p).1 (not_not_intro h)
  rw [toPlan, Plan.Draft.build_of_short_timeout (poll_pos_ofPlan p) hshort, poll_ofPlan,
    timeout_ofPlan, TimeUnit.rejoined_of_counted h.counted]

theorem toPlan_ofPlan_of_past_cap
    (htimeout : ¬p.poll.RoundsPast p.timeout)
    (h : p.poll.RoundsPast p.cap) :
    (ofPlan p).toPlan = .error (.shortCap p.cap (rejoined p.poll)) := by
  have hlong := (poll_le_timeout_ofPlan_iff p).2 htimeout
  have hshort := mt (poll_le_cap_ofPlan_iff p).1 (not_not_intro h)
  rw [toPlan, Plan.Draft.build_of_short_cap (poll_pos_ofPlan p) hlong (multiplier_valid_ofPlan p)
    hshort, poll_ofPlan, effectiveCap_ofPlan, TimeUnit.rejoined_of_counted h.counted]

/-- A plan that is written down is refused when it is read back if and only if
its poll interval is rounded past the timeout, or past the cap.  If it is not
refused, its times are rounded and all else is kept; so none of them gets shorter
unless it is beyond the last whole second. -/
theorem written_plan_is_rounded_or_refused
    (p : Plan) :
    ((∃ q, (ofPlan p).toPlan = .ok q) ↔
      ¬p.poll.RoundsPast p.timeout ∧ ¬p.poll.RoundsPast p.cap) ∧
    (p.poll.RoundsPast p.timeout →
      (ofPlan p).toPlan = .error (.shortTimeout p.timeout (rejoined p.poll))) ∧
    (¬p.poll.RoundsPast p.timeout → p.poll.RoundsPast p.cap →
      (ofPlan p).toPlan = .error (.shortCap p.cap (rejoined p.poll))) ∧
    ∀ q, (ofPlan p).toPlan = .ok q →
      p.poll.RoundsTo q.poll ∧ p.timeout.RoundsTo q.timeout ∧ p.cap.RoundsTo q.cap ∧
      q.growth = p.growth ∧ q.multiplier = p.multiplier ∧ q.jitter = p.jitter := by
  refine ⟨exists_toPlan_ofPlan_iff, toPlan_ofPlan_of_past_timeout, toPlan_ofPlan_of_past_cap, ?_⟩
  intro q hq
  obtain ⟨hpoll, htimeout, hcap, hgrowth, hmultiplier, hjitter⟩ := toPlan_ofPlan_eq_ok_iff.1 hq
  rw [hpoll, htimeout, hcap]
  exact ⟨TimeUnit.roundsTo_rejoined _, TimeUnit.roundsTo_rejoined _, TimeUnit.roundsTo_rejoined _,
    hgrowth, hmultiplier, hjitter⟩

/-- A poll interval just beyond 2^64 nanoseconds, and as long a cap as the timeout. -/
def pollingRarely (timeout : Duration) (h : .ofNanos 18446744073709551617 ≤ timeout) : Plan :=
  { Plan.standard with
    poll := .ofNanos 18446744073709551617
    timeout := timeout
    cap := timeout
    poll_pos := by decide
    poll_le_timeout := h
    poll_le_cap := h }

/-- A timeout that is one nanosecond longer than the poll interval. -/
def twins : Plan :=
  pollingRarely (.ofNanos 18446744073709551618) (by decide)

/-- A timeout of whole microseconds, longer by 383 nanoseconds. -/
def crossed : Plan :=
  pollingRarely (.ofNanos 18446744073709552000) (by decide)

/-- A timeout much longer than the poll interval, and a cap 383 nanoseconds longer. -/
def crossedAtCap : Plan :=
  { pollingRarely (.ofSeconds 18446744100) (by decide) with
    cap := .ofNanos 18446744073709552000
    poll_le_cap := by decide }

/-- A poll each second for the longest time that there is. -/
def endless : Plan :=
  { Plan.standard with
    timeout := .longest
    cap := .longest
    poll_le_timeout := by decide
    poll_le_cap := by decide }

theorem not_counted_rarely :
    ¬(Duration.ofNanos 18446744073709551617).Counted :=
  TimeUnit.coarsest?_eq_none_iff.1 (by decide)

theorem crossed_roundsPast :
    crossed.poll.RoundsPast crossed.timeout where
  not_counted := not_counted_rarely
  counted := TimeUnit.counted_iff.2 ⟨.microseconds, by decide⟩
  same_second := by decide

/-- Two times of one second that are both rounded stay in order, and the poll
interval is rounded past a time that is not. -/
theorem written_plan_is_rounded_or_refused_within_second :
    (∃ q, (ofPlan twins).toPlan = .ok q ∧
      q.poll = .ofSeconds 18446744074 ∧ q.timeout = .ofSeconds 18446744074) ∧
    (ofPlan crossed).toPlan = .error (.shortTimeout crossed.timeout (.ofSeconds 18446744074)) ∧
    (ofPlan crossedAtCap).toPlan =
      .error (.shortCap crossedAtCap.cap (.ofSeconds 18446744074)) := by
  have htimeout : ¬twins.timeout.Counted := TimeUnit.coarsest?_eq_none_iff.1 (by decide)
  refine ⟨?_, ?_, ?_⟩
  · obtain ⟨hexists, -, -, hrounds⟩ := written_plan_is_rounded_or_refused twins
    obtain ⟨q, hq⟩ := hexists.2 ⟨fun h => htimeout h.counted, fun h => htimeout h.counted⟩
    obtain ⟨hpoll, htimeoutRounds, -⟩ := hrounds q hq
    exact ⟨q, hq, Duration.ext ((hpoll.whole not_counted_rarely).trans (by decide)),
      Duration.ext ((htimeoutRounds.whole htimeout).trans (by decide))⟩
  · exact (written_plan_is_rounded_or_refused crossed).2.1 crossed_roundsPast
  · have hcap : crossedAtCap.poll.RoundsPast crossedAtCap.cap :=
      ⟨not_counted_rarely, crossed_roundsPast.counted, by decide⟩
    have hlong : ¬crossedAtCap.poll.RoundsPast crossedAtCap.timeout :=
      fun h => absurd h.same_second (by decide)
    exact (written_plan_is_rounded_or_refused crossedAtCap).2.2.1 hlong hcap

/-- Of two valid plans one is refused when it is read back, and the other one
comes back with a shorter timeout. -/
theorem written_plan_refused_or_cut :
    (ofPlan crossed).toPlan =
      .error (.shortTimeout (.ofNanos 18446744073709552000) (.ofSeconds 18446744074)) ∧
    ∃ q, (ofPlan endless).toPlan = .ok q ∧ q.timeout < endless.timeout := by
  refine ⟨toPlan_ofPlan_of_past_timeout crossed_roundsPast, ?_⟩
  have hpoll : endless.poll.Counted := TimeUnit.counted_iff.2 ⟨.seconds, by decide⟩
  obtain ⟨q, hq⟩ := exists_toPlan_ofPlan_iff.2
    ⟨fun h => h.not_counted hpoll, fun h => h.not_counted hpoll⟩
  refine ⟨q, hq, ?_⟩
  rw [(toPlan_ofPlan_eq_ok_iff.1 hq).timeout_eq]
  exact (TimeUnit.roundsTo_rejoined _).cut (by decide)

end Settings
end BoundedWait

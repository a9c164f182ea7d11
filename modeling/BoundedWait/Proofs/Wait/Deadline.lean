import BoundedWait.Proofs.Wait.Exact
import BoundedWait.Plan.Preset

/-!
# The deadline, and the limit of the counter

A wait in a steady world is not given up on before its timeout
(`Unfolds.timeout_le`, in the theory of the pace), as long as the counter of
attempts can number the poll intervals of the timeout.

Where it cannot, the guarantee fails: a plan that neither grows nor jitters
stops short of its timeout in the exact world (`Unfolds.stops_short`), after as
many poll intervals as the counter can number.
-/

namespace BoundedWait

/-- The interval of a plan that neither grows nor jitters. -/
theorem Plan.delay_of_fixed
    {p : Plan}
    (hfixed : p.growth = .fixed)
    (hjitter : p.jitter = false)
    (n draw : Nat) :
    p.delay n draw = p.poll := by
  have hcap := Duration.le_iff.1 p.poll_le_cap
  apply Duration.ext
  simp only [delay, interval, grown, hfixed, hjitter, Bool.false_eq_true, if_false,
    Duration.nanos_max, Duration.nanos_min]
  omega

/-- A timeout of more poll intervals than the counter can number leaves only
the counter as a bound. -/
theorem Plan.bound_of_long
    {p : Plan}
    (hlong : counterLimit * p.poll.nanos < p.timeout.nanos) :
    p.bound = counterLimit := by
  have hfull : counterLimit ≤ p.timeout.nanos / p.poll.nanos :=
    (Nat.le_div_iff_mul_le p.poll_pos).2 (Nat.le_of_lt hlong)
  simp only [bound]
  omega

namespace Wait

variable {α : Type}

section Deadline

variable {probe : Nat → Probe α} {draw : Nat → Nat} {p : Plan} {c : Classifier}

/-- A sleep of a plan that neither grows nor jitters, with a poll interval left. -/
theorem Round.Sleeps.nanos_delay_of_fixed
    {round : Round α} {nap : Nap} {fault : Fault}
    (h : round.Sleeps p c fault nap)
    (hfixed : p.growth = .fixed)
    (hjitter : p.jitter = false)
    (hroom : round.answer.reading.elapsed.nanos + p.poll.nanos ≤ p.timeout.nanos) :
    nap.delay.nanos = p.poll.nanos := by
  rw [h.delay_eq, sleepDelay, Plan.delay_of_fixed hfixed hjitter]
  simp only [Duration.nanos_min, Duration.nanos_sub]
  omega

/-- One sleep in the exact world, with a plan that neither grows nor jitters. -/
theorem Round.Sleeps.wakes_one_poll_later
    {round : Round α} {nap : Nap} {fault : Fault} {k : Nat}
    (h : round.Sleeps p c fault nap)
    (hfixed : p.growth = .fixed)
    (hjitter : p.jitter = false)
    (hlong : Plan.counterLimit * p.poll.nanos < p.timeout.nanos)
    (hk : k < Plan.counterLimit)
    (hnow : round.answer.reading.elapsed.nanos = k * p.poll.nanos) :
    (round.answer.reading.elapsed.add nap.delay).nanos = (k + 1) * p.poll.nanos := by
  have hroom : (k + 1) * p.poll.nanos ≤ Plan.counterLimit * p.poll.nanos :=
    Nat.mul_le_mul_right _ hk
  rw [Nat.add_mul, Nat.one_mul] at hroom ⊢
  rw [h.nanos_wake, h.nanos_delay_of_fixed hfixed hjitter, hnow]
  omega

/-- A plan that neither grows nor jitters, and whose timeout has more poll
intervals than the counter can number, is given up on before its timeout. -/
theorem Unfolds.stops_short
    {made : Nat} {now : Duration} {rounds : List (Round α)} {r : Run Duration α}
    (h : Unfolds (World.exact probe draw) p c made now rounds r)
    (hfixed : p.growth = .fixed)
    (hjitter : p.jitter = false)
    (hlong : Plan.counterLimit * p.poll.nanos < p.timeout.nanos)
    (hsoft : ∀ n, ∃ fault, probe n = .error fault ∧ c.classify fault = .soft)
    (hmade : made < Plan.counterLimit)
    (hnow : now.nanos = made * p.poll.nanos) :
    ∃ fault elapsed, probe Plan.counterLimit = .error fault ∧
      r.outcome = .timedOut fault Plan.counterLimit elapsed false ∧
      elapsed.nanos = Plan.counterLimit * p.poll.nanos := by
  have hbound := Plan.bound_of_long hlong
  -- The clock stands at as many poll intervals as attempts were made.
  induction h with
  | @settled made now s₁ answer event outcome called judged =>
      obtain ⟨rfl, rfl⟩ := Prod.mk.inj called
      obtain ⟨fault, hprobe, hverdict⟩ := hsoft (nextAttempt made)
      obtain ⟨hended, -, -⟩ := (judge_eq_finished_iff _).1 judged
      have hearly : now < p.timeout := by
        have hle := Nat.mul_le_mul_right p.poll.nanos (Nat.le_of_lt hmade)
        rw [Duration.lt_iff]
        omega
      exact absurd ⟨hprobe, hverdict, rfl, hearly⟩ (hended fault)
  | @stopped made now s₁ s₂ answer event last outcome fault delay reading
      called judged slept resumed =>
      obtain ⟨rfl, rfl⟩ := Prod.mk.inj called
      obtain ⟨rfl, rfl⟩ := Prod.mk.inj slept
      obtain ⟨hsleeps, -⟩ := sleeps_of_judge judged ⟨now.add delay, false⟩
      obtain ⟨hover, rfl, -⟩ := resume_eq_some_iff.1 resumed
      have hwake := hsleeps.wakes_one_poll_later hfixed hjitter hlong hmade hnow
      have hnext := nextAttempt_of_lt_bound (Nat.lt_of_lt_of_eq hmade hbound.symm)
      have hlast : made + 1 = Plan.counterLimit := by
        rcases hover with hcancelled | hexhausted
        · cases hcancelled
        · rw [hbound, hnext] at hexhausted
          omega
      rw [hlast] at hnext hwake
      have hprobe := hsleeps.pending.probe_eq
      simp only [hnext] at hprobe ⊢
      exact ⟨fault, _, hprobe, rfl, hwake⟩
  | @continued made now s₁ s₂ answer event fault delay reading rounds r
      called judged slept resumed rest ih =>
      obtain ⟨rfl, rfl⟩ := Prod.mk.inj called
      obtain ⟨rfl, rfl⟩ := Prod.mk.inj slept
      obtain ⟨hsleeps, -⟩ := sleeps_of_judge judged ⟨now.add delay, false⟩
      obtain ⟨-, hleft⟩ := (resume_eq_none_iff _ _ _ _ _).1 resumed
      have hwake := hsleeps.wakes_one_poll_later hfixed hjitter hlong hmade hnow
      have hnext := nextAttempt_of_lt_bound (Nat.lt_of_lt_of_eq hmade hbound.symm)
      rw [hbound] at hleft
      rw [← hnext] at hwake
      exact ih hleft hwake

end Deadline

/-- A wait that times out in a steady world, and was not cancelled, has taken
its whole timeout if the counter can number that many poll intervals.  The
limit is sharp: beyond it a plan that neither grows nor jitters gives up too
early in the exact world, where waits are steady. -/
theorem never_gives_up_early
    (p : Plan) (c : Classifier) :
    (p.timeout.nanos ≤ Plan.counterLimit * p.poll.nanos →
      ∀ {σ α : Type} (w : World σ α) (s : σ) (rounds : List (Round α)),
        Unfolds w p c 0 s rounds (run w p c s) →
        Steady rounds →
        ∀ fault attempts elapsed,
          (run w p c s).outcome = .timedOut fault attempts elapsed false →
          p.timeout ≤ elapsed) ∧
    (p.growth = .fixed →
      p.jitter = false →
      Plan.counterLimit * p.poll.nanos < p.timeout.nanos →
      ∀ {α : Type} (probe : Nat → Probe α) (draw : Nat → Nat),
        (∀ n, ∃ fault, probe n = .error fault ∧ c.classify fault = .soft) →
        ∃ rounds fault elapsed,
          Unfolds (World.exact probe draw) p c 0 .zero rounds
            (run (World.exact probe draw) p c .zero) ∧
          Steady rounds ∧
          probe Plan.counterLimit = .error fault ∧
          (run (World.exact probe draw) p c .zero).outcome =
            .timedOut fault Plan.counterLimit elapsed false ∧
          elapsed.nanos = Plan.counterLimit * p.poll.nanos ∧
          elapsed < p.timeout) := by
  constructor
  · intro hcounter σ α w s rounds hrun hsteady fault attempts elapsed houtcome
    exact hrun.timeout_le hcounter hsteady houtcome
  · intro hfixed hjitter hlong α probe draw hsoft
    obtain ⟨rounds, hrun⟩ := unfolds_run (World.exact probe draw) p c .zero
    obtain ⟨hsteady, -⟩ := hrun.steady_of_exact
    have hstart : Duration.zero.nanos = 0 * p.poll.nanos := by
      rw [Nat.zero_mul]
      rfl
    obtain ⟨fault, elapsed, hprobe, houtcome, helapsed⟩ :=
      hrun.stops_short hfixed hjitter hlong hsoft (by decide) hstart
    refine ⟨rounds, fault, elapsed, hrun, hsteady, hprobe, houtcome, helapsed, ?_⟩
    rw [Duration.lt_iff, helapsed]
    exact hlong

/-- A condition that never holds. -/
def never (_ : Nat) : Probe Unit :=
  .error (.notReady "pending")

/-- A plan whose timeout is no multiple of its poll interval. -/
def threeInSeven : Plan := Plan.inSeconds 3 7 (by decide) (by decide)

/-- A plan whose timeout has more poll intervals than the counter can number. -/
def everyNanosecond : Plan where
  poll := .ofNanos 1
  timeout := .ofSeconds 5
  growth := .fixed
  multiplier := 1.5
  cap := .ofSeconds 5
  jitter := false
  poll_pos := by decide
  poll_le_timeout := by decide
  multiplier_finite := by decide
  one_le_multiplier := by decide
  poll_le_cap := by decide

/-- Both sides of the limit are reached. -/
theorem never_gives_up_early_on_both_sides :
    (∃ rounds fault attempts elapsed,
      Unfolds (World.exact never id) threeInSeven .strict 0 .zero rounds
        (run (World.exact never id) threeInSeven .strict .zero) ∧
      Steady rounds ∧
      (run (World.exact never id) threeInSeven .strict .zero).outcome =
        .timedOut fault attempts elapsed false ∧
      threeInSeven.timeout ≤ elapsed) ∧
    ∃ fault elapsed,
      (run (World.exact never id) everyNanosecond .strict .zero).outcome =
        .timedOut fault Plan.counterLimit elapsed false ∧
      elapsed < everyNanosecond.timeout := by
  constructor
  · have hrun : Unfolds (World.exact never id) threeInSeven .strict 0 .zero _
        ⟨_, .timedOut (.notReady "pending") 3 (.ofSeconds 7) false, _⟩ :=
      .continued rfl rfl rfl rfl (.continued rfl rfl rfl rfl (.stopped rfl rfl rfl rfl))
    have houtcome := congrArg Run.outcome hrun.eq_run
    obtain ⟨hsteady, -⟩ := hrun.steady_of_exact
    rw [hrun.eq_run] at hrun
    exact ⟨_, _, _, _, hrun, hsteady, houtcome.symm,
      (never_gives_up_early threeInSeven .strict).1 (by decide) _ _ _ hrun hsteady _ _ _
        houtcome.symm⟩
  · have hsoft : ∀ n, ∃ fault, never n = .error fault ∧
        Classifier.strict.classify fault = .soft :=
      fun _ => ⟨_, rfl, rfl⟩
    obtain ⟨-, fault, elapsed, -, -, -, houtcome, -, hearly⟩ :=
      (never_gives_up_early everyNanosecond .strict).2 rfl rfl (by decide) never id hsoft
    exact ⟨fault, elapsed, houtcome, hearly⟩

end Wait
end BoundedWait

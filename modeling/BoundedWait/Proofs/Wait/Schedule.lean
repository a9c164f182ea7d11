import BoundedWait.Proofs.Wait.Cadence
import BoundedWait.Proofs.Wait.Numbered
import Mathlib.Data.Nat.Find

/-!
# The schedule of a wait

In the exact world, and without jitter, the plan alone says when each call is
due (`Plan.due`): the first at once, and every other one after the delay that
the plan asks for, but no later than the timeout.  The number of the last call
that can be made is known beforehand too (`Plan.lastCall`): it is the first
call due at the timeout, unless the plan allows no more attempts before.

* `Unfolds.on_schedule`: every call that is made begins when it is due.
* `Round.OnSchedule.soft_end`: a wait ends with a soft fault only after the last
  call, at the time when one more would have been due.
* `Plan.lastCall_of_fixed`: without growth all attempts are made.
-/

namespace BoundedWait
namespace Plan

/-- When call `k` is due, in nanoseconds. -/
def due (p : Plan) : Nat → Nat
  | 0 | 1 => 0
  | k + 2 => min p.timeout.nanos (p.due (k + 1) + (p.interval (k + 1)).nanos)

variable (p : Plan)

theorem timeout_pos :
    0 < p.timeout.nanos :=
  Nat.lt_of_lt_of_le p.poll_pos p.poll_le_timeout

theorem due_succ
    {k : Nat}
    (hk : 0 < k) :
    p.due (k + 1) = min p.timeout.nanos (p.due k + (p.interval k).nanos) := by
  cases k with
  | zero =>
      exact absurd hk (Nat.lt_irrefl 0)
  | succ k =>
      rfl

theorem due_le_timeout
    (k : Nat) :
    p.due k ≤ p.timeout.nanos := by
  match k with
  | 0 | 1 =>
      exact Nat.zero_le _
  | k + 2 =>
      exact Nat.min_le_left _ _

/-- No call is due before its time by the pace of the plan. -/
theorem pace_le_due
    (k : Nat) :
    p.pace k ≤ p.due (k + 1) := by
  induction k with
  | zero =>
      simp [pace]
  | succ k ih =>
      have hpoll := Duration.le_iff.1 (p.poll_le_interval (k + 1))
      rw [p.due_succ (Nat.add_one_pos k)]
      simp only [pace, Nat.add_mul, Nat.one_mul] at ih ⊢
      omega

/-- Some call is due at the timeout. -/
theorem exists_due :
    ∃ k, p.timeout.nanos ≤ p.due k := by
  refine ⟨p.timeout.nanos + 1, Nat.le_trans ?_ (p.pace_le_due p.timeout.nanos)⟩
  have hmul := Nat.le_mul_of_pos_right p.timeout.nanos p.poll_pos
  simp only [pace]
  omega

/-- The number of the last call: the first that is due at the timeout, or the
last that is allowed. -/
def lastCall : Nat :=
  min p.bound (Nat.find p.exists_due)

variable {p}

theorem lastCall_le_bound :
    p.lastCall ≤ p.bound :=
  Nat.min_le_left _ _

theorem lastCall_le_of_due
    {k : Nat}
    (hdue : p.timeout.nanos ≤ p.due k) :
    p.lastCall ≤ k :=
  Nat.le_trans (Nat.min_le_right _ _) (Nat.find_min' _ hdue)

/-- A call that is neither due at the timeout nor the last one allowed is not the last. -/
theorem lt_lastCall
    {k : Nat}
    (hle : k ≤ p.lastCall)
    (hbound : k < p.bound)
    (hdue : p.due k < p.timeout.nanos) :
    k < p.lastCall := by
  have hspec := Nat.find_spec p.exists_due
  refine Nat.lt_of_le_of_ne hle fun hlast => ?_
  rw [lastCall] at hlast
  have hfirst : k = Nat.find p.exists_due := by omega
  rw [← hfirst] at hspec
  omega

theorem lastCall_pos :
    0 < p.lastCall :=
  lt_lastCall (Nat.zero_le _) p.bound_pos p.timeout_pos

section Fixed

variable (hfixed : p.growth = .fixed) (hjitter : p.jitter = false)
include hfixed hjitter

/-- Without growth all calls are due on the pace of the plan. -/
theorem due_of_fixed
    (k : Nat) :
    p.due (k + 1) = p.pace k := by
  induction k with
  | zero =>
      simp [due, pace]
  | succ k ih =>
      have hinterval : p.interval (k + 1) = p.poll := by
        rw [← delay_of_unjittered hjitter (k + 1) 0, delay_of_fixed hfixed hjitter]
      rw [p.due_succ (Nat.add_one_pos k), ih, hinterval]
      simp only [pace, Nat.add_mul, Nat.one_mul]
      omega

/-- Without growth all attempts that the plan allows are due before the timeout,
the last one perhaps excepted. -/
theorem lastCall_of_fixed :
    p.lastCall = p.bound := by
  refine Nat.le_antisymm lastCall_le_bound (Nat.le_min.2 ⟨Nat.le_refl _, ?_⟩)
  rw [Nat.le_find_iff]
  intro k hk hdue
  cases k with
  | zero =>
      exact absurd p.timeout_pos (Nat.not_lt.2 hdue)
  | succ k =>
      have hroom : (k + 1) * p.poll.nanos ≤ p.timeout.nanos := by
        rw [← Nat.le_div_iff_mul_le p.poll_pos]
        simp only [bound] at hk
        omega
      have hpoll := p.poll_pos
      rw [due_of_fixed hfixed hjitter] at hdue
      simp only [pace, Nat.add_mul, Nat.one_mul] at hdue hroom
      omega

end Fixed

end Plan

namespace Wait

variable {α : Type}

section Schedule

variable {probe : Nat → Probe α} {draw : Nat → Nat} {p : Plan} {c : Classifier}
  {round : Round α} {nap : Nap} {fault : Fault}

/-- A round that keeps to the schedule of a plan, for a condition that brings
what the number of the call says. -/
structure Round.OnSchedule (p : Plan) (probe : Nat → Probe α) (round : Round α) : Prop where
  number_le : round.number ≤ p.lastCall
  probe_eq : round.answer.probe = probe round.number
  uncancelled : round.deciding.cancelled = false
  begun : round.answer.reading.elapsed.nanos = p.due round.number
  woken : ∀ nap, round.nap = some nap →
    nap.reading.elapsed.nanos = p.due (round.number + 1)

/-- An exact sleep ends when the next call is due. -/
theorem Round.Sleeps.woken_on_schedule
    (h : round.Sleeps p c fault nap)
    (hjitter : p.jitter = false)
    (hpos : 0 < round.number)
    (hbegun : round.answer.reading.elapsed.nanos = p.due round.number) :
    (round.answer.reading.elapsed.add nap.delay).nanos = p.due (round.number + 1) := by
  have hintime := Duration.lt_iff.1 h.pending.in_time
  rw [h.nanos_wake, h.delay_eq, p.due_succ hpos, ← hbegun, sleepDelay,
    Plan.delay_of_unjittered hjitter]
  simp only [Duration.nanos_min, Duration.nanos_sub]
  omega

/-- In the exact world every round keeps to the schedule. -/
theorem Unfolds.on_schedule
    {made : Nat} {now : Duration} {rounds : List (Round α)} {r : Run Duration α}
    (h : Unfolds (World.exact probe draw) p c made now rounds r)
    (hjitter : p.jitter = false)
    (hmade : made < p.lastCall)
    (hnow : now.nanos = p.due (made + 1)) :
    ∀ round ∈ rounds, round.OnSchedule p probe := by
  -- The clock stands where the next call is due.
  induction h with
  | @settled made now s₁ answer event outcome called judged =>
      obtain ⟨rfl, rfl⟩ := Prod.mk.inj called
      have hnext := nextAttempt_of_lt_bound (Nat.lt_of_lt_of_le hmade Plan.lastCall_le_bound)
      rw [hnext]
      intro round hround
      cases List.mem_singleton.1 hround
      exact ⟨hmade, rfl, rfl, hnow, fun nap hnap => by cases hnap⟩
  | @stopped made now s₁ s₂ answer event last outcome fault delay reading
      called judged slept resumed =>
      obtain ⟨rfl, rfl⟩ := Prod.mk.inj called
      obtain ⟨rfl, rfl⟩ := Prod.mk.inj slept
      obtain ⟨hsleeps, -⟩ := sleeps_of_judge judged ⟨now.add delay, false⟩
      have hnext := nextAttempt_of_lt_bound (Nat.lt_of_lt_of_le hmade Plan.lastCall_le_bound)
      rw [hnext] at hsleeps ⊢
      have hwake := hsleeps.woken_on_schedule hjitter (Nat.add_one_pos made) hnow
      intro round hround
      cases List.mem_singleton.1 hround
      exact ⟨hmade, rfl, rfl, hnow, fun nap hnap => by cases hnap; exact hwake⟩
  | @continued made now s₁ s₂ answer event fault delay reading rounds r
      called judged slept resumed rest ih =>
      obtain ⟨rfl, rfl⟩ := Prod.mk.inj called
      obtain ⟨rfl, rfl⟩ := Prod.mk.inj slept
      obtain ⟨hsleeps, -⟩ := sleeps_of_judge judged ⟨now.add delay, false⟩
      obtain ⟨-, hleft⟩ := (resume_eq_none_iff _ _ _ _ _).1 resumed
      have hnext := nextAttempt_of_lt_bound (Nat.lt_of_lt_of_le hmade Plan.lastCall_le_bound)
      rw [hnext] at hsleeps hleft ih ⊢
      have hwake := hsleeps.woken_on_schedule hjitter (Nat.add_one_pos made) hnow
      have hintime : p.due (made + 1) < p.timeout.nanos := by
        rw [← hnow]
        exact hsleeps.pending.in_time
      intro round hround
      rcases List.mem_cons.1 hround with rfl | hround
      · exact ⟨hmade, rfl, rfl, hnow, fun nap hnap => by cases hnap; exact hwake⟩
      · exact ih (Plan.lt_lastCall hmade hleft hintime) hwake round hround

/-- A wait on schedule that ends with a soft fault has made the last call, and
has lasted until one more would have been due. -/
theorem Round.OnSchedule.soft_end
    {event : Event} {outcome : Outcome α}
    (h : round.OnSchedule p probe)
    (hends : round.Ends p c event outcome)
    (hprobe : probe round.number = .error fault)
    (hsoft : c.classify fault = .soft) :
    round.number = p.lastCall ∧
      round.deciding.elapsed.nanos = p.due (p.lastCall + 1) ∧
      outcome = .timedOut fault p.lastCall round.deciding.elapsed false := by
  have hanswer := h.probe_eq.trans hprobe
  have hlast : p.lastCall ≤ round.number ∧
      round.deciding.elapsed.nanos = p.due (round.number + 1) := by
    cases hends with
    | settled hnap hjudged =>
        -- Had time been left, the answer would have been pending.
        obtain ⟨hended, -, -⟩ := (judge_eq_finished_iff _).1 hjudged
        have huncancelled := h.uncancelled
        simp only [Round.deciding, hnap] at huncancelled ⊢
        have hlate : p.timeout.nanos ≤ p.due round.number := by
          rw [← h.begun]
          exact Nat.le_of_not_lt fun hintime =>
            hended fault ⟨hanswer, hsoft, huncancelled, hintime⟩
        have hpos : 0 < round.number := Nat.pos_of_ne_zero fun hzero => by
          rw [hzero] at hlate
          exact absurd p.timeout_pos (Nat.not_lt.2 hlate)
        have hle := p.due_le_timeout round.number
        rw [h.begun, p.due_succ hpos]
        exact ⟨Plan.lastCall_le_of_due hlate, by omega⟩
    | @stopped fault' nap hsleeps hresumed =>
        obtain ⟨hover, -, -⟩ := resume_eq_some_iff.1 hresumed
        have huncancelled := h.uncancelled
        rw [hsleeps.deciding_eq] at huncancelled ⊢
        rw [huncancelled] at hover
        have hexhausted := hover.resolve_left Bool.false_ne_true
        exact ⟨Nat.le_trans Plan.lastCall_le_bound hexhausted, h.woken nap hsleeps.nap_eq⟩
  have hnumber := Nat.le_antisymm h.number_le hlast.1
  have houtcome := hends.outcome_eq.1
  rw [Round.outcome, hanswer, conclusion_soft c _ _ hsoft, h.uncancelled, hnumber] at houtcome
  rw [hnumber] at hlast
  exact ⟨hnumber, hlast.2, houtcome⟩

/-- A wait on schedule that ends with a condition that is met ends when the call was due. -/
theorem Round.OnSchedule.met_end
    {event : Event} {outcome : Outcome α} {value : α}
    (h : round.OnSchedule p probe)
    (hends : round.Ends p c event outcome)
    (hready : probe round.number = .ok value) :
    outcome = .success value ∧
      ∃ elapsed, elapsed.nanos = p.due round.number ∧
        event = .succeeded round.number elapsed := by
  have hprobe := h.probe_eq.trans hready
  obtain ⟨houtcome, hevent⟩ := hends.outcome_eq
  have hsuccess : round.outcome c = .success value :=
    (conclusion_eq_success_iff c round.number round.deciding).2 hprobe
  rw [hsuccess] at houtcome
  have hnap : round.nap = none := by
    cases hends with
    | settled hnap hjudged =>
        exact hnap
    | stopped hsleeps hresumed =>
        cases hprobe.symm.trans hsleeps.pending.probe_eq
  refine ⟨houtcome, round.answer.reading.elapsed, h.begun, ?_⟩
  rw [hevent, houtcome]
  simp only [Round.deciding, hnap, Outcome.closing]

/-- A wait on schedule ends with the first call that meets the condition, if this
call is not after the last one. -/
theorem Unfolds.number_eq_of_met
    {w : World Duration α} {s : Duration} {earlier : List (Round α)} {last : Round α}
    {r : Run Duration α} {n : Nat} {value : α}
    (h : Unfolds w p c 0 s (earlier ++ [last]) r)
    (hschedule : ∀ round ∈ earlier ++ [last], round.OnSchedule p probe)
    (hpos : 0 < n)
    (hle : n ≤ p.lastCall)
    (hsoft : ∀ k, 0 < k → k < n → SoftCall c probe k)
    (hready : probe n = .ok value) :
    last.number = n := by
  have hlast := hschedule last (by simp)
  obtain ⟨event, hends⟩ := h.ends_last
  rcases Nat.lt_trichotomy last.number n with hlt | heq | hgt
  · -- the wait would have ended with a soft fault before its last call
    obtain ⟨fault, hprobe, hverdict⟩ := hsoft last.number h.number_pos hlt
    have hend := (hlast.soft_end hends hprobe hverdict).1
    omega
  · exact heq
  · -- the wait would have gone on after the condition was met
    have hnumbered : Numbered probe (earlier ++ [last]) := fun round hround =>
      (hschedule round hround).probe_eq
    obtain ⟨fault, hprobe, -⟩ := h.softCall_of_lt hnumbered hpos hgt
    cases hprobe.symm.trans hready

/-- Between two readings that follow each other no time passes on schedule. -/
theorem Unfolds.lastRead_on_schedule
    {w : World Duration α} {s : Duration} {before after : List (Round α)}
    {r : Run Duration α}
    (h : Unfolds w p c 0 s (before ++ round :: after) r)
    (hschedule : ∀ any ∈ before ++ round :: after, any.OnSchedule p probe) :
    (lastRead before).nanos = p.due round.number := by
  rw [h.number_of_split]
  rcases List.eq_nil_or_concat before with rfl | ⟨front, previous, rfl⟩
  · rfl
  · simp only [List.concat_eq_append, List.append_assoc, List.singleton_append] at h hschedule ⊢
    obtain ⟨fault, nap, hsleeps, -⟩ := h.continues_of_split (List.cons_ne_nil _ _)
    have hwoken := (hschedule previous (by simp)).woken nap hsleeps.nap_eq
    rw [lastRead_concat, hsleeps.deciding_eq, hwoken, h.number_of_split, List.length_append,
      List.length_singleton]

end Schedule

/-- In the exact world, every call of a wait without jitter begins when it is
due.  A condition that is first met at a call which is not after the last one is
seen to be met when this call is due, and a condition that is not yet met at
the last call is given up on when one more would have been due.  Without growth
the last call is the last that the plan allows. -/
theorem run_follows_schedule
    (p : Plan) (hjitter : p.jitter = false) (c : Classifier)
    (probe : Nat → Probe α) (draw : Nat → Nat) :
    (p.due 1 = 0 ∧ ∀ k, 0 < k → ∀ d,
      p.due (k + 1) = min p.timeout.nanos (p.due k + (p.delay k d).nanos)) ∧
    (∃ rounds,
      Unfolds (World.exact probe draw) p c 0 .zero rounds
        (run (World.exact probe draw) p c .zero) ∧
      (∀ before round after, rounds = before ++ round :: after →
        (lastRead before).nanos = p.due (before.length + 1) ∧
        round.answer.reading.elapsed.nanos = p.due (before.length + 1)) ∧
      (∀ n value, 0 < n → n ≤ p.lastCall → (∀ k, 0 < k → k < n → SoftCall c probe k) →
        probe n = .ok value →
        rounds.length = n ∧
        (run (World.exact probe draw) p c .zero).outcome = .success value ∧
        ∃ elapsed, elapsed.nanos = p.due n ∧
          (run (World.exact probe draw) p c .zero).events.getLast? =
            some (.succeeded n elapsed)) ∧
      ((∀ k, 0 < k → k ≤ p.lastCall → SoftCall c probe k) →
        rounds.length = p.lastCall ∧
        ∃ fault elapsed, probe p.lastCall = .error fault ∧
          elapsed.nanos = p.due (p.lastCall + 1) ∧
          (run (World.exact probe draw) p c .zero).outcome =
            .timedOut fault p.lastCall elapsed false)) ∧
    (p.growth = .fixed → p.lastCall = p.bound) := by
  refine ⟨⟨rfl, fun k hk d => ?_⟩, ?_, fun hfixed => Plan.lastCall_of_fixed hfixed hjitter⟩
  · rw [p.due_succ hk, Plan.delay_of_unjittered hjitter]
  obtain ⟨rounds, hrun⟩ := unfolds_run (World.exact probe draw) p c .zero
  have hschedule := hrun.on_schedule hjitter Plan.lastCall_pos rfl
  obtain ⟨earlier, last, event, rfl, -, hends, hevents⟩ := hrun.ending
  have hlast := hschedule last (by simp)
  refine ⟨earlier ++ [last], hrun, ?_, ?_, ?_⟩
  · intro before round after hsplit
    rw [hsplit] at hrun hschedule
    rw [← hrun.number_of_split]
    exact ⟨hrun.lastRead_on_schedule hschedule, (hschedule round (by simp)).begun⟩
  · intro n value hpos hle hsoft hready
    obtain rfl := hrun.number_eq_of_met hschedule hpos hle hsoft hready
    obtain ⟨hsuccess, elapsed, hdue, hclosing⟩ := hlast.met_end hends hready
    refine ⟨hrun.number_last.symm, hsuccess, elapsed, hdue, ?_⟩
    rw [hevents, List.getLast?_concat, hclosing]
  · intro hsoft
    obtain ⟨fault, hprobe, hverdict⟩ := hsoft last.number hrun.number_pos hlast.number_le
    obtain ⟨hnumber, helapsed, hend⟩ := hlast.soft_end hends hprobe hverdict
    rw [hnumber] at hprobe
    exact ⟨hrun.number_last.symm.trans hnumber, fault, _, hprobe, helapsed, hend⟩

/-- Four calls are due, at 0, 4, 12 and 14 seconds. -/
theorem lastCall_growingFourInFourteen :
    growingFourInFourteen.lastCall = 4 := by
  have hbound : growingFourInFourteen.bound = 4 := by decide
  have hfirst : Nat.find growingFourInFourteen.exists_due = 4 :=
    (Nat.find_eq_iff _).2 ⟨by decide, by decide⟩
  rw [Plan.lastCall, hbound, hfirst]
  rfl

/-- A condition met at the third call, and one that is never met. -/
theorem run_follows_schedule_of_growth :
    growingFourInFourteen.jitter = false ∧
    (run (World.exact (heldFrom 3) id) growingFourInFourteen .strict .zero).outcome = .success () ∧
    (∃ elapsed : Duration, elapsed.nanos = 12000000000 ∧
      (run (World.exact (heldFrom 3) id) growingFourInFourteen .strict .zero).events.getLast? =
        some (.succeeded 3 elapsed)) ∧
    ∃ fault elapsed, elapsed.nanos = 14000000000 ∧
      (run (World.exact never id) growingFourInFourteen .strict .zero).outcome =
        .timedOut fault 4 elapsed false := by
  have hsoft : ∀ k, SoftCall .strict never k := fun k => ⟨_, rfl, rfl⟩
  have hheld : ∀ k, 0 < k → k < 3 → SoftCall .strict (heldFrom 3) k := fun k _ hk =>
    ⟨.notReady "pending", if_pos hk, rfl⟩
  obtain ⟨-, ⟨_, -, -, hready, -⟩, -⟩ :=
    run_follows_schedule growingFourInFourteen rfl .strict (heldFrom 3) id
  obtain ⟨-, ⟨_, -, -, -, hnever⟩, -⟩ :=
    run_follows_schedule growingFourInFourteen rfl .strict never id
  rw [lastCall_growingFourInFourteen] at hready hnever
  obtain ⟨-, hsuccess, elapsed, hdue, hevent⟩ := hready 3 () (by decide) (by decide) hheld rfl
  obtain ⟨-, fault, elapsed', -, hdue', houtcome⟩ := hnever fun k _ _ => hsoft k
  exact ⟨rfl, hsuccess, ⟨elapsed, hdue.trans (by decide), hevent⟩, fault, elapsed',
    hdue'.trans (by decide), houtcome⟩

end Wait
end BoundedWait

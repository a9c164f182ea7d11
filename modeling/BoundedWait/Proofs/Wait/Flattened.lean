import BoundedWait.Proofs.Plan.Building
import BoundedWait.Proofs.Wait.Cadence
import BoundedWait.Proofs.Wait.Numbered

/-!
# What growth and jitter cost

A plan is flattened when it neither grows nor jitters any more, while its poll
interval and its timeout stay (`Plan.Flattens`).  Two waits for the same
condition, one by a plan and one by the flattened plan, have exact sleeps and
nobody cancels them; the calls may take their time.

One gap between two calls can be shorter by the plan that grows, because its
sleep was cut short at the timeout.  The moments at which sleeps end are in
order nevertheless (`Plan.Flattens.wake_le`): what is slept by the flattened
plan leads to one poll interval later or to the timeout, and every other plan
leads at least as far.

* `Unfolds.outrun`: the flattened plan makes every call that the other one
  makes, and no later.
* `growth_and_jitter_only_delay`: so it makes no fewer calls, and ends as the
  other one does unless that one timed out.
-/

namespace BoundedWait

theorem Duration.add_le_add_right
    {a b : Duration}
    (h : a ≤ b)
    (d : Duration) :
    a.add d ≤ b.add d := by
  rw [le_iff] at h ⊢
  simp only [nanos_add]
  omega

namespace Plan

/-- When an exact sleep ends that is asked for at a moment. -/
def wake (p : Plan) (n draw : Nat) (elapsed : Duration) : Duration :=
  elapsed.add (Wait.sleepDelay p n draw elapsed)

/-- A plan with the times of another one that neither grows nor jitters. -/
structure Flattens (q p : Plan) : Prop where
  poll_eq : q.poll = p.poll
  timeout_eq : q.timeout = p.timeout
  fixed : q.growth = .fixed
  unjittered : q.jitter = false

/-- The plan with a fixed interval and the times of a plan flattens it. -/
theorem exists_flattens
    (p : Plan) :
    ∃ q, fixedEvery p.poll p.timeout = .ok q ∧ q.Flattens p := by
  have hvalid : (Draft.ofChanges [.poll p.poll, .timeout p.timeout]).Valid :=
    ⟨p.poll_pos, p.poll_le_timeout, standard.multiplier_finite, standard.one_le_multiplier,
      p.poll_le_timeout⟩
  exact ⟨hvalid.toPlan, Draft.build_of_valid hvalid, rfl, rfl, rfl, rfl⟩

namespace Flattens

variable {p q : Plan} (h : q.Flattens p)
include h

theorem bound_eq :
    q.bound = p.bound := by
  simp only [bound, h.poll_eq, h.timeout_eq]

/-- From an earlier moment a sleep by the flattened plan ends no later. -/
theorem wake_le
    {elapsed elapsed' : Duration}
    (hle : elapsed' ≤ elapsed)
    (hintime : elapsed < p.timeout)
    (n draw draw' : Nat) :
    q.wake n draw' elapsed' ≤ p.wake n draw elapsed := by
  have hdelay := Wait.min_le_sleepDelay p n draw elapsed
  rw [Duration.le_iff] at hle ⊢
  rw [Duration.lt_iff] at hintime
  simp only [wake, Wait.sleepDelay, delay_of_fixed h.fixed h.unjittered, h.poll_eq,
    h.timeout_eq, Duration.nanos_add, Duration.nanos_min, Duration.nanos_sub] at hdelay ⊢
  omega

end Flattens

end Plan

namespace Wait

variable {α : Type}

/-- The time read last in some rounds, and `start` before any. -/
def readFrom (start : Duration) (rounds : List (Round α)) : Duration :=
  (rounds.getLast?.map fun round => round.deciding.elapsed).getD start

theorem readFrom_cons
    (start : Duration) (round : Round α) (rounds : List (Round α)) :
    readFrom start (round :: rounds) = readFrom round.deciding.elapsed rounds := by
  cases hlast : rounds.getLast? <;> simp [readFrom, List.getLast?_cons, hlast]

section Timed

variable {probe : Nat → Probe α} {lasts : Nat → Duration} {draw draw' : Nat → Nat}
  {p q : Plan} {c : Classifier} {made : Nat} {now now' : Duration}
  {before after rest rounds : List (Round α)} {round : Round α} {r r' : Run Duration α}

/-- A round of the timed world that another one follows: its answer was pending,
an attempt was left, and the next call begins when the sleep ends. -/
theorem Unfolds.next_of_timed
    (h : Unfolds (World.timed probe lasts draw) p c made now (round :: rest) r)
    (hrest : rest ≠ []) :
    (∃ fault, ((World.timed probe lasts draw).attempt (nextAttempt made) now).1.Pending
      p c fault) ∧
      nextAttempt made < p.bound ∧
      round.deciding.elapsed = p.wake (nextAttempt made) (draw (nextAttempt made))
        (now.add (lasts (nextAttempt made))) ∧
      ∃ r', Unfolds (World.timed probe lasts draw) p c (nextAttempt made)
        round.deciding.elapsed rest r' := by
  cases h with
  | settled called judged =>
      exact absurd rfl hrest
  | stopped called judged slept resumed =>
      exact absurd rfl hrest
  | continued called judged slept resumed hlater =>
      obtain ⟨rfl, rfl⟩ := Prod.mk.inj called
      obtain ⟨rfl, rfl⟩ := Prod.mk.inj slept
      obtain ⟨hpending, rfl, -⟩ := (judge_eq_sleep_iff _).1 judged
      obtain ⟨-, hleft⟩ := (resume_eq_none_iff _ _ _ _ _).1 resumed
      exact ⟨⟨_, hpending⟩, hleft, rfl, _, hlater⟩

/-- A call takes its time from the moment that was read last. -/
theorem Unfolds.lasts_of_timed
    (h : Unfolds (World.timed probe lasts draw) p c made now (before ++ round :: after) r) :
    round.answer.reading.elapsed = (readFrom now before).add (lasts round.number) := by
  induction before generalizing made now r with
  | nil =>
      obtain ⟨nap, later, hfirst⟩ := h.exists_cons
      cases hfirst
      rfl
  | cons first before ih =>
      obtain ⟨-, -, -, r', hlater⟩ := h.next_of_timed (by simp)
      rw [readFrom_cons]
      exact ih hlater

/-- What is pending at some moment was pending before, by the flattened plan as well. -/
theorem Answer.Pending.of_flattens
    {fault : Fault} {n : Nat}
    (h : ((World.timed probe lasts draw).attempt n now).1.Pending p c fault)
    (hflat : q.Flattens p)
    (hnow : now' ≤ now) :
    ((World.timed probe lasts draw').attempt n now').1.Pending q c fault := by
  refine ⟨h.probe_eq, h.soft, rfl, ?_⟩
  rw [hflat.timeout_eq]
  exact Nat.lt_of_le_of_lt (Duration.add_le_add_right hnow (lasts n)) h.in_time

/-- The flattened plan makes every call that the other plan makes, and no later. -/
theorem Unfolds.outrun
    {rounds' : List (Round α)}
    (h : Unfolds (World.timed probe lasts draw) p c made now (before ++ round :: after) r)
    (h' : Unfolds (World.timed probe lasts draw') q c made now' rounds' r')
    (hflat : q.Flattens p)
    (hnow : now' ≤ now) :
    ∃ before' round' after', rounds' = before' ++ round' :: after' ∧
      before'.length = before.length ∧
      readFrom now' before' ≤ readFrom now before := by
  -- Each sleep of the wait that is behind also ends behind.
  induction before generalizing made now now' r rounds' r' with
  | nil =>
      obtain ⟨nap, later, rfl⟩ := h'.exists_cons
      exact ⟨[], _, later, rfl, rfl, hnow⟩
  | cons first before ih =>
      obtain ⟨⟨fault, hpending⟩, hleft, hwake, _, hlater⟩ := h.next_of_timed (by simp)
      obtain ⟨first', later, _, rfl, hgoes⟩ := h'.goes_on rfl
        (hpending.of_flattens hflat hnow) rfl rfl (hflat.bound_eq ▸ hleft)
      obtain ⟨-, -, hwake', _, hlater'⟩ := h'.next_of_timed
        (List.ne_nil_of_length_pos hgoes.length_pos)
      have hahead : first'.deciding.elapsed ≤ first.deciding.elapsed := by
        rw [hwake, hwake']
        exact hflat.wake_le (Duration.add_le_add_right hnow _) hpending.in_time _ _ _
      obtain ⟨before', round', after', rfl, hlength, hle⟩ := ih hlater hlater' hahead
      refine ⟨first' :: before', round', after', rfl, by simp [hlength], ?_⟩
      rwa [readFrom_cons, readFrom_cons]

end Timed

/-- Growth and jitter only slow polling down.  Of two waits in the timed world,
one by a plan and one by the flattened plan, the second makes every call that
the first one makes, and begins it no later; a call begins at the moment read
last and takes its time from then on.  So the first wait makes no more calls,
and if it ends with a value or by a fatal fault, then the second does so at the
same call. -/
theorem growth_and_jitter_only_delay
    (p : Plan) (c : Classifier) (probe : Nat → Probe α) (lasts : Nat → Duration)
    (draw draw' : Nat → Nat) :
    (∃ q, Plan.fixedEvery p.poll p.timeout = .ok q ∧ q.Flattens p) ∧
    ∀ q : Plan, q.Flattens p →
      ∃ rounds rounds',
        Unfolds (World.timed probe lasts draw) p c 0 .zero rounds
          (run (World.timed probe lasts draw) p c .zero) ∧
        Unfolds (World.timed probe lasts draw') q c 0 .zero rounds'
          (run (World.timed probe lasts draw') q c .zero) ∧
        (∀ before round after, rounds = before ++ round :: after →
          round.answer.reading.elapsed = (lastRead before).add (lasts round.number) ∧
          ∃ before' round' after', rounds' = before' ++ round' :: after' ∧
            round'.number = round.number ∧
            round'.answer.reading.elapsed = (lastRead before').add (lasts round.number) ∧
            lastRead before' ≤ lastRead before) ∧
        rounds.length ≤ rounds'.length ∧
        (∀ value, (run (World.timed probe lasts draw) p c .zero).outcome = .success value →
          (run (World.timed probe lasts draw') q c .zero).outcome = .success value ∧
            rounds'.length = rounds.length) ∧
        ∀ fault n elapsed,
          (run (World.timed probe lasts draw) p c .zero).outcome = .aborted fault n elapsed →
          (∃ elapsed', (run (World.timed probe lasts draw') q c .zero).outcome =
            .aborted fault n elapsed') ∧
            n = rounds.length ∧ rounds'.length = rounds.length := by
  refine ⟨p.exists_flattens, fun q hflat => ?_⟩
  obtain ⟨rounds, hrun⟩ := unfolds_run (World.timed probe lasts draw) p c .zero
  obtain ⟨rounds', hrun'⟩ := unfolds_run (World.timed probe lasts draw') q c .zero
  have hcalls : ∀ before round after, rounds = before ++ round :: after →
      round.answer.reading.elapsed = (lastRead before).add (lasts round.number) ∧
      ∃ before' round' after', rounds' = before' ++ round' :: after' ∧
        round'.number = round.number ∧
        round'.answer.reading.elapsed = (lastRead before').add (lasts round.number) ∧
        lastRead before' ≤ lastRead before := by
    rintro before round after rfl
    obtain ⟨before', round', after', rfl, hlength, hle⟩ :=
      hrun.outrun hrun' hflat (Nat.le_refl _)
    have hnumber : round'.number = round.number := by
      rw [hrun.number_of_split, hrun'.number_of_split, hlength]
    exact ⟨hrun.lasts_of_timed, before', round', after', rfl, hnumber,
      hnumber ▸ hrun'.lasts_of_timed, hle⟩
  have hle : rounds.length ≤ rounds'.length := by
    obtain ⟨earlier, last, event, rfl, -⟩ := hrun.ending
    obtain ⟨-, before', round', after', rfl, hnumber, -⟩ := hcalls earlier last [] rfl
    rw [hrun'.number_of_split, hrun.number_last] at hnumber
    rw [← hnumber]
    simp
  exact ⟨rounds, rounds', hrun, hrun', hcalls, hle,
    hrun.ends_alike hrun' (hrun.numbered fun _ _ => rfl) (hrun'.numbered fun _ _ => rfl) hle⟩

/-- The flattened plan of one whose intervals grow. -/
def fourInFourteen : Plan := growingFourInFourteen.withGrowth .fixed

/-- Calls of one second, of which the third holds.  With growth it begins at 14
seconds, at the timeout. -/
theorem growth_and_jitter_only_delay_of_growth :
    fourInFourteen.Flattens growingFourInFourteen ∧
    (run (World.timed (heldFrom 3) (fun _ => .ofSeconds 1) id) growingFourInFourteen .strict
      .zero).outcome = .success () ∧
    (run (World.timed (heldFrom 3) (fun _ => .ofSeconds 1) id) fourInFourteen .strict
      .zero).outcome = .success () := by
  have hflat : fourInFourteen.Flattens growingFourInFourteen := ⟨rfl, rfl, rfl, rfl⟩
  have hrun : Unfolds (World.timed (heldFrom 3) (fun _ => .ofSeconds 1) id)
      growingFourInFourteen .strict 0 .zero _ ⟨_, .success (), _⟩ :=
    .continued rfl rfl rfl rfl (.continued rfl rfl rfl rfl (.settled rfl rfl))
  have houtcome := (congrArg Run.outcome hrun.eq_run).symm
  obtain ⟨_, _, -, -, -, -, hsuccess, -⟩ :=
    (growth_and_jitter_only_delay growingFourInFourteen .strict (heldFrom 3)
      (fun _ => .ofSeconds 1) id id).2 _ hflat
  exact ⟨hflat, houtcome, (hsuccess () houtcome).1⟩

end Wait
end BoundedWait

import BoundedWait.Proofs.Wait.Attempts
import BoundedWait.Proofs.Wait.Schedule

/-!
# Sleeps that are cut short

A sleep is cut short when less is left of the timeout than the plan asks for.  It
ends at the timeout then, but this alone does not end the wait: after a sleep
only the attempts count (`Unfolds.after_shortened`).

* A plan that neither grows nor jitters has no attempt left in the exact world,
  so a condition that comes to hold during the sleep is not seen to hold
  (`partial_interval_unseen_of_fixed`).
* A plan that grows uses up its timeout with fewer attempts than it allows.  One
  more call follows then, and sees what came to hold
  (`partial_interval_seen_of_growth`).
-/

namespace BoundedWait

/-- If one more poll interval leads beyond the timeout, no attempt is left. -/
theorem Plan.bound_le_of_beyond
    {p : Plan} {k : Nat}
    (hintime : p.pace k < p.timeout.nanos)
    (hbeyond : p.timeout.nanos < p.pace k + p.poll.nanos) :
    p.bound ≤ k + 1 := by
  have hnext : p.timeout.nanos < (k + 1) * p.poll.nanos := by
    simp only [pace, Nat.add_mul, Nat.one_mul] at hintime hbeyond ⊢
    omega
  have hfull := (Nat.div_lt_iff_lt_mul p.poll_pos).2 hnext
  rw [p.bound_eq]
  omega

namespace Wait

variable {σ α : Type}

/-- The plan asks for a longer sleep than is left of the timeout. -/
def Round.Shortened (p : Plan) (round : Round α) : Prop :=
  p.timeout.nanos <
    round.answer.reading.elapsed.nanos + (p.delay round.number round.answer.draw).nanos

section Shortened

variable {w : World σ α} {p : Plan} {c : Classifier} {made : Nat} {s : σ} {r : Run σ α}
  {before after : List (Round α)} {round : Round α} {nap : Nap} {fault : Fault}

/-- A sleep that was cut short and lasts ends at the timeout. -/
theorem Round.Sleeps.timeout_le_of_shortened
    (h : round.Sleeps p c fault nap)
    (hshort : round.Shortened p)
    (hlasting : round.answer.reading.elapsed.nanos + nap.delay.nanos ≤
      nap.reading.elapsed.nanos) :
    p.timeout ≤ nap.reading.elapsed := by
  have hintime := Duration.lt_iff.1 h.pending.in_time
  rw [Round.Shortened] at hshort
  rw [h.delay_eq, sleepDelay] at hlasting
  simp only [Duration.nanos_min, Duration.nanos_sub] at hlasting
  rw [Duration.le_iff]
  omega

/-- A sleep that was not cancelled is the end of a wait only if no attempt is left. -/
theorem Unfolds.bound_le_of_nap
    (h : Unfolds w p c made s (before ++ [round]) r)
    (hnap : round.nap = some nap)
    (huncancelled : nap.reading.cancelled = false) :
    p.bound ≤ round.number ∧ ∃ fault, round.answer.probe = .error fault ∧
      r.outcome = .timedOut fault round.number nap.reading.elapsed false := by
  obtain ⟨event, hends⟩ := h.ends_last
  cases hends with
  | settled hnone hjudged =>
      cases hnap.symm.trans hnone
  | @stopped fault nap' hsleeps hresumed =>
      cases hnap.symm.trans hsleeps.nap_eq
      obtain ⟨hover, houtcome, -⟩ := resume_eq_some_iff.1 hresumed
      rw [huncancelled] at hover houtcome
      exact ⟨hover.resolve_left Bool.false_ne_true, fault, hsleeps.pending.probe_eq, houtcome⟩

/-- In a steady world, a sleep that was cut short is followed by one more call
if an attempt is left, and by none otherwise. -/
theorem Unfolds.after_shortened
    (h : Unfolds w p c made s (before ++ round :: after) r)
    (hsteady : Steady (before ++ round :: after))
    (hnap : round.nap = some nap)
    (huncancelled : nap.reading.cancelled = false)
    (hshort : round.Shortened p) :
    p.timeout ≤ nap.reading.elapsed ∧
      ((p.bound ≤ round.number ∧ after = []) ∨
        round.number < p.bound ∧ ∃ last, after = [last]) := by
  obtain ⟨fault, hsleeps⟩ := h.sleeps_of_nap (by simp) hnap
  have hlate := hsleeps.timeout_le_of_shortened hshort
    (hsteady.lasting round (by simp) nap hnap huncancelled)
  refine ⟨hlate, ?_⟩
  cases after with
  | nil =>
      exact Or.inl ⟨(h.bound_le_of_nap hnap huncancelled).1, rfl⟩
  | cons next rest =>
      obtain ⟨_, _, -, -, hleft⟩ := h.continues_of_split (List.cons_ne_nil _ _)
      have hread := hsteady.of_append.le_of_nap (t := next.answer.reading.elapsed) hnap
        (by simp [Round.times])
      rw [List.append_cons] at h
      rw [h.last_of_late (Nat.le_trans hlate hread)]
      exact Or.inr ⟨hleft, next, rfl⟩

end Shortened

/-- In a steady world, a sleep that was cut short ends at the timeout.  If the
attempts are used up, the wait ends there with the last fault.  Otherwise it
makes one more call, and ends as this call says. -/
theorem shortened_sleep_leaves_one_call
    (w : World σ α) (p : Plan) (c : Classifier) (s : σ)
    (before after : List (Round α)) (round : Round α) (nap : Nap)
    (hrun : Unfolds w p c 0 s (before ++ round :: after) (run w p c s))
    (hsteady : Steady (before ++ round :: after))
    (hnap : round.nap = some nap)
    (huncancelled : nap.reading.cancelled = false)
    (hshort : round.Shortened p) :
    p.timeout ≤ nap.reading.elapsed ∧
      (p.bound ≤ round.number → after = [] ∧ ∃ fault, round.answer.probe = .error fault ∧
        (run w p c s).outcome = .timedOut fault round.number nap.reading.elapsed false) ∧
      (round.number < p.bound → ∃ last, after = [last] ∧
        (run w p c s).outcome = last.outcome c) := by
  obtain ⟨hlate, hafter⟩ := hrun.after_shortened hsteady hnap huncancelled hshort
  refine ⟨hlate, ?_, ?_⟩
  · intro hexhausted
    rcases hafter with ⟨-, rfl⟩ | ⟨hleft, -⟩
    · exact ⟨rfl, (hrun.bound_le_of_nap hnap huncancelled).2⟩
    · exact absurd hleft (Nat.not_lt.2 hexhausted)
  · intro hleft
    rcases hafter with ⟨hexhausted, -⟩ | ⟨-, last, rfl⟩
    · exact absurd hleft (Nat.not_lt.2 hexhausted)
    · rw [List.append_cons] at hrun
      obtain ⟨event, hends⟩ := hrun.ends_last
      exact ⟨last, rfl, hends.outcome_eq.1⟩

/-- The last of three sleeps is cut short, and no attempt is left. -/
theorem shortened_sleep_leaves_one_call_of_three :
    (pendingRound 3 6 7).Shortened threeInSeven ∧
    threeInSeven.timeout ≤ .ofSeconds 7 ∧
    ∃ fault, (run (World.exact never id) threeInSeven .strict .zero).outcome =
      .timedOut fault 3 (.ofSeconds 7) false := by
  have hrun : Unfolds (World.exact never id) threeInSeven .strict 0 .zero
      ([pendingRound 1 0 3, pendingRound 2 3 6] ++ [pendingRound 3 6 7])
      ⟨_, .timedOut (.notReady "pending") 3 (.ofSeconds 7) false, _⟩ :=
    .continued rfl rfl rfl rfl (.continued rfl rfl rfl rfl (.stopped rfl rfl rfl rfl))
  obtain ⟨hsteady, -⟩ := hrun.steady_of_exact
  rw [hrun.eq_run] at hrun
  have hshort : (pendingRound 3 6 7).Shortened threeInSeven := by
    unfold Round.Shortened
    decide
  obtain ⟨hlate, hends, -⟩ :=
    shortened_sleep_leaves_one_call _ _ _ _ _ [] _ _ hrun hsteady rfl rfl hshort
  obtain ⟨-, fault, -, houtcome⟩ := hends (by decide)
  exact ⟨hshort, hlate, fault, houtcome⟩

/-- A plan that neither grows nor jitters cuts a sleep short in the exact world
only when its attempts are used up, and the wait ends with that sleep. -/
theorem partial_interval_unseen_of_fixed
    {p : Plan} (hfixed : p.growth = .fixed) (hjitter : p.jitter = false) (c : Classifier)
    (probe : Nat → Probe α) (draw : Nat → Nat)
    (before after : List (Round α)) (round : Round α) (nap : Nap)
    (hrun : Unfolds (World.exact probe draw) p c 0 .zero (before ++ round :: after)
      (run (World.exact probe draw) p c .zero))
    (hnap : round.nap = some nap)
    (hshort : round.Shortened p) :
    after = [] ∧ ∃ fault, (run (World.exact probe draw) p c .zero).outcome =
      .timedOut fault round.number nap.reading.elapsed false := by
  have hschedule := hrun.on_schedule hjitter Plan.lastCall_pos rfl
  have hround := hschedule round (by simp)
  obtain ⟨fault, hsleeps⟩ := hrun.sleeps_of_nap (by simp) hnap
  have huncancelled := hround.uncancelled
  rw [hsleeps.deciding_eq] at huncancelled
  -- The call was due on the pace of the plan, and the next one would be due after the timeout.
  have hexhausted : p.bound ≤ round.number := by
    have hbegun : round.answer.reading.elapsed.nanos = p.pace before.length := by
      rw [hround.begun, hrun.number_of_split, Plan.due_of_fixed hfixed hjitter]
    have hintime := hsleeps.pending.in_time
    rw [Duration.lt_iff, hbegun] at hintime
    rw [Round.Shortened, Plan.delay_of_fixed hfixed hjitter, hbegun] at hshort
    rw [hrun.number_of_split]
    exact Plan.bound_le_of_beyond hintime hshort
  obtain ⟨hsteady, -⟩ := hrun.steady_of_exact
  obtain ⟨-, hafter⟩ := hrun.after_shortened hsteady hnap huncancelled hshort
  rcases hafter with ⟨-, rfl⟩ | ⟨hleft, -⟩
  · obtain ⟨-, fault, -, houtcome⟩ := hrun.bound_le_of_nap hnap huncancelled
    exact ⟨rfl, fault, houtcome⟩
  · exact absurd hleft (Nat.not_lt.2 hexhausted)

/-- The timeout is no multiple of the poll interval, the third sleep is cut
short, and yet a condition that comes to hold during this sleep is met. -/
theorem partial_interval_seen_of_growth :
    ¬ growingFourInFourteen.poll.nanos ∣ growingFourInFourteen.timeout.nanos ∧
    (pendingRound 3 12 14).Shortened growingFourInFourteen ∧
    ∃ last,
      Unfolds (World.exact (heldFrom 4) id) growingFourInFourteen .strict 0 .zero
        (growingRounds ++ [last])
        (run (World.exact (heldFrom 4) id) growingFourInFourteen .strict .zero) ∧
      (run (World.exact (heldFrom 4) id) growingFourInFourteen .strict .zero).outcome =
        .success () := by
  have hrun : Unfolds (World.exact (heldFrom 4) id) growingFourInFourteen .strict 0 .zero
      (growingRounds ++ [⟨4, ⟨.ok (), ⟨.ofSeconds 14, false⟩, 4⟩, none⟩])
      ⟨_, .success (), _⟩ :=
    .continued rfl rfl rfl rfl (.continued rfl rfl rfl rfl
      (.continued rfl rfl rfl rfl (.settled rfl rfl)))
  have houtcome := (congrArg Run.outcome hrun.eq_run).symm
  rw [hrun.eq_run] at hrun
  exact ⟨by decide, by unfold Round.Shortened; decide, _, hrun, houtcome⟩

end Wait
end BoundedWait

import BoundedWait.Proofs.Wait.Unfolding

/-!
# The pace of a wait

When the clock never goes back and sleeps are not cut short, `k` sleeps bring a
wait to `k` poll intervals, or to its timeout if that is earlier: no plan,
however it grows and jitters, asks for less than its poll interval, and only
what is left of the timeout cuts an interval short (`Unfolds.on_pace`).

The bound of a plan leaves room for as many sleeps as the timeout holds poll
intervals, unless the counter of attempts is too narrow for that
(`Plan.timeout_le_bound_mul_poll`).
-/

namespace BoundedWait

/-- The least time, in nanoseconds, that `k` sleeps take. -/
def Plan.pace (p : Plan) (k : Nat) : Nat :=
  min p.timeout.nanos (k * p.poll.nanos)

/-- As many poll intervals as attempts reach the timeout, as long as the
counter does. -/
theorem Plan.timeout_le_bound_mul_poll
    {p : Plan}
    (hcounter : p.timeout.nanos ≤ counterLimit * p.poll.nanos) :
    p.timeout.nanos ≤ p.bound * p.poll.nanos := by
  have hfull : p.timeout.nanos < (p.timeout.nanos / p.poll.nanos + 1) * p.poll.nanos :=
    (Nat.div_lt_iff_lt_mul p.poll_pos).1 (Nat.lt_succ_self _)
  have hcases : p.bound = p.timeout.nanos / p.poll.nanos + 1 ∨ p.bound = counterLimit := by
    simp only [bound]
    omega
  rcases hcases with hbound | hbound
  · rw [hbound]
    exact Nat.le_of_lt hfull
  · rw [hbound]
    exact hcounter

namespace Wait

variable {σ α : Type}

/-- The times read in a round. -/
def Round.times (round : Round α) : List Duration :=
  round.answer.reading.elapsed :: (round.nap.map fun nap => nap.reading.elapsed).toList

/-- A clock that never goes back, and sleeps that last at least as long as was
asked for unless the signal ends them. -/
structure Steady (rounds : List (Round α)) : Prop where
  ordered : (rounds.flatMap Round.times).Pairwise (· ≤ ·)
  lasting : ∀ round ∈ rounds, ∀ nap, round.nap = some nap →
    nap.reading.cancelled = false →
    round.answer.reading.elapsed.nanos + nap.delay.nanos ≤ nap.reading.elapsed.nanos

section Pace

variable {w : World σ α} {p : Plan} {c : Classifier}

theorem steady_nil :
    Steady ([] : List (Round α)) :=
  ⟨List.Pairwise.nil, by simp⟩

/-- A round with a lasting sleep comes before all that is read after it. -/
theorem Steady.cons
    {round : Round α} {rounds : List (Round α)} {nap : Nap}
    (h : Steady rounds)
    (hnap : round.nap = some nap)
    (hlasting : round.answer.reading.elapsed.nanos + nap.delay.nanos ≤
      nap.reading.elapsed.nanos)
    (hafter : ∀ t ∈ rounds.flatMap Round.times, nap.reading.elapsed ≤ t) :
    Steady (round :: rounds) := by
  refine ⟨?_, ?_⟩
  · rw [List.flatMap_cons, List.pairwise_append]
    refine ⟨?_, h.ordered, ?_⟩
    · simp only [Round.times, hnap, Option.map_some, Option.toList_some,
        List.pairwise_pair, Duration.le_iff]
      omega
    · intro t ht u hu
      have hlater := Duration.le_iff.1 (hafter u hu)
      simp only [Round.times, hnap, Option.map_some, Option.toList_some, List.mem_cons,
        List.not_mem_nil, or_false] at ht
      rw [Duration.le_iff]
      rcases ht with rfl | rfl <;> omega
  · intro later hmem nap' hnap' hcancelled
    rcases List.mem_cons.1 hmem with rfl | hmem
    · cases hnap.symm.trans hnap'
      exact hlasting
    · exact h.lasting later hmem nap' hnap' hcancelled

theorem Steady.tail
    {round : Round α} {rounds : List (Round α)}
    (h : Steady (round :: rounds)) :
    Steady rounds := by
  obtain ⟨hordered, hlasting⟩ := h
  rw [List.flatMap_cons, List.pairwise_append] at hordered
  exact ⟨hordered.2.1, fun later hlater => hlasting later (List.mem_cons_of_mem _ hlater)⟩

theorem Steady.of_append
    {before rounds : List (Round α)}
    (h : Steady (before ++ rounds)) :
    Steady rounds := by
  induction before with
  | nil =>
      exact h
  | cons round before ih =>
      exact ih h.tail

/-- What is read after a sleep is no later than all that is read afterwards. -/
theorem Steady.le_of_nap
    {round : Round α} {rounds : List (Round α)} {nap : Nap} {t : Duration}
    (h : Steady (round :: rounds))
    (hnap : round.nap = some nap)
    (ht : t ∈ rounds.flatMap Round.times) :
    nap.reading.elapsed ≤ t := by
  have hordered := h.ordered
  rw [List.flatMap_cons, List.pairwise_append] at hordered
  refine hordered.2.2 _ ?_ t ht
  simp [Round.times, hnap]

/-- No sleep is shorter than the poll interval or what is left of the timeout. -/
theorem min_le_sleepDelay
    (p : Plan) (n draw : Nat) (elapsed : Duration) :
    min p.poll.nanos (p.timeout.nanos - elapsed.nanos) ≤
      (sleepDelay p n draw elapsed).nanos := by
  have hpoll := Duration.le_iff.1 (p.poll_le_delay n draw)
  simp only [sleepDelay, Duration.nanos_min, Duration.nanos_sub]
  omega

/-- A sleep that lasts takes the wait one step on its pace. -/
theorem Round.Sleeps.pace_le
    {round : Round α} {fault : Fault} {nap : Nap} {k : Nat}
    (h : round.Sleeps p c fault nap)
    (hbefore : p.pace k ≤ round.answer.reading.elapsed.nanos)
    (hlasting : round.answer.reading.elapsed.nanos + nap.delay.nanos ≤
      nap.reading.elapsed.nanos) :
    p.pace (k + 1) ≤ nap.reading.elapsed.nanos := by
  have hdelay := min_le_sleepDelay p round.number round.answer.draw
    round.answer.reading.elapsed
  rw [← h.delay_eq] at hdelay
  simp only [Plan.pace, Nat.add_mul, Nat.one_mul] at hbefore ⊢
  omega

theorem Steady.pace_of_sleeps
    {round : Round α} {rounds : List (Round α)} {fault : Fault} {nap : Nap} {made : Nat}
    (h : Steady (round :: rounds))
    (hsleeps : round.Sleeps p c fault nap)
    (hcancelled : nap.reading.cancelled = false)
    (hstart : ∀ t ∈ (round :: rounds).flatMap Round.times, p.pace made ≤ t.nanos) :
    p.pace (made + 1) ≤ nap.reading.elapsed.nanos := by
  have hbefore := hstart round.answer.reading.elapsed (by simp [Round.times])
  have hlasting := h.lasting round List.mem_cons_self nap hsleeps.nap_eq hcancelled
  exact hsleeps.pace_le hbefore hlasting

/-- Every sleep that was not cancelled ends on the pace of the plan. -/
theorem Unfolds.on_pace
    {made : Nat} {s : σ} {rounds : List (Round α)} {r : Run σ α}
    (h : Unfolds w p c made s rounds r)
    (hmade : made < p.bound)
    (hsteady : Steady rounds)
    (hstart : ∀ t ∈ rounds.flatMap Round.times, p.pace made ≤ t.nanos) :
    ∀ round ∈ rounds, ∀ nap, round.nap = some nap → nap.reading.cancelled = false →
      p.pace round.number ≤ nap.reading.elapsed.nanos := by
  -- What carries the induction: no time still to be read is below the pace of `made` sleeps.
  induction h with
  | settled called judged =>
      intro round hround nap hnap
      cases List.mem_singleton.1 hround
      cases hnap
  | @stopped made s s₁ s₂ answer event last outcome fault delay reading
      called judged slept resumed =>
      intro round hround nap hnap hcancelled
      cases List.mem_singleton.1 hround
      cases hnap
      obtain ⟨hsleeps, -⟩ := sleeps_of_judge judged reading
      have hpace := hsteady.pace_of_sleeps hsleeps hcancelled hstart
      rwa [← nextAttempt_of_lt_bound hmade] at hpace
  | @continued made s s₁ s₂ answer event fault delay reading rounds r
      called judged slept resumed rest ih =>
      obtain ⟨hsleeps, -⟩ := sleeps_of_judge judged reading
      obtain ⟨huncancelled, hleft⟩ := (resume_eq_none_iff _ _ _ _ _).1 resumed
      have hpace := hsteady.pace_of_sleeps hsleeps huncancelled hstart
      rw [← nextAttempt_of_lt_bound hmade] at hpace
      intro round hround nap hnap hcancelled
      rcases List.mem_cons.1 hround with rfl | hround
      · cases hnap
        exact hpace
      · refine ih hleft hsteady.tail ?_ round hround nap hnap hcancelled
        intro t ht
        exact Nat.le_trans hpace (hsteady.le_of_nap rfl ht)

/-- A wait in a steady world that times out without being cancelled has taken
its whole timeout, unless the counter of attempts is too narrow for the plan. -/
theorem Unfolds.timeout_le
    {s : σ} {rounds : List (Round α)} {r : Run σ α}
    {fault : Fault} {attempts : Nat} {elapsed : Duration}
    (h : Unfolds w p c 0 s rounds r)
    (hcounter : p.timeout.nanos ≤ Plan.counterLimit * p.poll.nanos)
    (hsteady : Steady rounds)
    (houtcome : r.outcome = .timedOut fault attempts elapsed false) :
    p.timeout ≤ elapsed := by
  have hstart : ∀ t ∈ rounds.flatMap Round.times, p.pace 0 ≤ t.nanos := by
    intro t _
    simp [Plan.pace]
  have hpace := h.on_pace p.bound_pos hsteady hstart
  obtain ⟨earlier, last, event, rfl, -, hends, -⟩ := h.ending
  rw [hends.outcome_eq.1] at houtcome
  obtain ⟨hprobe, hsoft, -, rfl, huncancelled⟩ := (conclusion_eq_timedOut_iff c _ _).1 houtcome
  cases hends with
  | settled hnap hjudged =>
      -- Had time been left, the answer would have been pending.
      obtain ⟨hended, -, -⟩ := (judge_eq_finished_iff _).1 hjudged
      simp only [Round.deciding, hnap] at huncancelled ⊢
      refine Nat.le_of_not_lt fun hintime => ?_
      exact hended fault ⟨hprobe, hsoft, huncancelled.symm, hintime⟩
  | @stopped fault' nap hsleeps hresumed =>
      -- The attempts are used up, and so many sleeps have reached the timeout.
      rw [hsleeps.deciding_eq] at huncancelled ⊢
      obtain ⟨hover, -, -⟩ := resume_eq_some_iff.1 hresumed
      have hexhausted : p.bound ≤ last.number := by
        rcases hover with hcancelled | hexhausted
        · cases hcancelled.symm.trans huncancelled.symm
        · exact hexhausted
      have hreached := Plan.timeout_le_bound_mul_poll hcounter
      have hlast := hpace last (by simp) nap hsleeps.nap_eq huncancelled.symm
      have hmul := Nat.mul_le_mul_right p.poll.nanos hexhausted
      simp only [Plan.pace] at hlast
      rw [Duration.le_iff]
      omega

end Pace

end Wait
end BoundedWait

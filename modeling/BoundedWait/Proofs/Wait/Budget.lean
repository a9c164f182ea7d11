import BoundedWait.Proofs.Wait.Unfolding
import BoundedWait.Plan.Preset

/-!
# The budget of a wait

A wait asks for a sleep only while time is left, and never for more than what is
left (`Round.Sleeps.delay_fits`), whatever the plan would like.  So when sleeps
last no more than `slack` longer than was asked for, no call of the condition
begins later than that after the timeout, and only the last call can take the
wait beyond.

The loop itself takes no time: a call begins at the time that was read last.
-/

namespace BoundedWait

variable {σ α : Type}

/-- The time that the last event of a wait reports. -/
def Event.elapsed? : Event → Option Duration
  | .started .. | .notReady .. | .cancelled .. => none
  | .succeeded _ elapsed | .timedOut _ _ elapsed | .aborted _ _ elapsed => some elapsed

namespace Wait

/-- The time read last in some rounds, and the start of the clock before any. -/
def lastRead (rounds : List (Round α)) : Duration :=
  (rounds.getLast?.map fun round => round.deciding.elapsed).getD .zero

/-- Sleeps that last at most `slack` nanoseconds longer than was asked for. -/
def Timely (slack : Nat) (rounds : List (Round α)) : Prop :=
  ∀ round ∈ rounds, ∀ nap, round.nap = some nap →
    nap.reading.elapsed.nanos ≤
      round.answer.reading.elapsed.nanos + nap.delay.nanos + slack

section Reports

variable (c : Classifier) (n : Nat) (probe : Probe α) (reading : Reading)

theorem elapsed?_conclusion
    {elapsed : Duration}
    (h : (conclusion c n probe reading).elapsed? = some elapsed) :
    elapsed = reading.elapsed := by
  rcases conclusion_cases c n reading probe with
    ⟨value, -, hend⟩ | ⟨fault, -, -, hend⟩ | ⟨fault, -, -, hend⟩
  · rw [hend] at h
    cases h
  · rw [hend] at h
    cases h
    rfl
  · rw [hend] at h
    cases h
    rfl

theorem elapsed?_closing
    {elapsed : Duration}
    (h : ((conclusion c n probe reading).closing n reading.elapsed).elapsed? = some elapsed) :
    elapsed = reading.elapsed := by
  rcases conclusion_cases c n reading probe with
    ⟨value, -, hend⟩ | ⟨fault, -, -, hend⟩ | ⟨fault, -, -, hend⟩
  · rw [hend] at h
    cases h
    rfl
  · rw [hend] at h
    simp only [Outcome.closing] at h
    split at h
    · cases h
    · cases h
      rfl
  · rw [hend] at h
    cases h
    rfl

end Reports

section Budget

variable {w : World σ α} {p : Plan} {c : Classifier} {round : Round α} {fault : Fault}
  {nap : Nap} {slack : Nat}

/-- A sleep is asked for while time is left, is not empty, and fits into what is left. -/
theorem Round.Sleeps.delay_fits
    (h : round.Sleeps p c fault nap) :
    round.answer.reading.elapsed < p.timeout ∧
      0 < nap.delay.nanos ∧
      round.answer.reading.elapsed.nanos + nap.delay.nanos ≤ p.timeout.nanos := by
  have hintime := Duration.lt_iff.1 h.pending.in_time
  have hpoll := p.poll_pos
  have hwanted := Duration.le_iff.1 (p.poll_le_delay round.number round.answer.draw)
  have hdelay := congrArg Duration.nanos h.delay_eq
  simp only [sleepDelay, Duration.nanos_min, Duration.nanos_sub] at hdelay
  refine ⟨h.pending.in_time, ?_, ?_⟩
  · omega
  · omega

/-- After a timely sleep the timeout is exceeded by the slack at most. -/
theorem Round.Sleeps.deciding_le
    {rounds : List (Round α)}
    (h : round.Sleeps p c fault nap)
    (htimely : Timely slack rounds)
    (hround : round ∈ rounds) :
    round.deciding.elapsed.nanos ≤ p.timeout.nanos + slack := by
  have hfits := h.delay_fits.2.2
  have hlasts := htimely round hround nap h.nap_eq
  rw [h.deciding_eq]
  omega

theorem Unfolds.delays_fit
    {made : Nat} {s : σ} {rounds : List (Round α)} {r : Run σ α}
    (h : Unfolds w p c made s rounds r) :
    ∀ round ∈ rounds, ∀ nap, round.nap = some nap →
      round.answer.reading.elapsed < p.timeout ∧
      0 < nap.delay.nanos ∧
      round.answer.reading.elapsed.nanos + nap.delay.nanos ≤ p.timeout.nanos := by
  intro round hround nap hnap
  obtain ⟨fault, hsleeps⟩ := h.sleeps_of_nap hround hnap
  exact hsleeps.delay_fits

/-- Every round before the last one ends within the timeout and the slack. -/
theorem lastRead_le
    {earlier : List (Round α)}
    (hearlier : ∀ round ∈ earlier, round.Continues p c)
    (htimely : Timely slack earlier) :
    (lastRead earlier).nanos ≤ p.timeout.nanos + slack := by
  cases hlast : earlier.getLast? with
  | none =>
      simp [lastRead, hlast, Duration.zero]
  | some round =>
      have hround := List.mem_of_getLast? hlast
      obtain ⟨fault, nap, hsleeps, -⟩ := hearlier round hround
      simp only [lastRead, hlast, Option.map_some, Option.getD_some]
      exact hsleeps.deciding_le htimely hround

/-- Only the call that a wait ends with can exceed the timeout and the slack. -/
theorem Round.Ends.deciding_le
    {earlier : List (Round α)} {event : Event} {outcome : Outcome α}
    (h : round.Ends p c event outcome)
    (htimely : Timely slack (earlier ++ [round]))
    (hbegins : (lastRead earlier).nanos ≤ p.timeout.nanos + slack) :
    round.deciding.elapsed.nanos ≤ p.timeout.nanos + slack +
      (round.answer.reading.elapsed.nanos - (lastRead earlier).nanos) := by
  cases h with
  | settled hnap hjudged =>
      simp only [Round.deciding, hnap]
      omega
  | stopped hsleeps hresumed =>
      have hle := hsleeps.deciding_le htimely (by simp)
      omega

end Budget

/-- Every sleep of a wait is positive and fits into what is left of the timeout.
If sleeps last at most `slack` too long, then every call begins at the latest
that long after the timeout, and what is reported at the end exceeds this by
no more than the last call took. -/
theorem run_stays_within_budget
    (w : World σ α) (p : Plan) (c : Classifier) (s : σ) :
    ∃ earlier last,
      Unfolds w p c 0 s (earlier ++ [last]) (run w p c s) ∧
      (∀ round ∈ earlier ++ [last], ∀ nap, round.nap = some nap →
        round.answer.reading.elapsed < p.timeout ∧
        0 < nap.delay.nanos ∧
        round.answer.reading.elapsed.nanos + nap.delay.nanos ≤ p.timeout.nanos) ∧
      ∀ slack, Timely slack (earlier ++ [last]) →
        (∀ before round after, earlier ++ [last] = before ++ round :: after →
          (lastRead before).nanos ≤ p.timeout.nanos + slack) ∧
        (∀ elapsed, (run w p c s).outcome.elapsed? = some elapsed →
          elapsed.nanos ≤ p.timeout.nanos + slack +
            (last.answer.reading.elapsed.nanos - (lastRead earlier).nanos)) ∧
        ∀ elapsed, (run w p c s).events.getLast?.bind Event.elapsed? = some elapsed →
          elapsed.nanos ≤ p.timeout.nanos + slack +
            (last.answer.reading.elapsed.nanos - (lastRead earlier).nanos) := by
  obtain ⟨rounds, hrun⟩ := unfolds_run w p c s
  have hfit := hrun.delays_fit
  obtain ⟨earlier, last, event, rfl, hearlier, hends, hevents⟩ := hrun.ending
  obtain ⟨houtcome, hevent⟩ := hends.outcome_eq
  refine ⟨earlier, last, hrun, hfit, ?_⟩
  intro slack htimely
  have hbegins : ∀ before after, earlier = before ++ after →
      (lastRead before).nanos ≤ p.timeout.nanos + slack := by
    rintro before after rfl
    refine lastRead_le (c := c) (fun round hround => hearlier round ?_) ?_
    · exact List.mem_append_left _ hround
    · intro round hround
      exact htimely round (by simp [hround])
  have hdeciding := hends.deciding_le htimely (hbegins earlier [] (by simp))
  refine ⟨?_, ?_, ?_⟩
  · -- whatever comes before a round is made of earlier rounds
    intro before round after hsplit
    obtain ⟨rest, hrest⟩ : ∃ rest, earlier = before ++ rest := by
      rcases List.eq_nil_or_concat after with rfl | ⟨front, back, rfl⟩
      · exact ⟨[], by simpa using (List.append_inj' hsplit rfl).1⟩
      · refine ⟨round :: front, ?_⟩
        rw [List.concat_eq_append, ← List.cons_append, ← List.append_assoc] at hsplit
        exact (List.append_inj' hsplit rfl).1
    exact hbegins before rest hrest
  · intro elapsed helapsed
    rw [houtcome] at helapsed
    rw [elapsed?_conclusion c _ _ _ helapsed]
    exact hdeciding
  · intro elapsed helapsed
    rw [hevents, List.getLast?_concat, Option.bind_some, hevent, houtcome] at helapsed
    rw [elapsed?_closing c _ _ _ helapsed]
    exact hdeciding

/-- A world in which every call takes its time, every sleep lasts too long, and
nothing is ever ready.  Its state is the time. -/
def World.sluggish (call slack : Duration) : World Duration Unit where
  attempt _ now := (⟨.error (.notReady "pending"), ⟨now.add call, false⟩, 0⟩, now.add call)
  sleep _ delay now := (⟨(now.add delay).add slack, false⟩, (now.add delay).add slack)

/-- Two rounds of three seconds' sleep in that world, within seven seconds. -/
def sluggishRounds : List (Round Unit) :=
  [⟨1, ⟨.error (.notReady "pending"), ⟨.ofSeconds 2, false⟩, 0⟩,
      some ⟨.ofSeconds 3, ⟨.ofSeconds 6, false⟩⟩⟩] ++
    [⟨2, ⟨.error (.notReady "pending"), ⟨.ofSeconds 8, false⟩, 0⟩, none⟩]

/-- The last call begins after six seconds and takes the wait to eight. -/
theorem run_stays_within_budget_when_sluggish :
    Timely 1000000000 sluggishRounds ∧
    ∃ elapsed : Duration,
      (run (World.sluggish (.ofSeconds 2) (.ofSeconds 1))
          (Plan.inSeconds 3 7 (by decide) (by decide)) .strict .zero).outcome.elapsed? =
        some elapsed ∧
      7000000000 < elapsed.nanos ∧
      elapsed.nanos ≤ 7000000000 + 1000000000 + 2000000000 := by
  have hunfolds : Unfolds (World.sluggish (.ofSeconds 2) (.ofSeconds 1))
      (Plan.inSeconds 3 7 (by decide) (by decide)) .strict 0 .zero sluggishRounds
      ⟨_, .timedOut (.notReady "pending") 2 (.ofSeconds 8) false, _⟩ :=
    .continued rfl rfl rfl rfl (.settled rfl rfl)
  have htimely : Timely 1000000000 sluggishRounds := by
    intro round hround nap hnap
    simp only [sluggishRounds, List.singleton_append, List.mem_cons, List.not_mem_nil,
      or_false] at hround
    rcases hround with rfl | rfl
    · cases hnap
      decide
    · cases hnap
  obtain ⟨earlier, last, hrun, -, hbudget⟩ :=
    run_stays_within_budget (World.sluggish (.ofSeconds 2) (.ofSeconds 1))
      (Plan.inSeconds 3 7 (by decide) (by decide)) .strict .zero
  obtain ⟨hrounds, hresult⟩ := hunfolds.unique hrun
  have houtcome := congrArg (fun r => r.outcome.elapsed?) hresult
  obtain ⟨rfl, hlast⟩ := List.append_inj' hrounds rfl
  cases hlast
  exact ⟨htimely, _, houtcome, by decide, (hbudget 1000000000 htimely).2.1 _ houtcome⟩

end Wait
end BoundedWait

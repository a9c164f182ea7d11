import BoundedWait.Proofs.Wait.Decision

/-!
# How a wait unfolds

A wait unfolds in rounds.  A round is one pass of the loop: an attempt, and the
sleep after it if one was asked for, each with what the world answered.
`Unfolds` has one rule for each way in which a pass can go on, and the rules
put no bound on the number of passes.

* `unfolds_runFrom` and `Unfolds.unique`: each wait unfolds in finitely many
  rounds, in one way only, and ends as `runFrom` says.
* `Unfolds.numbers`: the counter numbers the rounds without a gap.
* `Unfolds.ending`: every round but the last one sleeps and goes on, the last
  one ends the wait, and the outcome and all events can be read off the rounds.
-/

namespace BoundedWait

theorem Plan.bound_pos
    (p : Plan) :
    0 < p.bound :=
  Nat.lt_of_lt_of_le (by decide) p.two_le_bound

namespace Wait

variable {σ α : Type}

/-- A sleep: what was asked for, and what was read after it. -/
structure Nap where
  delay : Duration
  reading : Reading
deriving DecidableEq

/-- One pass of the loop: the number of the attempt, what it brought, and the
sleep after it. -/
structure Round (α : Type) where
  number : Nat
  answer : Answer α
  nap : Option Nap

/-- The loop, `made` attempts into a wait and with the world in a state, makes
these rounds and ends in this run. -/
inductive Unfolds (w : World σ α) (p : Plan) (c : Classifier) :
    Nat → σ → List (Round α) → Run σ α → Prop
  /-- The attempt ends the wait. -/
  | settled
      {made : Nat} {s s₁ : σ} {answer : Answer α}
      {event : Event} {outcome : Outcome α}
      (called : w.attempt (nextAttempt made) s = (answer, s₁))
      (judged : judge p c (nextAttempt made) answer = (event, .finished outcome)) :
      Unfolds w p c made s
        [⟨nextAttempt made, answer, none⟩]
        ⟨[.started (nextAttempt made) p.bound, event], outcome, s₁⟩
  /-- The wait ends after a sleep. -/
  | stopped
      {made : Nat} {s s₁ s₂ : σ} {answer : Answer α}
      {event last : Event} {outcome : Outcome α}
      {fault : Fault} {delay : Duration} {reading : Reading}
      (called : w.attempt (nextAttempt made) s = (answer, s₁))
      (judged : judge p c (nextAttempt made) answer = (event, .sleep fault delay))
      (slept : w.sleep (nextAttempt made) delay s₁ = (reading, s₂))
      (resumed : resume p (nextAttempt made) fault reading.elapsed reading.cancelled =
        some (last, outcome)) :
      Unfolds w p c made s
        [⟨nextAttempt made, answer, some ⟨delay, reading⟩⟩]
        ⟨[.started (nextAttempt made) p.bound, event, last], outcome, s₂⟩
  /-- Another attempt follows the sleep. -/
  | continued
      {made : Nat} {s s₁ s₂ : σ} {answer : Answer α} {event : Event}
      {fault : Fault} {delay : Duration} {reading : Reading}
      {rounds : List (Round α)} {r : Run σ α}
      (called : w.attempt (nextAttempt made) s = (answer, s₁))
      (judged : judge p c (nextAttempt made) answer = (event, .sleep fault delay))
      (slept : w.sleep (nextAttempt made) delay s₁ = (reading, s₂))
      (resumed : resume (α := α) p (nextAttempt made) fault
        reading.elapsed reading.cancelled = none)
      (rest : Unfolds w p c (nextAttempt made) s₂ rounds r) :
      Unfolds w p c made s
        (⟨nextAttempt made, answer, some ⟨delay, reading⟩⟩ :: rounds)
        ⟨.started (nextAttempt made) p.bound :: event :: r.events, r.outcome, r.final⟩

section Unfolding

variable {w : World σ α} {p : Plan} {c : Classifier}

/-- Every wait unfolds in finitely many rounds, and ends as `runFrom` says. -/
theorem unfolds_runFrom
    (w : World σ α) (p : Plan) (c : Classifier) (made : Nat) (s : σ) :
    ∃ rounds, Unfolds w p c made s rounds (runFrom w p c made s) := by
  fun_induction runFrom w p c made s with
  | case1 made s n answer s₁ called attempt event outcome judged =>
      exact ⟨_, Unfolds.settled called judged⟩
  | case2 made s n answer s₁ called attempt event fault delay judged
      reading s₂ slept last outcome resumed =>
      exact ⟨_, Unfolds.stopped called judged slept resumed⟩
  | case3 made s n answer s₁ called attempt event fault delay judged
      reading s₂ slept resumed rest ih =>
      obtain ⟨rounds, hrest⟩ := ih
      exact ⟨_, Unfolds.continued called judged slept resumed hrest⟩

theorem unfolds_run
    (w : World σ α) (p : Plan) (c : Classifier) (s : σ) :
    ∃ rounds, Unfolds w p c 0 s rounds (run w p c s) :=
  unfolds_runFrom w p c 0 s

/-- A wait unfolds in one way only. -/
theorem Unfolds.unique
    {made : Nat} {s : σ}
    {rounds rounds' : List (Round α)} {r r' : Run σ α}
    (h : Unfolds w p c made s rounds r)
    (h' : Unfolds w p c made s rounds' r') :
    rounds' = rounds ∧ r' = r := by
  induction h generalizing rounds' r' with
  | settled called judged =>
      cases h' with
      | settled called' judged' =>
          cases called.symm.trans called'
          cases judged.symm.trans judged'
          exact ⟨rfl, rfl⟩
      | stopped called' judged' =>
          cases called.symm.trans called'
          cases judged.symm.trans judged'
      | continued called' judged' =>
          cases called.symm.trans called'
          cases judged.symm.trans judged'
  | stopped called judged slept resumed =>
      cases h' with
      | settled called' judged' =>
          cases called.symm.trans called'
          cases judged.symm.trans judged'
      | stopped called' judged' slept' resumed' =>
          cases called.symm.trans called'
          cases judged.symm.trans judged'
          cases slept.symm.trans slept'
          cases resumed.symm.trans resumed'
          exact ⟨rfl, rfl⟩
      | continued called' judged' slept' resumed' =>
          cases called.symm.trans called'
          cases judged.symm.trans judged'
          cases slept.symm.trans slept'
          cases resumed.symm.trans resumed'
  | continued called judged slept resumed _ ih =>
      cases h' with
      | settled called' judged' =>
          cases called.symm.trans called'
          cases judged.symm.trans judged'
      | stopped called' judged' slept' resumed' =>
          cases called.symm.trans called'
          cases judged.symm.trans judged'
          cases slept.symm.trans slept'
          cases resumed.symm.trans resumed'
      | continued called' judged' slept' resumed' rest' =>
          cases called.symm.trans called'
          cases judged.symm.trans judged'
          cases slept.symm.trans slept'
          obtain ⟨rfl, rfl⟩ := ih rest'
          exact ⟨rfl, rfl⟩

/-- What a wait unfolds to is what `run` computes. -/
theorem Unfolds.eq_run
    {s : σ} {rounds : List (Round α)} {r : Run σ α}
    (h : Unfolds w p c 0 s rounds r) :
    r = run w p c s := by
  obtain ⟨_, hrun⟩ := unfolds_run w p c s
  exact (hrun.unique h).2

theorem Unfolds.length_pos
    {made : Nat} {s : σ} {rounds : List (Round α)} {r : Run σ α}
    (h : Unfolds w p c made s rounds r) :
    0 < rounds.length := by
  cases h <;> simp

/-- The first round is the next attempt, with what the world answers to it. -/
theorem Unfolds.exists_cons
    {made : Nat} {s : σ} {rounds : List (Round α)} {r : Run σ α}
    (h : Unfolds w p c made s rounds r) :
    ∃ nap later,
      rounds = ⟨nextAttempt made, (w.attempt (nextAttempt made) s).1, nap⟩ :: later := by
  cases h with
  | settled called judged =>
      rw [called]
      exact ⟨_, _, rfl⟩
  | stopped called judged slept resumed =>
      rw [called]
      exact ⟨_, _, rfl⟩
  | continued called judged slept resumed rest =>
      rw [called]
      exact ⟨_, _, rfl⟩

/-- What holds of all that a world answers holds of the answer of each round. -/
theorem Unfolds.forall_answers
    {P : Nat → Answer α → Prop}
    {made : Nat} {s : σ} {rounds : List (Round α)} {r : Run σ α}
    (h : Unfolds w p c made s rounds r)
    (hanswer : ∀ n s, P n (w.attempt n s).1) :
    ∀ round ∈ rounds, P round.number round.answer := by
  have hcall : ∀ {n : Nat} {s s₁ : σ} {answer : Answer α},
      w.attempt n s = (answer, s₁) → P n answer := by
    intro n s s₁ answer called
    simpa only [called] using hanswer n s
  induction h with
  | @settled made s s₁ answer event outcome called judged =>
      intro round hround
      cases List.mem_singleton.1 hround
      exact hcall called
  | @stopped made s s₁ s₂ answer event last outcome fault delay reading
      called judged slept resumed =>
      intro round hround
      cases List.mem_singleton.1 hround
      exact hcall called
  | @continued made s s₁ s₂ answer event fault delay reading rounds r
      called judged slept resumed rest ih =>
      intro round hround
      rcases List.mem_cons.1 hround with rfl | hround
      · exact hcall called
      · exact ih round hround

/-- After a pending answer, a sleep that was not cancelled, and with attempts
left, the wait goes on. -/
theorem Unfolds.goes_on
    {made : Nat} {s s₁ s₂ : σ} {rounds : List (Round α)} {r : Run σ α}
    {answer : Answer α} {fault : Fault} {reading : Reading}
    (h : Unfolds w p c made s rounds r)
    (hcalled : w.attempt (nextAttempt made) s = (answer, s₁))
    (hpending : answer.Pending p c fault)
    (hslept : w.sleep (nextAttempt made)
      (sleepDelay p (nextAttempt made) answer.draw answer.reading.elapsed) s₁ = (reading, s₂))
    (huncancelled : reading.cancelled = false)
    (hleft : nextAttempt made < p.bound) :
    ∃ round later r', rounds = round :: later ∧
      Unfolds w p c (nextAttempt made) s₂ later r' := by
  obtain ⟨later, hlater⟩ := unfolds_runFrom w p c (nextAttempt made) s₂
  have hresumed := (resume_eq_none_iff (α := α) p (nextAttempt made) fault reading.elapsed
    reading.cancelled).2 ⟨huncancelled, hleft⟩
  have hwhole := Unfolds.continued hcalled (judge_of_pending _ hpending) hslept hresumed hlater
  exact ⟨_, later, _, (hwhole.unique h).1, hlater⟩

/-- Below the bound of a plan the counter does not stand still. -/
theorem nextAttempt_of_lt_bound
    {made : Nat}
    (hmade : made < p.bound) :
    nextAttempt made = made + 1 := by
  have hbound := p.bound_le
  simp only [nextAttempt]
  omega

/-- Rounds are numbered without a gap, and there are no more of them than the plan allows. -/
theorem Unfolds.numbers
    {made : Nat} {s : σ} {rounds : List (Round α)} {r : Run σ α}
    (h : Unfolds w p c made s rounds r)
    (hmade : made < p.bound) :
    rounds.map Round.number = List.range' (made + 1) rounds.length ∧
      made + rounds.length ≤ p.bound := by
  induction h with
  | settled called judged =>
      rw [nextAttempt_of_lt_bound hmade]
      exact ⟨rfl, hmade⟩
  | stopped called judged slept resumed =>
      rw [nextAttempt_of_lt_bound hmade]
      exact ⟨rfl, hmade⟩
  | @continued made s s₁ s₂ answer event fault delay reading rounds r
      called judged slept resumed rest ih =>
      have hnext := nextAttempt_of_lt_bound hmade
      have hleft := ((resume_eq_none_iff _ _ _ _ _).1 resumed).2
      obtain ⟨hnumbers, hlength⟩ := ih hleft
      rw [hnext] at hnumbers hlength
      rw [hnext]
      simp only [List.map_cons, List.length_cons, List.range'_succ, hnumbers, true_and]
      omega

/-- After any number of rounds the loop goes on with the counter at that number. -/
theorem Unfolds.tail
    {made : Nat} {s : σ} {earlier later : List (Round α)} {r : Run σ α}
    (h : Unfolds w p c made s (earlier ++ later) r)
    (hmade : made < p.bound)
    (hlater : later ≠ []) :
    ∃ s' r', Unfolds w p c (made + earlier.length) s' later r' ∧
      r'.outcome = r.outcome := by
  induction earlier generalizing made s r with
  | nil =>
      exact ⟨s, r, h, rfl⟩
  | cons round earlier ih =>
      rw [List.cons_append] at h
      generalize hrounds : earlier ++ later = rounds at h
      have hne : rounds ≠ [] := by
        rw [← hrounds]
        simp [hlater]
      cases h with
      | settled =>
          exact absurd rfl hne
      | stopped =>
          exact absurd rfl hne
      | continued called judged slept resumed rest =>
          have hleft := ((resume_eq_none_iff _ _ _ _ _).1 resumed).2
          subst hrounds
          obtain ⟨s', r', htail, houtcome⟩ := ih rest hleft
          rw [nextAttempt_of_lt_bound hmade] at htail
          refine ⟨s', r', ?_, houtcome⟩
          rw [List.length_cons, Nat.add_comm earlier.length, ← Nat.add_assoc]
          exact htail

/-- A round has the number of all rounds up to it. -/
theorem Unfolds.number_of_split
    {s : σ} {before after : List (Round α)} {round : Round α} {r : Run σ α}
    (h : Unfolds w p c 0 s (before ++ round :: after) r) :
    round.number = before.length + 1 := by
  obtain ⟨hnumbers, -⟩ := h.numbers p.bound_pos
  rw [List.map_append, List.map_cons, List.length_append, ← List.range'_append_1,
    List.length_cons, List.range'_succ] at hnumbers
  have hhead := (List.append_inj hnumbers (by simp)).2
  injection hhead with hnumber
  omega

theorem Unfolds.number_pos
    {s : σ} {before after : List (Round α)} {round : Round α} {r : Run σ α}
    (h : Unfolds w p c 0 s (before ++ round :: after) r) :
    0 < round.number := by
  rw [h.number_of_split]
  exact Nat.add_one_pos _

/-- The last round has the number of all rounds. -/
theorem Unfolds.number_last
    {s : σ} {earlier : List (Round α)} {last : Round α} {r : Run σ α}
    (h : Unfolds w p c 0 s (earlier ++ [last]) r) :
    last.number = (earlier ++ [last]).length := by
  rw [h.number_of_split, List.length_append, List.length_singleton]

/-- Every number below that of the last round is the number of an earlier one. -/
theorem Unfolds.exists_earlier
    {s : σ} {earlier : List (Round α)} {last : Round α} {r : Run σ α} {k : Nat}
    (h : Unfolds w p c 0 s (earlier ++ [last]) r)
    (hk : 0 < k)
    (hlt : k < last.number) :
    ∃ round ∈ earlier, round.number = k := by
  obtain ⟨hnumbers, -⟩ := h.numbers p.bound_pos
  have hmem : k ∈ (earlier ++ [last]).map Round.number := by
    rw [hnumbers, List.mem_range'_1, ← h.number_last]
    omega
  obtain ⟨round, hround, rfl⟩ := List.mem_map.1 hmem
  rcases List.mem_append.1 hround with hround | hround
  · exact ⟨round, hround, rfl⟩
  · cases List.mem_singleton.1 hround
    exact absurd hlt (Nat.lt_irrefl _)

end Unfolding

/-- The reading by which the end of a round was decided: the last one taken. -/
def Round.deciding (round : Round α) : Reading :=
  match round.nap with
  | none => round.answer.reading
  | some nap => nap.reading

/-- What a round reports before the wait ends. -/
def Round.report (p : Plan) (round : Round α) : List Event :=
  .started round.number p.bound ::
    match round.nap, round.answer.probe with
    | some nap, .error fault => [.notReady round.number fault nap.delay]
    | _, _ => []

/-- How a wait ends whose last round this is. -/
def Round.outcome (c : Classifier) (round : Round α) : Outcome α :=
  conclusion c round.number round.answer.probe round.deciding

/-- A pending answer, and the sleep that it asks for. -/
structure Round.Sleeps (p : Plan) (c : Classifier) (round : Round α)
    (fault : Fault) (nap : Nap) : Prop where
  pending : round.answer.Pending p c fault
  nap_eq : round.nap = some nap
  delay_eq : nap.delay =
    sleepDelay p round.number round.answer.draw round.answer.reading.elapsed

/-- A round that another one follows. -/
def Round.Continues (p : Plan) (c : Classifier) (round : Round α) : Prop :=
  ∃ fault nap, round.Sleeps p c fault nap ∧
    nap.reading.cancelled = false ∧ round.number < p.bound

/-- A round that ends the wait with an event and an outcome, and the decision
that does so. -/
inductive Round.Ends (p : Plan) (c : Classifier) (round : Round α)
    (event : Event) (outcome : Outcome α) : Prop
  /-- The attempt ended the wait. -/
  | settled
      (nap_eq : round.nap = none)
      (judged : judge p c round.number round.answer = (event, .finished outcome))
  /-- The wait ended after the sleep. -/
  | stopped {fault : Fault} {nap : Nap}
      (sleeps : round.Sleeps p c fault nap)
      (resumed : resume p round.number fault nap.reading.elapsed nap.reading.cancelled =
        some (event, outcome))

section Ending

variable {w : World σ α} {p : Plan} {c : Classifier}

/-- A round sleeps as its answer was judged to ask for. -/
theorem sleeps_of_judge
    {n : Nat} {answer : Answer α} {event : Event} {fault : Fault} {delay : Duration}
    (hjudged : judge p c n answer = (event, .sleep fault delay))
    (reading : Reading) :
    Round.Sleeps p c ⟨n, answer, some ⟨delay, reading⟩⟩ fault ⟨delay, reading⟩ ∧
      event = .notReady n fault delay := by
  obtain ⟨hpending, hdelay, hevent⟩ := (judge_eq_sleep_iff _).1 hjudged
  exact ⟨⟨hpending, rfl, hdelay⟩, hevent⟩

theorem Round.Sleeps.deciding_eq
    {round : Round α} {fault : Fault} {nap : Nap}
    (h : round.Sleeps p c fault nap) :
    round.deciding = nap.reading := by
  simp only [Round.deciding, h.nap_eq]

theorem Round.Sleeps.report_eq
    {round : Round α} {fault : Fault} {nap : Nap}
    (h : round.Sleeps p c fault nap) :
    round.report p =
      [.started round.number p.bound, .notReady round.number fault nap.delay] := by
  simp only [Round.report, h.pending.probe_eq, h.nap_eq]

theorem Round.report_of_nap_eq_none
    {round : Round α}
    (hnap : round.nap = none) :
    round.report p = [.started round.number p.bound] := by
  simp only [Round.report, hnap]

/-- Whichever decision ends a wait, its outcome depends on the last probe and
the last reading alone, and its last event on the outcome. -/
theorem Round.Ends.outcome_eq
    {round : Round α} {event : Event} {outcome : Outcome α}
    (h : round.Ends p c event outcome) :
    outcome = round.outcome c ∧
      event = outcome.closing round.number round.deciding.elapsed := by
  cases h with
  | settled hnap hjudged =>
      obtain ⟨-, rfl, rfl⟩ := (judge_eq_finished_iff _).1 hjudged
      simp only [Round.outcome, Round.deciding, hnap, and_self]
  | stopped hsleeps hresumed =>
      obtain ⟨-, rfl, rfl⟩ := resume_eq_some_iff.1 hresumed
      rw [Round.outcome, hsleeps.pending.probe_eq, hsleeps.deciding_eq,
        conclusion_soft c _ _ hsleeps.pending.soft]
      exact ⟨rfl, rfl⟩

/-- All rounds but the last go on, the last one ends the wait, and the events
are those of the rounds and one more. -/
theorem Unfolds.ending
    {made : Nat} {s : σ} {rounds : List (Round α)} {r : Run σ α}
    (h : Unfolds w p c made s rounds r) :
    ∃ earlier last event, rounds = earlier ++ [last] ∧
      (∀ round ∈ earlier, round.Continues p c) ∧
      last.Ends p c event r.outcome ∧
      r.events = rounds.flatMap (Round.report p) ++ [event] := by
  induction h with
  | @settled made s s₁ answer event outcome called judged =>
      refine ⟨[], ⟨nextAttempt made, answer, none⟩, event, rfl, ?_,
        Round.Ends.settled rfl judged, ?_⟩
      · simp
      · simp [Round.report]
  | @stopped made s s₁ s₂ answer event last outcome fault delay reading
      called judged slept resumed =>
      obtain ⟨hsleeps, rfl⟩ := sleeps_of_judge judged reading
      refine ⟨[], _, last, rfl, ?_, Round.Ends.stopped hsleeps resumed, ?_⟩
      · simp
      · rw [List.flatMap_singleton, hsleeps.report_eq]
        rfl
  | @continued made s s₁ s₂ answer event fault delay reading rounds r
      called judged slept resumed rest ih =>
      obtain ⟨hsleeps, rfl⟩ := sleeps_of_judge judged reading
      obtain ⟨hcancelled, hleft⟩ := (resume_eq_none_iff _ _ _ _ _).1 resumed
      obtain ⟨earlier, last, event, rfl, hearlier, hlast, hevents⟩ := ih
      refine ⟨⟨nextAttempt made, answer, some ⟨delay, reading⟩⟩ :: earlier, last, event,
        rfl, ?_, hlast, ?_⟩
      · intro round hround
        rcases List.mem_cons.1 hround with rfl | hround
        · exact ⟨fault, ⟨delay, reading⟩, hsleeps, hcancelled, hleft⟩
        · exact hearlier round hround
      · rw [hevents, List.flatMap_cons, hsleeps.report_eq]
        rfl

/-- Whatever round sleeps, the last one included, does so after a pending answer. -/
theorem Unfolds.sleeps_of_nap
    {made : Nat} {s : σ} {rounds : List (Round α)} {r : Run σ α}
    (h : Unfolds w p c made s rounds r)
    {round : Round α} {nap : Nap}
    (hround : round ∈ rounds)
    (hnap : round.nap = some nap) :
    ∃ fault, round.Sleeps p c fault nap := by
  obtain ⟨earlier, last, event, rfl, hearlier, hends, -⟩ := h.ending
  rcases List.mem_append.1 hround with hround | hround
  · obtain ⟨fault, nap', hsleeps, -⟩ := hearlier round hround
    cases hnap.symm.trans hsleeps.nap_eq
    exact ⟨fault, hsleeps⟩
  · cases List.mem_singleton.1 hround
    cases hends with
    | settled hnone hjudged =>
        cases hnap.symm.trans hnone
    | @stopped fault nap' hsleeps hresumed =>
        cases hnap.symm.trans hsleeps.nap_eq
        exact ⟨fault, hsleeps⟩

/-- A round with another one after it is not the last. -/
theorem Unfolds.continues_of_split
    {made : Nat} {s : σ} {before after : List (Round α)} {round : Round α} {r : Run σ α}
    (h : Unfolds w p c made s (before ++ round :: after) r)
    (hafter : after ≠ []) :
    round.Continues p c := by
  obtain ⟨earlier, last, event, hrounds, hearlier, -⟩ := h.ending
  rcases List.eq_nil_or_concat after with rfl | ⟨front, back, rfl⟩
  · exact absurd rfl hafter
  · rw [List.concat_eq_append, ← List.cons_append, ← List.append_assoc] at hrounds
    obtain ⟨rfl, -⟩ := List.append_inj' hrounds rfl
    exact hearlier round (by simp)

/-- The last round ends the wait. -/
theorem Unfolds.ends_last
    {made : Nat} {s : σ} {earlier : List (Round α)} {last : Round α} {r : Run σ α}
    (h : Unfolds w p c made s (earlier ++ [last]) r) :
    ∃ event, last.Ends p c event r.outcome := by
  obtain ⟨earlier', last', event, hrounds, -, hends, -⟩ := h.ending
  obtain ⟨-, hlast⟩ := List.append_inj' hrounds rfl
  cases hlast
  exact ⟨event, hends⟩

/-- The last round says how the wait ends and what is reported last. -/
theorem Unfolds.closes
    {made : Nat} {s : σ} {earlier : List (Round α)} {last : Round α} {r : Run σ α}
    (h : Unfolds w p c made s (earlier ++ [last]) r) :
    r.outcome = last.outcome c ∧
      r.events = earlier.flatMap (Round.report p) ++ last.report p ++
        [r.outcome.closing last.number last.deciding.elapsed] := by
  obtain ⟨earlier', last', event, hrounds, -, hends, hevents⟩ := h.ending
  obtain ⟨rfl, hlast⟩ := List.append_inj' hrounds rfl
  cases hlast
  obtain ⟨houtcome, rfl⟩ := hends.outcome_eq
  refine ⟨houtcome, ?_⟩
  rw [hevents, List.flatMap_append, List.flatMap_singleton]

end Ending

end Wait
end BoundedWait

import BoundedWait.Proofs.Wait.Unfolding

/-!
# What a wait reports

The outcome of a wait is decided by its last attempt: a value makes a success,
a fatal fault an abort, and a soft fault a timeout, each with exactly what the
attempt brought.  Of the two readings of the last round only the later one
counts, and only for the flag of a timeout.

The events are those of the rounds, in order, and then one that says how the
wait ended.  A round reports the delay with which the world is then asked to
sleep.
-/

namespace BoundedWait
namespace Wait

variable {σ α : Type}

/-- No fault is dropped, invented or exchanged: every attempt before the last
one had a soft fault, and the outcome is what the last attempt brought. -/
theorem run_outcome_is_last_answer
    (w : World σ α) (p : Plan) (c : Classifier) (s : σ) :
    ∃ earlier last event,
      Unfolds w p c 0 s (earlier ++ [last]) (run w p c s) ∧
      last.Ends p c event (run w p c s).outcome ∧
      (∀ round ∈ earlier, ∃ fault,
        round.answer.probe = .error fault ∧ c.classify fault = .soft) ∧
      (∀ value, (run w p c s).outcome = .success value ↔
        last.answer.probe = .ok value) ∧
      (∀ fault, (∃ attempts elapsed,
          (run w p c s).outcome = .aborted fault attempts elapsed) ↔
        last.answer.probe = .error fault ∧ c.classify fault = .fatal) ∧
      (∀ fault, (∃ attempts elapsed cancelled,
          (run w p c s).outcome = .timedOut fault attempts elapsed cancelled) ↔
        last.answer.probe = .error fault ∧ c.classify fault = .soft) ∧
      (∀ fault, last.answer.probe = .error fault → c.classify fault = .soft →
        (run w p c s).outcome.isCancelled = last.deciding.cancelled) := by
  obtain ⟨rounds, hrun⟩ := unfolds_run w p c s
  obtain ⟨earlier, last, event, rfl, hearlier, hends, -⟩ := hrun.ending
  obtain ⟨houtcome, -⟩ := hends.outcome_eq
  refine ⟨earlier, last, event, hrun, hends, ?_, ?_, ?_, ?_, ?_⟩
  · intro round hround
    obtain ⟨fault, nap, hsleeps, -⟩ := hearlier round hround
    exact ⟨fault, hsleeps.pending.probe_eq, hsleeps.pending.soft⟩
  · intro value
    rw [houtcome]
    exact conclusion_eq_success_iff c _ _
  · intro fault
    rw [houtcome]
    constructor
    · rintro ⟨attempts, elapsed, habort⟩
      obtain ⟨hprobe, hfatal, -⟩ := (conclusion_eq_aborted_iff c _ _).1 habort
      exact ⟨hprobe, hfatal⟩
    · rintro ⟨hprobe, hfatal⟩
      exact ⟨_, _, (conclusion_eq_aborted_iff c _ _).2 ⟨hprobe, hfatal, rfl, rfl⟩⟩
  · intro fault
    rw [houtcome]
    constructor
    · rintro ⟨attempts, elapsed, cancelled, htimeout⟩
      obtain ⟨hprobe, hsoft, -⟩ := (conclusion_eq_timedOut_iff c _ _).1 htimeout
      exact ⟨hprobe, hsoft⟩
    · rintro ⟨hprobe, hsoft⟩
      exact ⟨_, _, _,
        (conclusion_eq_timedOut_iff c _ _).2 ⟨hprobe, hsoft, rfl, rfl, rfl⟩⟩
  · intro fault hprobe hsoft
    rw [houtcome, Round.outcome, hprobe, conclusion_soft c _ _ hsoft]
    rfl

/-- The events of a wait are a start and a report of the sleep for each round,
where only the last round may lack the sleep, and one event at the end, which
reports the outcome. -/
theorem run_events_follow_rounds
    (w : World σ α) (p : Plan) (c : Classifier) (s : σ) :
    ∃ earlier last event,
      Unfolds w p c 0 s (earlier ++ [last]) (run w p c s) ∧
      (run w p c s).events =
        earlier.flatMap (Round.report p) ++ last.report p ++ [event] ∧
      event = (run w p c s).outcome.closing last.number last.deciding.elapsed ∧
      (earlier ++ [last]).map Round.number =
        List.range' 1 (earlier ++ [last]).length ∧
      (∀ round ∈ earlier, ∃ fault nap,
        round.answer.probe = .error fault ∧ round.nap = some nap ∧
        round.report p =
          [.started round.number p.bound, .notReady round.number fault nap.delay]) ∧
      ((last.nap = none ∧
          judge p c last.number last.answer =
            (event, .finished (run w p c s).outcome) ∧
          last.report p = [.started last.number p.bound]) ∨
        ∃ fault nap, last.nap = some nap ∧
          resume p last.number fault nap.reading.elapsed nap.reading.cancelled =
            some (event, (run w p c s).outcome) ∧
          last.answer.probe = .error fault ∧
          last.report p =
            [.started last.number p.bound, .notReady last.number fault nap.delay]) := by
  obtain ⟨rounds, hrun⟩ := unfolds_run w p c s
  obtain ⟨hnumbers, -⟩ := hrun.numbers p.bound_pos
  obtain ⟨earlier, last, event, rfl, hearlier, hends, hevents⟩ := hrun.ending
  obtain ⟨-, hevent⟩ := hends.outcome_eq
  refine ⟨earlier, last, event, hrun, ?_, hevent, ?_, ?_, ?_⟩
  · rw [hevents, List.flatMap_append, List.flatMap_singleton]
  · rw [hnumbers]
  · intro round hround
    obtain ⟨fault, nap, hsleeps, -⟩ := hearlier round hround
    exact ⟨fault, nap, hsleeps.pending.probe_eq, hsleeps.nap_eq, hsleeps.report_eq⟩
  · cases hends with
    | settled hnap hjudged =>
        exact Or.inl ⟨hnap, hjudged, Round.report_of_nap_eq_none hnap⟩
    | @stopped fault nap hsleeps hresumed =>
        exact Or.inr ⟨fault, nap, hsleeps.nap_eq, hresumed, hsleeps.pending.probe_eq,
          hsleeps.report_eq⟩

end Wait
end BoundedWait

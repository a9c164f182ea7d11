import BoundedWait.Wait.Run

/-!
# What the decisions of the loop amount to

`settle` and `resume` are read off their results here, so that no later proof
opens them.

* An answer is *pending* when its fault is soft, the signal has not fired, and
  time is left.  Pending answers are followed by a sleep, all others by the end
  of the wait.
* The outcome of an ended wait is a function of the last probe and of the last
  reading (`conclusion`), and its last event is a function of the outcome
  (`Outcome.closing`), whether `settle` ended the wait or `resume` did.
-/

namespace BoundedWait

variable {σ α : Type}

/-- The event that reports how a wait ended after `n` attempts. -/
def Outcome.closing (n : Nat) (elapsed : Duration) : Outcome α → Event
  | .success _ => .succeeded n elapsed
  | .timedOut fault attempts elapsed cancelled =>
    if cancelled then .cancelled attempts fault else .timedOut attempts fault elapsed
  | .aborted fault attempts elapsed => .aborted attempts fault elapsed

namespace Wait

/-- What an attempt of a number is decided to be, from all that it brought. -/
def judge (p : Plan) (c : Classifier) (n : Nat) (a : Answer α) : Event × Step α :=
  settle p n (Attempt.ofProbe c a.probe) a.reading.elapsed a.reading.cancelled a.draw

/-- A soft fault, while the wait is neither cancelled nor out of time. -/
structure Answer.Pending (p : Plan) (c : Classifier) (a : Answer α) (fault : Fault) : Prop where
  probe_eq : a.probe = .error fault
  soft : c.classify fault = .soft
  uncancelled : a.reading.cancelled = false
  in_time : a.reading.elapsed < p.timeout

/-- How a wait ends whose last probe and last reading are given. -/
def conclusion (c : Classifier) (n : Nat) (probe : Probe α) (reading : Reading) : Outcome α :=
  match Attempt.ofProbe c probe with
  | .ready value => .success value
  | .notYet fault => .timedOut fault n reading.elapsed reading.cancelled
  | .fatal fault => .aborted fault n reading.elapsed

section Conclusion

variable (c : Classifier) (n : Nat) (reading : Reading)

theorem conclusion_soft
    {fault : Fault}
    (hsoft : c.classify fault = .soft) :
    conclusion (α := α) c n (.error fault) reading =
      .timedOut fault n reading.elapsed reading.cancelled := by
  simp only [conclusion, Attempt.ofProbe, hsoft]

theorem conclusion_fatal
    {fault : Fault}
    (hfatal : c.classify fault = .fatal) :
    conclusion (α := α) c n (.error fault) reading =
      .aborted fault n reading.elapsed := by
  simp only [conclusion, Attempt.ofProbe, hfatal]

/-- A probe is a value, a soft fault, or a fatal one, and this decides how the wait ends. -/
theorem conclusion_cases
    (probe : Probe α) :
    (∃ value, probe = .ok value ∧ conclusion c n probe reading = .success value) ∨
    (∃ fault, probe = .error fault ∧ c.classify fault = .soft ∧
      conclusion c n probe reading =
        .timedOut fault n reading.elapsed reading.cancelled) ∨
    (∃ fault, probe = .error fault ∧ c.classify fault = .fatal ∧
      conclusion c n probe reading = .aborted fault n reading.elapsed) := by
  cases probe with
  | ok value =>
      exact Or.inl ⟨value, rfl, rfl⟩
  | error fault =>
      cases hverdict : c.classify fault with
      | soft =>
          exact Or.inr (Or.inl
            ⟨fault, rfl, hverdict, conclusion_soft c n reading hverdict⟩)
      | fatal =>
          exact Or.inr (Or.inr
            ⟨fault, rfl, hverdict, conclusion_fatal c n reading hverdict⟩)

theorem conclusion_eq_success_iff
    {probe : Probe α} {value : α} :
    conclusion c n probe reading = .success value ↔ probe = .ok value := by
  rcases conclusion_cases c n reading probe with
    ⟨_, hprobe, hend⟩ | ⟨_, hprobe, -, hend⟩ | ⟨_, hprobe, -, hend⟩ <;>
    rw [hend, hprobe] <;> simp

theorem conclusion_eq_timedOut_iff
    {probe : Probe α} {fault : Fault} {attempts : Nat} {elapsed : Duration}
    {cancelled : Bool} :
    conclusion c n probe reading = .timedOut fault attempts elapsed cancelled ↔
      probe = .error fault ∧ c.classify fault = .soft ∧
      attempts = n ∧ elapsed = reading.elapsed ∧ cancelled = reading.cancelled := by
  rcases conclusion_cases c n reading probe with
    ⟨_, hprobe, hend⟩ | ⟨_, hprobe, hsoft, hend⟩ | ⟨_, hprobe, hfatal, hend⟩
  · rw [hend, hprobe]
    simp
  · rw [hend, hprobe]
    constructor
    · intro h
      cases h
      exact ⟨rfl, hsoft, rfl, rfl, rfl⟩
    · rintro ⟨h, -, rfl, rfl, rfl⟩
      cases h
      rfl
  · rw [hend, hprobe]
    constructor
    · intro h
      cases h
    · rintro ⟨h, hsoft, -⟩
      cases h
      cases hfatal.symm.trans hsoft

theorem conclusion_eq_aborted_iff
    {probe : Probe α} {fault : Fault} {attempts : Nat} {elapsed : Duration} :
    conclusion c n probe reading = .aborted fault attempts elapsed ↔
      probe = .error fault ∧ c.classify fault = .fatal ∧
      attempts = n ∧ elapsed = reading.elapsed := by
  rcases conclusion_cases c n reading probe with
    ⟨_, hprobe, hend⟩ | ⟨_, hprobe, hsoft, hend⟩ | ⟨_, hprobe, hfatal, hend⟩
  · rw [hend, hprobe]
    simp
  · rw [hend, hprobe]
    constructor
    · intro h
      cases h
    · rintro ⟨h, hfatal, -⟩
      cases h
      cases hsoft.symm.trans hfatal
  · rw [hend, hprobe]
    constructor
    · intro h
      cases h
      exact ⟨rfl, hfatal, rfl, rfl⟩
    · rintro ⟨h, -, rfl, rfl⟩
      cases h
      rfl

end Conclusion

/-- Giving up reports the timeout that it returns. -/
theorem giveUp_eq
    (n : Nat) (fault : Fault) (elapsed : Duration) (cancelled : Bool) :
    giveUp (α := α) n fault elapsed cancelled =
      ((Outcome.timedOut (α := α) fault n elapsed cancelled).closing n elapsed,
        .timedOut fault n elapsed cancelled) := by
  cases cancelled <;> rfl

section Judge

variable {p : Plan} {c : Classifier} (n : Nat) {a : Answer α}

/-- A pending answer is followed by a sleep of the clamped delay. -/
theorem judge_of_pending
    {fault : Fault}
    (hpending : a.Pending p c fault) :
    judge p c n a =
      (.notReady n fault (sleepDelay p n a.draw a.reading.elapsed),
        .sleep fault (sleepDelay p n a.draw a.reading.elapsed)) := by
  have hintime : ¬ (a.reading.cancelled = true ∨ p.timeout ≤ a.reading.elapsed) := by
    have hlt := Duration.lt_iff.1 hpending.in_time
    rw [hpending.uncancelled, Duration.le_iff]
    simp only [Bool.false_eq_true, false_or]
    omega
  simp only [judge, Attempt.ofProbe, hpending.probe_eq, hpending.soft, settle,
    if_neg hintime]

/-- An answer that is not pending ends the wait. -/
theorem judge_of_not_pending
    (hended : ∀ fault, ¬ a.Pending p c fault) :
    judge p c n a =
      ((conclusion c n a.probe a.reading).closing n a.reading.elapsed,
        .finished (conclusion c n a.probe a.reading)) := by
  rcases conclusion_cases c n a.reading a.probe with
    ⟨value, hprobe, hend⟩ | ⟨fault, hprobe, hsoft, hend⟩ | ⟨fault, hprobe, hfatal, hend⟩
  · rw [hend]
    simp only [judge, Attempt.ofProbe, hprobe, settle, Outcome.closing]
  · have hlate : a.reading.cancelled = true ∨ p.timeout ≤ a.reading.elapsed := by
      cases hcancelled : a.reading.cancelled with
      | true =>
          exact Or.inl rfl
      | false =>
          refine Or.inr (Nat.le_of_not_lt fun hlt => ?_)
          exact hended fault ⟨hprobe, hsoft, hcancelled, hlt⟩
    rw [hend]
    simp only [judge, Attempt.ofProbe, hprobe, hsoft, settle, if_pos hlate, giveUp_eq]
  · rw [hend]
    simp only [judge, Attempt.ofProbe, hprobe, hfatal, settle, Outcome.closing]

/-- Exactly the pending answers are followed by a sleep. -/
theorem judge_eq_sleep_iff
    {event : Event} {fault : Fault} {delay : Duration} :
    judge p c n a = (event, .sleep fault delay) ↔
      a.Pending p c fault ∧
      delay = sleepDelay p n a.draw a.reading.elapsed ∧
      event = .notReady n fault delay := by
  constructor
  · intro hjudge
    by_cases hpending : ∃ fault, a.Pending p c fault
    · obtain ⟨fault', hpending⟩ := hpending
      rw [judge_of_pending n hpending] at hjudge
      cases hjudge
      exact ⟨hpending, rfl, rfl⟩
    · rw [judge_of_not_pending n (not_exists.1 hpending)] at hjudge
      cases hjudge
  · rintro ⟨hpending, rfl, rfl⟩
    exact judge_of_pending n hpending

/-- All other answers end the wait, and the last event reports the outcome. -/
theorem judge_eq_finished_iff
    {event : Event} {outcome : Outcome α} :
    judge p c n a = (event, .finished outcome) ↔
      (∀ fault, ¬ a.Pending p c fault) ∧
      outcome = conclusion c n a.probe a.reading ∧
      event = outcome.closing n a.reading.elapsed := by
  constructor
  · intro hjudge
    by_cases hpending : ∃ fault, a.Pending p c fault
    · obtain ⟨fault, hpending⟩ := hpending
      rw [judge_of_pending n hpending] at hjudge
      cases hjudge
    · have hended := not_exists.1 hpending
      rw [judge_of_not_pending n hended] at hjudge
      cases hjudge
      exact ⟨hended, rfl, rfl⟩
  · rintro ⟨hended, rfl, rfl⟩
    exact judge_of_not_pending n hended

end Judge

/-- After a sleep the wait ends when it is cancelled or out of attempts. -/
theorem resume_eq_some_iff
    {p : Plan} {n : Nat} {fault : Fault} {elapsed : Duration} {cancelled : Bool}
    {event : Event} {outcome : Outcome α} :
    resume p n fault elapsed cancelled = some (event, outcome) ↔
      (cancelled = true ∨ p.bound ≤ n) ∧
      outcome = .timedOut fault n elapsed cancelled ∧
      event = outcome.closing n elapsed := by
  simp only [resume, giveUp_eq]
  split
  · rename_i hover
    constructor
    · intro h
      cases h
      exact ⟨hover, rfl, rfl⟩
    · rintro ⟨_, rfl, rfl⟩
      rfl
  · rename_i hover
    constructor
    · intro h
      cases h
    · rintro ⟨hover', _⟩
      exact absurd hover' hover

end Wait
end BoundedWait

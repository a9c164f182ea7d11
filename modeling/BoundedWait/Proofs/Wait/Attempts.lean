import BoundedWait.Proofs.Wait.Unfolding

/-!
# How many attempts a wait makes

A wait ends after at least one attempt and after no more than its plan allows,
whatever the clock and the signal say; the clock need not even go forward.
The counter of the loop is the number of calls of the condition so far, and
its last value is what the outcome and the last event report.
-/

namespace BoundedWait

variable {σ α : Type}

/-- The bound of a plan, with the counter's limit taken once. -/
theorem Plan.bound_eq
    (p : Plan) :
    p.bound = min (p.timeout.nanos / p.poll.nanos + 1) (UInt32.size - 1) := by
  simp only [bound, counterLimit, UInt32.size]
  omega

/-- The number of attempts that the last event of a wait reports. -/
def Event.attempts? : Event → Option Nat
  | .started .. | .notReady .. => none
  | .succeeded n _ | .timedOut n _ _ | .aborted n _ _ | .cancelled n _ => some n

namespace Wait

section Attempts

variable (c : Classifier) (n : Nat) (probe : Probe α) (reading : Reading)

/-- The number of attempts is in every outcome but a success. -/
theorem attempts?_conclusion :
    (conclusion c n probe reading).isSuccess = true ∨
      (conclusion c n probe reading).attempts? = some n := by
  rcases conclusion_cases c n reading probe with
    ⟨value, -, hend⟩ | ⟨fault, -, -, hend⟩ | ⟨fault, -, -, hend⟩
  · rw [hend]
    exact Or.inl rfl
  · rw [hend]
    exact Or.inr rfl
  · rw [hend]
    exact Or.inr rfl

/-- The number of attempts is in every last event. -/
theorem attempts?_closing
    (elapsed : Duration) :
    ((conclusion c n probe reading).closing n elapsed).attempts? = some n := by
  rcases conclusion_cases c n reading probe with
    ⟨value, -, hend⟩ | ⟨fault, -, -, hend⟩ | ⟨fault, -, -, hend⟩
  · rw [hend]
    rfl
  · rw [hend]
    simp only [Outcome.closing]
    split <;> rfl
  · rw [hend]
    rfl

end Attempts

/-- Every wait ends, in one way, after at most as many attempts as its plan
allows.  The counter is exact before every attempt and at the end. -/
theorem run_makes_bounded_attempts
    (w : World σ α) (p : Plan) (c : Classifier) (s : σ) :
    ∃ rounds : List (Round α),
      Unfolds w p c 0 s rounds (run w p c s) ∧
      (∀ rounds' r, Unfolds w p c 0 s rounds' r →
        rounds' = rounds ∧ r = run w p c s) ∧
      1 ≤ rounds.length ∧
      rounds.length ≤ p.bound ∧
      p.bound = min (p.timeout.nanos / p.poll.nanos + 1) (UInt32.size - 1) ∧
      rounds.map Round.number = List.range' 1 rounds.length ∧
      (∀ made < rounds.length, nextAttempt made = made + 1) ∧
      (∀ earlier later, rounds = earlier ++ later → later ≠ [] →
        ∃ s' r', Unfolds w p c earlier.length s' later r' ∧
          r'.outcome = (run w p c s).outcome) ∧
      ((run w p c s).outcome.isSuccess = true ∨
        (run w p c s).outcome.attempts? = some rounds.length) ∧
      (run w p c s).events.getLast?.bind Event.attempts? = some rounds.length := by
  obtain ⟨rounds, hrun⟩ := unfolds_run w p c s
  obtain ⟨hnumbers, hlength⟩ := hrun.numbers p.bound_pos
  obtain ⟨earlier, last, event, rfl, -, hends, hevents⟩ := hrun.ending
  obtain ⟨houtcome, hevent⟩ := hends.outcome_eq
  have hlast := hrun.number_last
  rw [Nat.zero_add] at hnumbers hlength
  refine ⟨earlier ++ [last], hrun, ?_, ?_, hlength, p.bound_eq, hnumbers,
    ?_, ?_, ?_, ?_⟩
  · intro rounds' r h
    exact hrun.unique h
  · simp
  · intro made hmade
    exact nextAttempt_of_lt_bound (Nat.lt_of_lt_of_le hmade hlength)
  · intro earlier' later hsplit hlater
    rw [hsplit] at hrun
    have htail := hrun.tail p.bound_pos hlater
    rwa [Nat.zero_add] at htail
  · rw [houtcome, ← hlast]
    exact attempts?_conclusion _ _ _ _
  · rw [hevents, List.getLast?_concat, Option.bind_some, hevent, houtcome, ← hlast]
    exact attempts?_closing _ _ _ _ _

end Wait
end BoundedWait

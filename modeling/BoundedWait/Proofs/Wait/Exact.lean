import BoundedWait.Proofs.Wait.Pace

/-!
# The exact world

In the exact world a condition takes no time, a sleep takes exactly as long as
was asked for, and nobody cancels.  What the condition brings and how the dice
fall is given by the number of the attempt.  Waits in it are steady
(`Unfolds.steady_of_exact`), so the laws about steady waits are about
something.
-/

namespace BoundedWait

namespace Wait

variable {α : Type}

/-- The world in which nothing takes time but sleeping.  Its state is the time. -/
def World.exact (probe : Nat → Probe α) (draw : Nat → Nat) : World Duration α where
  attempt n now := (⟨probe n, ⟨now, false⟩, draw n⟩, now)
  sleep _ delay now := (⟨now.add delay, false⟩, now.add delay)

section Exact

variable {probe : Nat → Probe α} {draw : Nat → Nat} {p : Plan} {c : Classifier}

/-- No sleep leads beyond the longest duration, since none leads beyond the timeout. -/
theorem Round.Sleeps.nanos_wake
    {round : Round α} {nap : Nap} {fault : Fault}
    (h : round.Sleeps p c fault nap) :
    (round.answer.reading.elapsed.add nap.delay).nanos =
      round.answer.reading.elapsed.nanos + nap.delay.nanos := by
  have hintime := Duration.lt_iff.1 h.pending.in_time
  have hlongest := p.timeout.nanos_lt
  have hdelay := congrArg Duration.nanos h.delay_eq
  simp only [sleepDelay, Duration.nanos_min, Duration.nanos_sub] at hdelay
  simp only [Duration.nanos_add]
  omega

/-- A round with an exact sleep comes before a steady wait that starts when it wakes. -/
theorem Round.Sleeps.steady_cons
    {round : Round α} {nap : Nap} {fault : Fault} {rounds : List (Round α)}
    (h : round.Sleeps p c fault nap)
    (hexact : nap.reading.elapsed = round.answer.reading.elapsed.add nap.delay)
    (hrest : Steady rounds ∧
      ∀ t ∈ rounds.flatMap Round.times, nap.reading.elapsed ≤ t) :
    Steady (round :: rounds) ∧
      ∀ t ∈ (round :: rounds).flatMap Round.times, round.answer.reading.elapsed ≤ t := by
  have hwake := h.nanos_wake
  rw [← hexact] at hwake
  obtain ⟨hsteady, hafter⟩ := hrest
  constructor
  · exact hsteady.cons h.nap_eq (Nat.le_of_eq hwake.symm) hafter
  · intro t ht
    rw [Duration.le_iff]
    rw [List.flatMap_cons, List.mem_append] at ht
    rcases ht with ht | ht
    · simp only [Round.times, h.nap_eq, Option.map_some, Option.toList_some, List.mem_cons,
        List.not_mem_nil, or_false] at ht
      rcases ht with rfl | rfl <;> omega
    · have hlater := Duration.le_iff.1 (hafter t ht)
      omega

/-- Waits in the exact world are steady, and read no time before their start. -/
theorem Unfolds.steady_of_exact
    {made : Nat} {now : Duration} {rounds : List (Round α)} {r : Run Duration α}
    (h : Unfolds (World.exact probe draw) p c made now rounds r) :
    Steady rounds ∧ ∀ t ∈ rounds.flatMap Round.times, now ≤ t := by
  induction h with
  | @settled made now s₁ answer event outcome called judged =>
      obtain ⟨rfl, rfl⟩ := Prod.mk.inj called
      refine ⟨⟨?_, ?_⟩, ?_⟩
      · simp [Round.times]
      · simp
      · simp [Round.times, Duration.le_iff]
  | @stopped made now s₁ s₂ answer event last outcome fault delay reading
      called judged slept resumed =>
      obtain ⟨rfl, rfl⟩ := Prod.mk.inj called
      obtain ⟨rfl, rfl⟩ := Prod.mk.inj slept
      obtain ⟨hsleeps, -⟩ := sleeps_of_judge judged ⟨now.add delay, false⟩
      exact hsleeps.steady_cons rfl ⟨steady_nil, by simp⟩
  | @continued made now s₁ s₂ answer event fault delay reading rounds r
      called judged slept resumed rest ih =>
      obtain ⟨rfl, rfl⟩ := Prod.mk.inj called
      obtain ⟨rfl, rfl⟩ := Prod.mk.inj slept
      obtain ⟨hsleeps, -⟩ := sleeps_of_judge judged ⟨now.add delay, false⟩
      exact hsleeps.steady_cons rfl ih

end Exact

end Wait
end BoundedWait

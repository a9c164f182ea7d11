import BoundedWait.Proofs.Wait.Budget
import BoundedWait.Proofs.Wait.Deadline

/-!
# The cadence of a wait

Nobody reads the clock when a call begins.  It begins at some moment between the
reading before it and the reading after it (`Round.CanBegin`), and what is read
after a call is no earlier than its end.

* A sleep that lasts takes a wait a whole poll interval further, or to its
  timeout (`Round.Sleeps.spaced`).
* A call that begins at the timeout or later is the last one, since the answer
  to it is not pending (`Unfolds.last_of_late`).

So calls that crowd can only be the last two of a wait, and the very last one
comes too late then.
-/

namespace BoundedWait

/-- The plan whose intervals grow in another way. -/
def Plan.withGrowth (p : Plan) (growth : Growth) : Plan :=
  { p with growth }

namespace Wait

variable {σ α : Type}

/-- A moment at which the call of a round can begin that comes after others. -/
structure Round.CanBegin (before : List (Round α)) (round : Round α) (t : Duration) : Prop where
  lastRead_le : lastRead before ≤ t
  le_settled : t ≤ round.answer.reading.elapsed

theorem lastRead_concat
    (before : List (Round α)) (round : Round α) :
    lastRead (before ++ [round]) = round.deciding.elapsed := by
  simp [lastRead]

section Cadence

variable {w : World σ α} {p : Plan} {c : Classifier} {made : Nat} {s : σ} {r : Run σ α}
  {before after : List (Round α)} {round : Round α} {nap : Nap} {fault : Fault}

/-- A sleep that lasts ends a poll interval after the attempt, or at the timeout. -/
theorem Round.Sleeps.spaced
    (h : round.Sleeps p c fault nap)
    (hlasting : round.answer.reading.elapsed.nanos + nap.delay.nanos ≤
      nap.reading.elapsed.nanos) :
    round.answer.reading.elapsed.nanos + p.poll.nanos ≤ nap.reading.elapsed.nanos ∨
      p.timeout ≤ nap.reading.elapsed := by
  have hdelay := min_le_sleepDelay p round.number round.answer.draw
    round.answer.reading.elapsed
  rw [← h.delay_eq] at hdelay
  rw [Duration.le_iff]
  omega

/-- Once the timeout is read after a call, no other call follows. -/
theorem Unfolds.last_of_late
    (h : Unfolds w p c made s (before ++ round :: after) r)
    (hlate : p.timeout ≤ round.answer.reading.elapsed) :
    after = [] := by
  refine Classical.byContradiction fun hafter => ?_
  obtain ⟨fault, nap, hsleeps, -⟩ := h.continues_of_split hafter
  exact Nat.not_lt.2 hlate hsleeps.pending.in_time

/-- In a steady world, a round that another one follows has slept as long as it should. -/
theorem Unfolds.spaced_of_split
    (h : Unfolds w p c made s (before ++ round :: after) r)
    (hsteady : Steady (before ++ round :: after))
    (hafter : after ≠ []) :
    round.answer.reading.elapsed.nanos + p.poll.nanos ≤
        (lastRead (before ++ [round])).nanos ∨
      p.timeout ≤ lastRead (before ++ [round]) := by
  obtain ⟨fault, nap, hsleeps, huncancelled, -⟩ := h.continues_of_split hafter
  have hlasting := hsteady.lasting round (by simp) nap hsleeps.nap_eq huncancelled
  rw [lastRead_concat, hsleeps.deciding_eq]
  exact hsleeps.spaced hlasting

end Cadence

/-- In a steady world, a call begins at least a poll interval after the call
before it ended, or else it begins at the timeout or later and is the last.  No
call follows one that begins at the timeout or later. -/
theorem run_keeps_cadence
    (w : World σ α) (p : Plan) (c : Classifier) (s : σ) (rounds : List (Round α))
    (hrun : Unfolds w p c 0 s rounds (run w p c s))
    (hsteady : Steady rounds) :
    (∀ before round next after, rounds = before ++ round :: next :: after →
      ∀ ended begun, ended ≤ round.answer.reading.elapsed →
        next.CanBegin (before ++ [round]) begun →
        ended.nanos + p.poll.nanos ≤ begun.nanos ∨
          p.timeout ≤ begun ∧ after = []) ∧
    ∀ before round after, rounds = before ++ round :: after →
      ∀ begun, round.CanBegin before begun → p.timeout ≤ begun → after = [] := by
  have hlate : ∀ before round after, rounds = before ++ round :: after →
      ∀ begun, round.CanBegin before begun → p.timeout ≤ begun → after = [] := by
    rintro before round after rfl begun hbegun htimeout
    exact hrun.last_of_late (Nat.le_trans htimeout hbegun.le_settled)
  refine ⟨?_, hlate⟩
  rintro before round next after rfl ended begun hended hbegun
  have hread := Duration.le_iff.1 hbegun.lastRead_le
  rw [Duration.le_iff] at hended
  rcases hrun.spaced_of_split hsteady (List.cons_ne_nil _ _) with hspaced | htimeout
  · exact Or.inl (by omega)
  · have hbegins := Nat.le_trans htimeout hbegun.lastRead_le
    exact Or.inr ⟨hbegins, hlate (before ++ [round]) next after (by simp) begun hbegun hbegins⟩

/-- A plan whose intervals grow, so that its third sleep is cut short while an
attempt is left. -/
def growingFourInFourteen : Plan :=
  (Plan.inSeconds 4 14 (by decide) (by decide)).withGrowth .linear

/-- A round of the exact world that sleeps from one whole second to another. -/
def pendingRound (n start stop : Nat) : Round Unit :=
  ⟨n, ⟨never n, ⟨.ofSeconds start, false⟩, n⟩,
    some ⟨.ofSeconds (stop - start), ⟨.ofSeconds stop, false⟩⟩⟩

/-- The first three rounds of a wait by that plan for a condition that never holds. -/
def growingRounds : List (Round Unit) :=
  [pendingRound 1 0 4, pendingRound 2 4 12, pendingRound 3 12 14]

/-- Of four calls the last begins two seconds after the third ended, at the timeout. -/
theorem run_keeps_cadence_at_timeout :
    ∃ last,
      Unfolds (World.exact never id) growingFourInFourteen .strict 0 .zero
        (growingRounds ++ [last])
        (run (World.exact never id) growingFourInFourteen .strict .zero) ∧
      Steady (growingRounds ++ [last]) ∧
      last.CanBegin growingRounds (.ofSeconds 14) ∧
      (Duration.ofSeconds 14).nanos <
        (Duration.ofSeconds 12).nanos + growingFourInFourteen.poll.nanos ∧
      growingFourInFourteen.timeout ≤ .ofSeconds 14 := by
  have hrun : Unfolds (World.exact never id) growingFourInFourteen .strict 0 .zero
      (growingRounds ++ [⟨4, ⟨never 4, ⟨.ofSeconds 14, false⟩, 4⟩, none⟩])
      ⟨_, .timedOut (.notReady "pending") 4 (.ofSeconds 14) false, _⟩ :=
    .continued rfl rfl rfl rfl (.continued rfl rfl rfl rfl
      (.continued rfl rfl rfl rfl (.settled rfl rfl)))
  obtain ⟨hsteady, -⟩ := hrun.steady_of_exact
  rw [hrun.eq_run] at hrun
  have hbegins : Round.CanBegin growingRounds ⟨4, ⟨never 4, ⟨.ofSeconds 14, false⟩, 4⟩, none⟩
      (.ofSeconds 14) :=
    ⟨by decide, by decide⟩
  have hcadence := (run_keeps_cadence _ _ _ _ _ hrun hsteady).1
    [pendingRound 1 0 4, pendingRound 2 4 12] (pendingRound 3 12 14) _ [] rfl (.ofSeconds 12) _
    (by decide) hbegins
  exact ⟨_, hrun, hsteady, hbegins, by decide, (hcadence.resolve_left (by decide)).1⟩

end Wait
end BoundedWait

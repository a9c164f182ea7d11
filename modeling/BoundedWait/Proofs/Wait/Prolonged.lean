import BoundedWait.Proofs.Wait.Cadence
import BoundedWait.Proofs.Wait.Numbered

/-!
# Waits with a longer timeout

A plan is prolonged when its timeout grows and all else stays, but for the cap,
which may go along with the timeout (`Plan.Prolongs`).  That changes a delay only
when it leads to the shorter timeout anyway (`Plan.Prolongs.reach_or_sleepDelay_eq`).

So in exact worlds, and without jitter, two waits for the same condition keep
the same time until the shorter one wakes at its timeout, with one call to go.
The longer one makes that call too, if perhaps later.
-/

namespace BoundedWait

theorem Duration.le_add
    (a b : Duration) :
    a ≤ a.add b := by
  have hlongest := a.nanos_lt
  rw [le_iff, nanos_add]
  omega

namespace Plan

/-- A plan that differs from another one by a longer timeout, and by its cap only
if the cap of both is the timeout.  Neither jitters. -/
structure Prolongs (q p : Plan) : Prop where
  poll_eq : q.poll = p.poll
  timeout_le : p.timeout ≤ q.timeout
  growth_eq : q.growth = p.growth
  multiplier_eq : q.multiplier = p.multiplier
  cap_eq : (p.cap = p.timeout ∧ q.cap = q.timeout) ∨ q.cap = p.cap
  unjittered : p.jitter = false
  still_unjittered : q.jitter = false

/-- The plan with a longer timeout, which is its cap as well. -/
def prolong (p : Plan) (timeout : Duration) (hle : p.timeout ≤ timeout) : Plan :=
  { p with
    timeout
    cap := timeout
    poll_le_timeout := Nat.le_trans p.poll_le_timeout hle
    poll_le_cap := Nat.le_trans p.poll_le_timeout hle }

theorem prolongs_prolong
    {p : Plan}
    (hcap : p.cap = p.timeout)
    (hjitter : p.jitter = false)
    (timeout : Duration)
    (hle : p.timeout ≤ timeout) :
    (p.prolong timeout hle).Prolongs p :=
  ⟨rfl, hle, rfl, rfl, Or.inl ⟨hcap, rfl⟩, hjitter, hjitter⟩

namespace Prolongs

variable {p q : Plan} (h : q.Prolongs p)
include h

theorem bound_le :
    p.bound ≤ q.bound := by
  have hdiv := Nat.div_le_div_right (c := p.poll.nanos) (Duration.le_iff.1 h.timeout_le)
  simp only [bound, h.poll_eq]
  omega

/-- An interval that is shorter than the shorter timeout was not capped by it. -/
theorem interval_eq_of_lt
    {n : Nat}
    (hlt : p.interval n < p.timeout) :
    q.interval n = p.interval n := by
  have htimeout := Duration.le_iff.1 h.timeout_le
  have hgrown : q.grown n = p.grown n := by
    simp only [grown, h.poll_eq, h.growth_eq, h.multiplier_eq]
  apply Duration.ext
  simp only [interval, Duration.lt_iff, Duration.nanos_max, Duration.nanos_min, hgrown,
    h.poll_eq] at hlt ⊢
  rcases h.cap_eq with ⟨hcap, hcap'⟩ | hcap
  · rw [hcap] at hlt ⊢
    rw [hcap']
    omega
  · rw [hcap]

/-- A sleep within the shorter timeout reaches it, or is the same by both plans. -/
theorem reach_or_sleepDelay_eq
    {elapsed : Duration}
    (hintime : elapsed < p.timeout)
    (n draw : Nat) :
    p.timeout.nanos ≤ elapsed.nanos + (Wait.sleepDelay p n draw elapsed).nanos ∨
      Wait.sleepDelay q n draw elapsed = Wait.sleepDelay p n draw elapsed := by
  have htimeout := Duration.le_iff.1 h.timeout_le
  rw [Duration.lt_iff] at hintime
  simp only [Wait.sleepDelay, delay_of_unjittered h.unjittered,
    delay_of_unjittered h.still_unjittered]
  by_cases hshort : p.timeout.nanos ≤ elapsed.nanos + (p.interval n).nanos
  · refine Or.inl ?_
    simp only [Duration.nanos_min, Duration.nanos_sub]
    omega
  · refine Or.inr (Duration.ext ?_)
    have hinterval := h.interval_eq_of_lt (n := n) (Duration.lt_iff.2 (by omega))
    simp only [hinterval, Duration.nanos_min, Duration.nanos_sub]
    omega

end Prolongs

end Plan

namespace Wait

variable {α : Type}

section Prolonged

variable {probe : Nat → Probe α} {lasts : Nat → Duration} {draw : Nat → Nat}
  {p q : Plan} {c : Classifier}

theorem Answer.Pending.of_prolongs
    {answer : Answer α} {fault : Fault}
    (h : answer.Pending p c fault)
    (hprolongs : q.Prolongs p) :
    answer.Pending q c fault :=
  { h with in_time := Nat.lt_of_lt_of_le h.in_time hprolongs.timeout_le }

/-- By a prolonged plan a wait makes no fewer calls. -/
theorem Unfolds.length_le_of_prolongs
    {made : Nat} {now now' : Duration} {rounds rounds' : List (Round α)}
    {r r' : Run Duration α}
    (h : Unfolds (World.timed probe lasts draw) p c made now rounds r)
    (h' : Unfolds (World.timed probe lasts draw) q c made now' rounds' r')
    (hprolongs : q.Prolongs p)
    (hnow : now' = now ∨ p.timeout ≤ now) :
    rounds.length ≤ rounds'.length := by
  -- Both waits keep the same time, unless the shorter one is about to make its last call.
  induction h generalizing now' rounds' r' with
  | settled called judged =>
      exact h'.length_pos
  | stopped called judged slept resumed =>
      exact h'.length_pos
  | @continued made now s₁ s₂ answer event fault delay reading rounds r
      called judged slept resumed rest ih =>
      obtain ⟨rfl, rfl⟩ := Prod.mk.inj called
      obtain ⟨rfl, rfl⟩ := Prod.mk.inj slept
      obtain ⟨hpending, rfl, -⟩ := (judge_eq_sleep_iff _).1 judged
      obtain ⟨-, hleft⟩ := (resume_eq_none_iff _ _ _ _ _).1 resumed
      have hearly : ¬ p.timeout ≤ now := fun hlate =>
        Nat.not_lt.2 (Nat.le_trans hlate (now.le_add _)) hpending.in_time
      obtain rfl := hnow.resolve_right hearly
      obtain ⟨round, later, r'', rfl, hlater⟩ := h'.goes_on rfl
        (hpending.of_prolongs hprolongs) rfl rfl (Nat.lt_of_lt_of_le hleft hprolongs.bound_le)
      refine Nat.succ_le_succ (ih hlater ?_)
      rcases hprolongs.reach_or_sleepDelay_eq hpending.in_time (nextAttempt made)
        (draw (nextAttempt made)) with hreach | hsame
      · have hlongest := p.timeout.nanos_lt
        refine Or.inr ?_
        rw [Duration.le_iff, Duration.nanos_add]
        exact Nat.le_min.2 ⟨hreach, by omega⟩
      · exact Or.inl (by rw [hsame])

end Prolonged

/-- Of two waits for the same condition, one by a prolonged plan: the longer one
makes no fewer calls, and if the shorter one ends with a value or by a fatal
fault, then the longer one does so at the same call. -/
theorem longer_timeout_loses_nothing
    {p q : Plan} (hprolongs : q.Prolongs p) (c : Classifier)
    (probe : Nat → Probe α) (lasts : Nat → Duration) (draw : Nat → Nat) :
    ∃ rounds rounds',
      Unfolds (World.timed probe lasts draw) p c 0 .zero rounds
        (run (World.timed probe lasts draw) p c .zero) ∧
      Unfolds (World.timed probe lasts draw) q c 0 .zero rounds'
        (run (World.timed probe lasts draw) q c .zero) ∧
      rounds.length ≤ rounds'.length ∧
      (∀ value, (run (World.timed probe lasts draw) p c .zero).outcome = .success value →
        (run (World.timed probe lasts draw) q c .zero).outcome = .success value ∧
          rounds'.length = rounds.length) ∧
      ∀ fault n elapsed,
        (run (World.timed probe lasts draw) p c .zero).outcome = .aborted fault n elapsed →
        (∃ elapsed', (run (World.timed probe lasts draw) q c .zero).outcome =
          .aborted fault n elapsed') ∧
          n = rounds.length ∧ rounds'.length = rounds.length := by
  obtain ⟨rounds, hshorter⟩ := unfolds_run (World.timed probe lasts draw) p c .zero
  obtain ⟨rounds', hlonger⟩ := unfolds_run (World.timed probe lasts draw) q c .zero
  have hle := hshorter.length_le_of_prolongs hlonger hprolongs (Or.inl rfl)
  have hnumbered := hshorter.numbered fun _ _ => rfl
  have hnumbered' := hlonger.numbered fun _ _ => rfl
  exact ⟨rounds, rounds', hshorter, hlonger, hle,
    hshorter.ends_alike hlonger hnumbered hnumbered' hle⟩

/-- A plan with more time whose intervals grow. -/
def growingFourInForty : Plan :=
  growingFourInFourteen.prolong (.ofSeconds 40) (by decide)

/-- The fourth call holds, at 14 seconds by one plan and at 24 by the other. -/
theorem longer_timeout_loses_nothing_of_growth :
    growingFourInForty.Prolongs growingFourInFourteen ∧
    (run (World.timed (heldFrom 4) (fun _ => .zero) id) growingFourInFourteen .strict
      .zero).outcome = .success () ∧
    (run (World.timed (heldFrom 4) (fun _ => .zero) id) growingFourInForty .strict
      .zero).outcome = .success () := by
  have hprolongs : growingFourInForty.Prolongs growingFourInFourteen :=
    Plan.prolongs_prolong rfl rfl _ _
  have hrun : Unfolds (World.timed (heldFrom 4) (fun _ => .zero) id) growingFourInFourteen .strict
      0 .zero _ ⟨_, .success (), _⟩ :=
    .continued rfl rfl rfl rfl (.continued rfl rfl rfl rfl
      (.continued rfl rfl rfl rfl (.settled rfl rfl)))
  have houtcome := (congrArg Run.outcome hrun.eq_run).symm
  obtain ⟨_, _, -, -, -, hsuccess, -⟩ :=
    longer_timeout_loses_nothing hprolongs .strict (heldFrom 4) (fun _ => .zero) id
  exact ⟨hprolongs, houtcome, (hsuccess () houtcome).1⟩

end Wait
end BoundedWait

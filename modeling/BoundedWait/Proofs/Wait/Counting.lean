import BoundedWait.Observer
import BoundedWait.Proofs.Wait.Refinement
import BoundedWait.Plan.Preset
import Mathlib.Algebra.BigOperators.Group.List.Basic
import Mathlib.Algebra.GroupWithZero.Nat

/-!
# What waits that share a tally add up to

Waits that run side by side report to one tally, each in its own order, and no
more is known about the order of their reports (`Interleaving`).  A tally does
not see the order, so that it holds, up to the width of its counters, the sums
of what each wait reports by itself.

By itself a wait reports each call of the condition, each sleep, and its end.
Every call but the last is followed by a sleep, and the last one is unless the
wait ends right after it.
-/

namespace BoundedWait

/-- The kinds of events, each with a counter of its own in a tally. -/
inductive Event.Kind
  | started
  | notReady
  | succeeded
  | timedOut
  | aborted
  | cancelled
deriving DecidableEq

/-- The kind of an event. -/
def Event.kind : Event → Event.Kind
  | .started .. => .started
  | .notReady .. => .notReady
  | .succeeded .. => .succeeded
  | .timedOut .. => .timedOut
  | .aborted .. => .aborted
  | .cancelled .. => .cancelled

/-- The kind of event that reports an outcome. -/
def Outcome.kind {α : Type} : Outcome α → Event.Kind
  | .success _ => .succeeded
  | .timedOut _ _ _ cancelled => if cancelled then .cancelled else .timedOut
  | .aborted .. => .aborted

section Outcomes

variable {α : Type} (outcome : Outcome α)

theorem Outcome.kind_ne :
    outcome.kind ≠ .started ∧ outcome.kind ≠ .notReady := by
  cases outcome with
  | timedOut fault attempts elapsed cancelled => cases cancelled <;> simp [kind]
  | _ => simp [kind]

theorem Outcome.kind_eq_iff :
    (outcome.kind = .succeeded ↔ outcome.isSuccess = true) ∧
    (outcome.kind = .aborted ↔ outcome.isAborted = true) ∧
    (outcome.kind = .timedOut ↔ (outcome.isTimedOut && !outcome.isCancelled) = true) ∧
    (outcome.kind = .cancelled ↔ outcome.isCancelled = true) := by
  cases outcome with
  | timedOut fault attempts elapsed cancelled =>
      cases cancelled <;> simp [kind, isSuccess, isAborted, isTimedOut, isCancelled]
  | _ => simp [kind, isSuccess, isAborted, isTimedOut, isCancelled]

theorem Outcome.one_kind :
    (if outcome.isSuccess then 1 else 0) + (if outcome.isAborted then 1 else 0) +
      (if outcome.isTimedOut && !outcome.isCancelled then 1 else 0) +
      (if outcome.isCancelled then 1 else 0) = 1 := by
  cases outcome with
  | timedOut fault attempts elapsed cancelled => cases cancelled <;> rfl
  | _ => rfl

end Outcomes

namespace Tally

/-- The counter for a kind of event. -/
def counter (t : Tally) : Event.Kind → UInt32
  | .started => t.attemptStarts
  | .notReady => t.notReady
  | .succeeded => t.successes
  | .timedOut => t.timeouts
  | .aborted => t.aborts
  | .cancelled => t.cancellations

theorem counter_record
    (t : Tally) (event : Event) (kind : Event.Kind) :
    (t.record event).counter kind =
      t.counter kind + if event.kind = kind then 1 else 0 := by
  cases event <;> cases kind <;> simp [record, counter, Event.kind]

/-- A counter goes up by the number of events of its kind, and wraps around. -/
theorem toNat_counter_recordAll
    (t : Tally) (events : List Event) (kind : Event.Kind) :
    ((t.recordAll events).counter kind).toNat =
      ((t.counter kind).toNat + (events.map Event.kind).count kind) % 2 ^ 32 := by
  induction events generalizing t with
  | nil =>
      have hlt := (t.counter kind).toNat_lt
      simp only [recordAll, List.foldl_nil, List.map_nil, List.count_nil, Nat.add_zero]
      exact (Nat.mod_eq_of_lt hlt).symm
  | cons event rest ih =>
      have hstep : t.recordAll (event :: rest) = (t.record event).recordAll rest := rfl
      rw [hstep, ih, counter_record, List.map_cons, List.count_cons, UInt32.toNat_add]
      by_cases hkind : event.kind = kind
      · simp only [hkind, if_true, beq_self_eq_true, UInt32.toNat_one]
        omega
      · simp only [hkind, if_false, beq_iff_eq, UInt32.toNat_zero]
        omega

end Tally

/-- Lists that are merged into one, each in its own order: as long as one of
them is not at its end, the next element is the head of such a list. -/
inductive Interleaving {β : Type} : List (List β) → List β → Prop
  | done {lists : List (List β)}
      (hdone : ∀ l ∈ lists, l = []) :
      Interleaving lists []
  | next {lists : List (List β)} {i : Nat} {b : β} {rest merged : List β}
      (hhead : lists[i]? = some (b :: rest))
      (later : Interleaving (lists.set i rest) merged) :
      Interleaving lists (b :: merged)

/-- Nothing is lost or added when lists are merged. -/
theorem Interleaving.perm
    {β : Type} {lists : List (List β)} {merged : List β}
    (h : Interleaving lists merged) :
    merged.Perm lists.flatten := by
  induction h with
  | done hdone =>
      rw [List.flatten_eq_nil_iff.2 hdone]
  | @next lists i b rest merged hhead later ih =>
      obtain ⟨hlt, hget⟩ := List.getElem?_eq_some_iff.1 hhead
      have hbefore : lists = lists.take i ++ (b :: rest) :: lists.drop (i + 1) := by
        rw [← hget, List.getElem_cons_drop, List.take_append_drop]
      have hafter : lists.set i rest = lists.take i ++ rest :: lists.drop (i + 1) := by
        rw [List.set_eq_take_append_cons_drop, if_pos hlt]
      rw [hafter, List.flatten_append, List.flatten_cons] at ih
      rw [hbefore, List.flatten_append, List.flatten_cons]
      exact (ih.cons b).trans List.perm_middle.symm

namespace Wait

variable {σ α : Type}

section Kinds

variable {w : World σ α} {p : Plan} {c : Classifier}

/-- The kinds of events that a round reports before the wait ends. -/
def Round.kinds (round : Round α) : List Event.Kind :=
  if round.nap.isSome then [.started, .notReady] else [.started]

theorem kind_closing
    (n : Nat) (elapsed : Duration) (outcome : Outcome α) :
    (outcome.closing n elapsed).kind = outcome.kind := by
  cases outcome with
  | timedOut fault attempts elapsed cancelled => cases cancelled <;> rfl
  | _ => rfl

/-- The kinds of events of a wait, round by round, and at its end. -/
theorem Unfolds.kinds_eq
    {made : Nat} {s : σ} {rounds : List (Round α)} {r : Run σ α}
    (h : Unfolds w p c made s rounds r) :
    r.events.map Event.kind = rounds.flatMap Round.kinds ++ [r.outcome.kind] := by
  obtain ⟨earlier, last, event, rfl, -, hends, hevents⟩ := h.ending
  obtain ⟨-, rfl⟩ := hends.outcome_eq
  have hreport : ∀ round ∈ earlier ++ [last],
      (round.report p).map Event.kind = round.kinds := by
    intro round hround
    cases hnap : round.nap with
    | none => simp [Round.report_of_nap_eq_none hnap, Round.kinds, hnap, Event.kind]
    | some nap =>
        obtain ⟨fault, hsleeps⟩ := h.sleeps_of_nap hround hnap
        simp [hsleeps.report_eq, Round.kinds, hnap, Event.kind]
  rw [hevents, List.map_append, List.map_flatMap, List.map_singleton, kind_closing]
  congr 1
  exact List.flatMap_congr hreport

end Kinds

/-- A wait of any kind that has come to its end, and the number of pointers
between it and its observer.  Every wait comes to its end, and in one way only
(`unfolds_run`, `Unfolds.unique`). -/
structure Completed where
  {σ α : Type}
  world : World σ α
  plan : Plan
  classifier : Classifier
  start : σ
  rounds : List (Round α)
  result : Run σ α
  unfolds : Unfolds world plan classifier 0 start rounds result
  pointers : Nat

namespace Completed

/-- How often the condition was called. -/
def calls (x : Completed) : Nat :=
  x.rounds.length

/-- Whether a wait was decided right after an attempt, and not after a sleep. -/
def endsAwake (x : Completed) : Bool :=
  x.rounds.getLast?.all fun round => round.nap.isNone

/-- What a wait reports, in order. -/
def reports (x : Completed) : List Report :=
  x.result.events.map fun event => ⟨x.pointers, event⟩

/-- How many reports of a kind a wait makes. -/
def count (x : Completed) (kind : Event.Kind) : Nat :=
  (x.result.events.map Event.kind).count kind

theorem count_eq
    (x : Completed) (kind : Event.Kind) :
    x.count kind =
      (x.rounds.map fun round => round.kinds.count kind).sum +
        if x.result.outcome.kind = kind then 1 else 0 := by
  rw [count, x.unfolds.kinds_eq, List.count_append, List.count_flatMap, List.count_singleton]
  simp only [beq_iff_eq]
  rfl

/-- Each call begins an attempt. -/
theorem count_started
    (x : Completed) :
    x.count .started = x.calls := by
  have hone : ∀ round : Round x.α, round.kinds.count .started = 1 := by
    intro round
    cases hnap : round.nap <;> simp [Round.kinds, hnap]
  rw [count_eq, if_neg x.result.outcome.kind_ne.1]
  simp [hone, calls]

/-- Each call is followed by a sleep, unless the wait ends right after it. -/
theorem count_notReady
    (x : Completed) :
    x.count .notReady + x.endsAwake.toNat = x.calls := by
  obtain ⟨earlier, last, event, hrounds, hearlier, -⟩ := x.unfolds.ending
  have hone : ∀ round ∈ earlier, round.kinds.count .notReady = 1 := by
    intro round hround
    obtain ⟨fault, nap, hsleeps, -⟩ := hearlier round hround
    simp [Round.kinds, hsleeps.nap_eq]
  rw [count_eq, if_neg x.result.outcome.kind_ne.2, calls, endsAwake, hrounds, List.map_append,
    List.map_congr_left hone]
  cases hnap : last.nap <;> simp [Round.kinds, hnap]

/-- The end is reported once, as what it is. -/
theorem count_of_end
    (x : Completed) {kind : Event.Kind}
    (hkind : kind ≠ .started ∧ kind ≠ .notReady) :
    x.count kind = if x.result.outcome.kind = kind then 1 else 0 := by
  have hnone : ∀ round : Round x.α, round.kinds.count kind = 0 := by
    intro round
    cases hnap : round.nap <;>
      simp [Round.kinds, hnap, hkind.1.symm, hkind.2.symm]
  simp [count_eq, hnone]

end Completed

section Shared

variable (waits : List Completed)

/-- What the waits report together, kind by kind. -/
theorem toNat_counter_ofReports
    {reports : List Report}
    (h : Interleaving (waits.map Completed.reports) reports)
    (kind : Event.Kind) :
    ((Tally.ofReports reports).counter kind).toNat =
      (waits.map (·.count kind)).sum % 2 ^ 32 := by
  have hzero : (Tally.zero.counter kind).toNat = 0 := by
    cases kind <;> rfl
  -- the reports may as well come wait by wait
  rw [Tally.ofReports_eq, Tally.recordAll_perm _ (h.perm.map Report.event),
    Tally.toNat_counter_recordAll, hzero, Nat.zero_add, List.map_flatten, List.map_flatten,
    List.count_flatten]
  simp only [List.map_map]
  congr 2
  refine List.map_congr_left fun x _ => ?_
  simp [Completed.count, Completed.reports, Function.comp_def]

theorem sum_count_started :
    (waits.map (·.count .started)).sum = (waits.map Completed.calls).sum := by
  simp only [Completed.count_started]

theorem sum_count_notReady :
    (waits.map (·.count .notReady)).sum + waits.countP Completed.endsAwake =
      (waits.map Completed.calls).sum := by
  induction waits with
  | nil => rfl
  | cons x rest ih =>
      have hx := x.count_notReady
      simp only [List.map_cons, List.sum_cons, List.countP_cons]
      cases hend : x.endsAwake <;> simp only [hend, Bool.toNat_false, Bool.toNat_true] at hx <;>
        simp only [if_true, Bool.false_eq_true, if_false] <;> omega

theorem sum_count_of_end
    {kind : Event.Kind}
    (hkind : kind ≠ .started ∧ kind ≠ .notReady) :
    (waits.map (·.count kind)).sum = waits.countP (·.result.outcome.kind = kind) := by
  induction waits with
  | nil => rfl
  | cons x rest ih =>
      rw [List.map_cons, List.sum_cons, List.countP_cons, ih, x.count_of_end hkind, Nat.add_comm]
      simp

/-- Every wait calls its condition. -/
theorem length_le_sum_calls :
    waits.length ≤ (waits.map Completed.calls).sum := by
  induction waits with
  | nil => exact Nat.le_refl 0
  | cons x rest ih =>
      have hx : 0 < x.calls := x.unfolds.length_pos
      simp only [List.length_cons, List.map_cons, List.sum_cons]
      omega

/-- Every wait ends in one of four ways. -/
theorem countP_ends :
    waits.countP (·.result.outcome.isSuccess) + waits.countP (·.result.outcome.isAborted) +
      waits.countP (fun x => x.result.outcome.isTimedOut && !x.result.outcome.isCancelled) +
      waits.countP (·.result.outcome.isCancelled) = waits.length := by
  induction waits with
  | nil => rfl
  | cons x rest ih =>
      have hx := x.result.outcome.one_kind
      simp only [List.countP_cons, List.length_cons]
      omega

end Shared

/-- However the reports of waits are interleaved, and through however many
pointers they go, a tally that the waits share counts, up to the width of its
counters, all calls of their conditions, all sleeps, and each wait by how it
ended.  All calls are followed by a sleep but the last ones of the waits that
were decided right after an attempt. -/
theorem shared_tally_adds_up
    {waits : List Completed} {reports : List Report}
    (h : Interleaving (waits.map Completed.reports) reports) :
    ∃ calls slept,
      calls = (waits.map Completed.calls).sum ∧
      slept + waits.countP Completed.endsAwake = calls ∧
      waits.length ≤ calls ∧ calls - waits.length ≤ slept ∧ slept ≤ calls ∧
      (Tally.ofReports reports).attemptStarts.toNat = calls % 2 ^ 32 ∧
      (Tally.ofReports reports).notReady.toNat = slept % 2 ^ 32 ∧
      (Tally.ofReports reports).successes.toNat =
        waits.countP (·.result.outcome.isSuccess) % 2 ^ 32 ∧
      (Tally.ofReports reports).aborts.toNat =
        waits.countP (·.result.outcome.isAborted) % 2 ^ 32 ∧
      (Tally.ofReports reports).timeouts.toNat =
        waits.countP (fun x => x.result.outcome.isTimedOut && !x.result.outcome.isCancelled) %
          2 ^ 32 ∧
      (Tally.ofReports reports).cancellations.toNat =
        waits.countP (·.result.outcome.isCancelled) % 2 ^ 32 ∧
      waits.countP (·.result.outcome.isSuccess) + waits.countP (·.result.outcome.isAborted) +
        waits.countP (fun x => x.result.outcome.isTimedOut && !x.result.outcome.isCancelled) +
        waits.countP (·.result.outcome.isCancelled) = waits.length := by
  have hslept := sum_count_notReady waits
  have hcalls := length_le_sum_calls waits
  have hawake : waits.countP Completed.endsAwake ≤ waits.length := List.countP_le_length
  have hcounter := toNat_counter_ofReports waits h
  have hend : ∀ (kind : Event.Kind) {ends : Completed → Bool},
      kind ≠ .started ∧ kind ≠ .notReady →
      (∀ x : Completed, x.result.outcome.kind = kind ↔ ends x = true) →
      ((Tally.ofReports reports).counter kind).toNat = waits.countP ends % 2 ^ 32 := by
    intro kind ends hkind hends
    rw [hcounter, sum_count_of_end waits hkind]
    congr 1
    exact List.countP_congr fun x _ => by simp [hends x]
  refine ⟨_, _, rfl, hslept, hcalls, by omega, by omega, ?_, hcounter .notReady, ?_, ?_, ?_, ?_,
    countP_ends waits⟩
  · rw [← sum_count_started]
    exact hcounter .started
  · exact hend .succeeded (by simp) fun x => x.result.outcome.kind_eq_iff.1
  · exact hend .aborted (by simp) fun x => x.result.outcome.kind_eq_iff.2.1
  · exact hend .timedOut (by simp) fun x => x.result.outcome.kind_eq_iff.2.2.1
  · exact hend .cancelled (by simp) fun x => x.result.outcome.kind_eq_iff.2.2.2

/-- What a wait is told whose second call brings a value. -/
def heldAtSecond : Feed Unit where
  probe n := if n < 2 then .error (.notReady "pending") else .ok ()
  settled _ := .zero
  woken _ := .ofSeconds 1
  draw _ := 0

/-- A wait that succeeds at its second call, and holds its observer by itself. -/
def succeeding : Completed where
  world := .told heldAtSecond fun _ => false
  plan := Plan.standard
  classifier := .strict
  start := 0
  rounds := _
  result := _
  unfolds := .continued rfl rfl rfl rfl (.settled rfl rfl)
  pointers := 0

/-- A wait that is cancelled in its first sleep, and holds its observer behind
two pointers. -/
def interrupted : Completed where
  world := .told heldAtSecond fun i => i = 1
  plan := Plan.standard
  classifier := .strict
  start := 0
  rounds := _
  result := _
  unfolds := .stopped rfl rfl rfl rfl
  pointers := 2

/-- The reports of both, made in turns. -/
def inTurns : List Report :=
  [⟨0, .started 1 61⟩, ⟨2, .started 1 61⟩,
    ⟨0, .notReady 1 (.notReady "pending") (.ofSeconds 1)⟩,
    ⟨2, .notReady 1 (.notReady "pending") (.ofSeconds 1)⟩,
    ⟨0, .started 2 61⟩, ⟨2, .cancelled 1 (.notReady "pending")⟩, ⟨0, .succeeded 2 .zero⟩]

theorem shared_tally_adds_up_in_turns :
    Interleaving ([succeeding, interrupted].map Completed.reports) inTurns ∧
      (Tally.ofReports inTurns).attemptStarts.toNat = 3 ∧
      (Tally.ofReports inTurns).notReady.toNat + 1 = 3 := by
  have hturns : Interleaving ([succeeding, interrupted].map Completed.reports) inTurns :=
    .next (i := 0) rfl <| .next (i := 1) rfl <| .next (i := 0) rfl <| .next (i := 1) rfl <|
      .next (i := 0) rfl <| .next (i := 1) rfl <| .next (i := 0) rfl <| .done (by decide)
  obtain ⟨calls, slept, rfl, hslept, -, -, -, hstarts, hnotReady, -⟩ := shared_tally_adds_up hturns
  refine ⟨hturns, hstarts, ?_⟩
  have hcalls : ([succeeding, interrupted].map Completed.calls).sum = 3 := rfl
  have hawake : [succeeding, interrupted].countP Completed.endsAwake = 1 := rfl
  omega

end Wait
end BoundedWait

import BoundedWait.Proofs.Wait.Threads

/-!
# A wait among threads is a run of the loop

What the signal answers to a wait depends on the other threads.  Given these
answers, the wait does what a run of the loop does in a world that answers the
same (`World.told`): the events reported so far, followed by what is left of the
run at the stage where the wait stands, are the events of that run.

In particular, a wait that has not yet been told of a firing has reported the
first events of the run in which the signal never fires.
-/

namespace BoundedWait
namespace Wait

open Signal (Shared)

variable {σ α : Type}

/-- A world that answers by a table.  Its state is the number of times that it
has been asked for the signal. -/
def World.told (feed : Feed α) (heard : Nat → Bool) : World Nat α where
  attempt n i := (⟨feed.probe n, ⟨feed.settled n, heard i⟩, feed.draw n⟩, i + 1)
  sleep n _ i := (⟨feed.woken n, heard i⟩, i + 1)

/-- The run of a task in which the signal never fires. -/
def Task.undisturbed (k : Task α) : Run Nat α :=
  run (.told k.feed fun _ => false) k.plan k.classifier 0

/-- A run that reports some events first. -/
def Run.after (events : List Event) (r : Run σ α) : Run σ α :=
  { r with events := events ++ r.events }

theorem Run.after_append
    (first second : List Event) (r : Run σ α) :
    Run.after (first ++ second) r = Run.after first (Run.after second r) := by
  simp [Run.after]

section Rest

variable (w : World σ α) (p : Plan) (c : Classifier)

/-- The rest of a run after the sleep that follows attempt `n`. -/
def awake (n : Nat) (fault : Fault) (reading : Reading) (s : σ) : Run σ α :=
  match resume p n fault reading.elapsed reading.cancelled with
  | some (event, outcome) => ⟨[event], outcome, s⟩
  | none => runFrom w p c n s

/-- The rest of a run after the answer to attempt `n`. -/
def answered (n : Nat) (a : Answer α) (s : σ) : Run σ α :=
  match judge p c n a with
  | (event, .finished outcome) => ⟨[event], outcome, s⟩
  | (event, .sleep fault delay) =>
    Run.after [event] (awake w p c n fault (w.sleep n delay s).1 (w.sleep n delay s).2)

/-- A run begins with the start of an attempt. -/
theorem runFrom_eq_answered
    (made : Nat) (s : σ) :
    runFrom w p c made s =
      Run.after [.started (nextAttempt made) p.bound]
        (answered w p c (nextAttempt made) (w.attempt (nextAttempt made) s).1
          (w.attempt (nextAttempt made) s).2) := by
  rw [runFrom]
  simp only [answered, judge, awake]
  split
  · rename_i heq
    simp only [heq]
    rfl
  · rename_i event fault delay heq
    simp only [heq]
    split
    · rename_i last outcome hresume
      simp only [hresume]
      rfl
    · rename_i hresume
      simp only [hresume]
      rfl

variable {w p c} {n : Nat} {a : Answer α} {s : σ} {event : Event} {outcome : Outcome α}
  {fault : Fault} {delay : Duration} {reading : Reading}

theorem answered_of_finished
    (h : judge p c n a = (event, .finished outcome)) :
    answered w p c n a s = ⟨[event], outcome, s⟩ := by
  simp only [answered, h]

theorem answered_of_sleep
    (h : judge p c n a = (event, .sleep fault delay)) :
    answered w p c n a s =
      Run.after [event] (awake w p c n fault (w.sleep n delay s).1 (w.sleep n delay s).2) := by
  simp only [answered, h]

theorem awake_of_some
    (h : resume p n fault reading.elapsed reading.cancelled = some (event, outcome)) :
    awake w p c n fault reading s = ⟨[event], outcome, s⟩ := by
  simp only [awake, h]

theorem awake_of_none
    (h : resume (α := α) p n fault reading.elapsed reading.cancelled = none) :
    awake w p c n fault reading s = runFrom w p c n s := by
  simp only [awake, h]

end Rest

namespace Threaded

variable (k : Task α) (heard : Nat → Bool)

/-- What is left of a run at a stage, after `i` questions to the signal. -/
def rest (i : Nat) : Stage α → Run Nat α
  | .begin made => runFrom (.told k.feed heard) k.plan k.classifier made i
  | .call n => settling i n (k.feed.probe n) (k.feed.settled n)
  | .settleClock n probe => settling i n probe (k.feed.settled n)
  | .settleAsk n probe elapsed => settling i n probe elapsed
  | .settle n a => answered (.told k.feed heard) k.plan k.classifier n a i
  | .retire n fault _ | .asleep n fault =>
    awake (.told k.feed heard) k.plan k.classifier n fault ⟨k.feed.woken n, heard i⟩ (i + 1)
  | .resumeClock n fault cancelled =>
    awake (.told k.feed heard) k.plan k.classifier n fault ⟨k.feed.woken n, cancelled⟩ i
  | .resume n fault reading =>
    awake (.told k.feed heard) k.plan k.classifier n fault reading i
  | .finished outcome => ⟨[], outcome, i⟩
where
  settling (i n : Nat) (probe : Probe α) (elapsed : Duration) : Run Nat α :=
    answered (.told k.feed heard) k.plan k.classifier n
      ⟨probe, ⟨elapsed, heard i⟩, k.feed.draw n⟩ (i + 1)

/-- The run that a wait is about to complete. -/
def whole (s : Threaded α) : Run Nat α :=
  Run.after s.events (rest k heard s.readings.length s.stage)

/-- A table of answers goes on from what a wait has been told. -/
def Hears (heard : Nat → Bool) (s : Threaded α) : Prop :=
  ∀ i fired, s.readings[i]? = some fired → heard i = fired

variable {k heard} {s t : Threaded α} {own : Bool}

theorem Moved.hears
    (h : Moved k s own t)
    (ht : Hears heard t) :
    Hears heard s := by
  have hconcat : ∀ fired, t.readings = s.readings ++ [fired] → Hears heard s := by
    intro fired heq i earlier hearlier
    have hlt := (List.getElem?_eq_some_iff.1 hearlier).1
    refine ht i earlier ?_
    rw [heq, List.getElem?_append_left hlt, hearlier]
  cases h with
  | asked hstage hact hset => exact hconcat _ rfl
  | woken hstage hact hset hfired => exact hconcat _ rfl
  | _ => exact ht

/-- A step may bring a run forward, but it is the same run. -/
theorem Moved.whole_eq
    (h : Moved k s own t)
    (ht : Hears heard t) :
    whole k heard t = whole k heard s := by
  -- the table gives the answer that the wait has been given just now
  have hlast : ∀ fired, t.readings = s.readings ++ [fired] →
      heard s.readings.length = fired := by
    intro fired heq
    refine ht _ fired ?_
    rw [heq, List.getElem?_concat_length]
  cases h with
  | @begun made hstage =>
      simp only [whole, report, hstage, rest, runFrom_eq_answered, Run.after_append]
      rfl
  | called hstage =>
      simp only [whole, goto, hstage, rest]
  | timed hstage =>
      simp only [whole, goto, hstage, rest]
  | asked hstage hact hset =>
      simp only [whole, hstage, rest, rest.settling, hlast _ rfl, List.length_append,
        List.length_singleton]
  | ended hstage hjudge =>
      simp only [whole, report, hstage, rest, answered_of_finished hjudge, Run.after_append]
      rfl
  | tired hstage hjudge =>
      simp only [whole, report, hstage, rest, answered_of_sleep hjudge, Run.after_append]
      rfl
  | retired hstage hact hset hsleep =>
      simp only [whole, hstage, rest]
  | dozed hstage hact ha hset hsleep hless => rfl
  | woken hstage hact hset hfired =>
      simp only [whole, hstage, rest, hlast _ rfl, List.length_append, List.length_singleton]
  | read hstage =>
      simp only [whole, goto, hstage, rest]
  | stopped hstage hresume =>
      simp only [whole, report, hstage, rest, awake_of_some hresume, Run.after_append]
      rfl
  | resumed hstage hresume =>
      simp only [whole, goto, hstage, rest, awake_of_none hresume]
  | aside hact ha hb hsame => rfl

theorem Moves.whole_eq
    {n : Nat}
    (h : Moves k s n t)
    (ht : Hears heard t) :
    Hears heard s ∧ whole k heard t = whole k heard s := by
  induction h with
  | refl s => exact ⟨ht, rfl⟩
  | step hfits first later ih =>
      obtain ⟨hm, hlater⟩ := ih ht
      exact ⟨first.hears hm, hlater.trans (first.whole_eq hm)⟩

variable {shared : Shared} {actions : List Action}

/-- A wait among threads brings forward the run in which the signal gives the
same answers. -/
theorem whole_of_play?
    (hsound : shared.Sound)
    (hidle : shared.stages[k.thread]? = some .idle)
    (h : play? k (start shared) actions = some s)
    (hs : Hears heard s) :
    whole k heard s = run (.told k.feed heard) k.plan k.classifier 0 := by
  obtain ⟨-, hmoves⟩ := (fits_start hsound hidle).play? h
  exact (hmoves.whole_eq hs).2

/-- As long as no reading has told of a firing, the events are the first ones of
the run that no signal disturbs. -/
theorem events_prefix_undisturbed
    (hsound : shared.Sound)
    (hidle : shared.stages[k.thread]? = some .idle)
    (h : play? k (start shared) actions = some s)
    (hunfired : true ∉ s.readings) :
    s.events <+: k.undisturbed.events := by
  have hhears : Hears (fun _ => false) s := by
    intro i fired hfired
    cases fired with
    | false => rfl
    | true => exact absurd (List.mem_of_getElem? hfired) hunfired
  have hwhole := whole_of_play? hsound hidle h hhears
  refine ⟨(rest k (fun _ => false) s.readings.length s.stage).events, ?_⟩
  exact congrArg Run.events hwhole

/-- A wait that is over is that run, with all its events and its outcome. -/
theorem run_of_finished
    {outcome : Outcome α}
    (hsound : shared.Sound)
    (hidle : shared.stages[k.thread]? = some .idle)
    (h : play? k (start shared) actions = some s)
    (hover : s.stage = .finished outcome) :
    ∃ heard, Hears heard s ∧
      run (.told k.feed heard) k.plan k.classifier 0 =
        ⟨s.events, outcome, s.readings.length⟩ := by
  have hhears : Hears (fun i => s.readings.getD i false) s := by
    intro i fired hfired
    simp [List.getD, hfired]
  refine ⟨_, hhears, ?_⟩
  rw [← whole_of_play? hsound hidle h hhears, whole, hover]
  simp [rest, Run.after]

end Threaded

end Wait
end BoundedWait

import BoundedWait.Tally

/-!
# Observers

An observer has a callback for each kind of event.  An observer need not say
what it does when a wait is cancelled, and then does nothing.

Waits may share an observer.  Each holds it by itself or behind pointers, and a
pointer passes every callback on.
-/

namespace BoundedWait

/-- What becomes of a state when a wait reports something. -/
structure Observer (τ : Type) where
  started (attempt bound : Nat) : τ → τ
  notReady (attempt : Nat) (fault : Fault) (delay : Duration) : τ → τ
  succeeded (attempt : Nat) (elapsed : Duration) : τ → τ
  timedOut (attempts : Nat) (fault : Fault) (elapsed : Duration) : τ → τ
  aborted (attempt : Nat) (fault : Fault) (elapsed : Duration) : τ → τ
  cancelled (attempts : Nat) (fault : Fault) : τ → τ := id

namespace Observer

variable {τ : Type}

/-- The callback for an event. -/
def tell (o : Observer τ) : Event → τ → τ
  | .started attempt bound => o.started attempt bound
  | .notReady attempt fault delay => o.notReady attempt fault delay
  | .succeeded attempt elapsed => o.succeeded attempt elapsed
  | .timedOut attempts fault elapsed => o.timedOut attempts fault elapsed
  | .aborted attempt fault elapsed => o.aborted attempt fault elapsed
  | .cancelled attempts fault => o.cancelled attempts fault

/-- Tells an observer of events, one after the other. -/
def tellAll (o : Observer τ) (events : List Event) (t : τ) : τ :=
  events.foldl (fun t event => o.tell event t) t

/-- An observer that does nothing. -/
def silent : Observer τ where
  started _ _ := id
  notReady _ _ _ := id
  succeeded _ _ := id
  timedOut _ _ _ := id
  aborted _ _ _ := id

/-- A pointer to an observer. -/
def pointer (o : Observer τ) : Observer τ where
  started attempt bound := o.started attempt bound
  notReady attempt fault delay := o.notReady attempt fault delay
  succeeded attempt elapsed := o.succeeded attempt elapsed
  timedOut attempts fault elapsed := o.timedOut attempts fault elapsed
  aborted attempt fault elapsed := o.aborted attempt fault elapsed
  cancelled attempts fault := o.cancelled attempts fault

/-- An observer behind so many pointers. -/
def behind (o : Observer τ) : Nat → Observer τ
  | 0 => o
  | pointers + 1 => (o.behind pointers).pointer

@[simp] theorem tell_pointer (o : Observer τ) (event : Event) :
    o.pointer.tell event = o.tell event := by
  cases event <;> rfl

@[simp] theorem tell_behind (o : Observer τ) (pointers : Nat) (event : Event) :
    (o.behind pointers).tell event = o.tell event := by
  induction pointers with
  | zero => rfl
  | succ pointers ih => rw [behind, tell_pointer, ih]

/-- Counts events. -/
def counting : Observer Tally where
  started _ _ t := { t with attemptStarts := t.attemptStarts + 1 }
  notReady _ _ _ t := { t with notReady := t.notReady + 1 }
  succeeded _ _ t := { t with successes := t.successes + 1 }
  timedOut _ _ _ t := { t with timeouts := t.timeouts + 1 }
  aborted _ _ _ t := { t with aborts := t.aborts + 1 }
  cancelled _ _ t := { t with cancellations := t.cancellations + 1 }

@[simp] theorem tell_counting (event : Event) (t : Tally) :
    counting.tell event t = t.record event := by
  cases event <;> rfl

/-- An observer that counts, told of events, counts them all. -/
theorem tellAll_counting (events : List Event) (t : Tally) :
    counting.tellAll events t = t.recordAll events := by
  simp [tellAll, Tally.recordAll]

end Observer

/-- An event, as it is reported to an observer behind so many pointers. -/
structure Report where
  pointers : Nat
  event : Event
deriving DecidableEq

/-- What is counted of reports, in the order in which they are made. -/
def Tally.ofReports (reports : List Report) : Tally :=
  reports.foldl (fun t r => (Observer.counting.behind r.pointers).tell r.event t) .zero

theorem Tally.ofReports_eq (reports : List Report) :
    Tally.ofReports reports = Tally.zero.recordAll (reports.map Report.event) := by
  have htold : Tally.ofReports reports =
      Observer.counting.tellAll (reports.map Report.event) .zero := by
    simp only [ofReports, Observer.tell_behind, Observer.tellAll, List.foldl_map]
  rw [htold, Observer.tellAll_counting]

end BoundedWait

import BoundedWait.Duration

/-!
# Signals shared by threads

A signal keeps its state twice: as a flag under a lock, on which blocking
sleeps park, and as a token, which everybody else reads.  Firing takes the
lock, raises the flag, rouses all parked threads, frees the lock, and only then
fires the token.

A state shows where each thread stands between two atomic steps, and what the
calls have answered so far.

* `Shared.act?` carries out one step of one thread, or lets time pass.
* `Shared.play?` carries out one action after the other.
* A parked thread goes on when a firing rouses it, when its deadline has
  passed, or for no reason at all.
-/

namespace BoundedWait
namespace Signal

/-- Where a thread stands, named for the step that it takes next. -/
inductive Stage
  /-- Between two calls. -/
  | idle
  /-- A firing takes the lock. -/
  | fireLock
  /-- A firing raises the flag. -/
  | fireRaise
  /-- A firing rouses the parked threads. -/
  | fireRouse
  /-- A firing frees the lock. -/
  | fireFree
  /-- A firing fires the token. -/
  | fireToken
  /-- A blocking sleep takes the lock. -/
  | sleepLock (d : Duration)
  /-- A blocking sleep reads the clock for its deadline. -/
  | sleepMeasure (d : Duration)
  /-- A blocking sleep looks at the flag. -/
  | sleepTest (deadline : Option Nat)
  /-- A blocking sleep is parked, without the lock. -/
  | parked (deadline : Option Nat)
  /-- A blocking sleep goes on and takes the lock again. -/
  | roused (deadline : Option Nat) (expired : Bool)
  /-- A blocking sleep answers with the flag and frees the lock. -/
  | sleepAnswer (deadline : Option Nat)
  /-- A sleep that blocks nobody waits for its timer and for the token. -/
  | nap (ends : Nat)
  /-- A sleep that blocks nobody answers with the token. -/
  | napAnswer
deriving DecidableEq

namespace Stage

/-- What becomes of a stage when all parked threads are roused. -/
def rouse : Stage → Stage
  | parked deadline => roused deadline false
  | stage => stage

end Stage

/-- What a thread can call. -/
inductive Call
  | fire
  /-- Blocks the thread. -/
  | sleep (d : Duration)
  /-- Blocks nobody. -/
  | nap (d : Duration)
  /-- Reads the token. -/
  | ask
deriving DecidableEq

/-- What a call asked of the signal. -/
inductive Question
  | slept
  | napped
  | asked
deriving DecidableEq, Repr

/-- The answer of a call: whether the signal has fired. -/
structure Answer where
  thread : Nat
  question : Question
  fired : Bool
deriving DecidableEq, Repr

/-- A signal and the threads that share it. -/
structure Shared where
  now : Nat
  /-- Whether a thread holds the lock. -/
  locked : Bool
  /-- Whether the flag is up. -/
  raised : Bool
  /-- Whether the token has fired. -/
  token : Bool
  /-- The stage of each thread. -/
  stages : List Stage
  /-- All answers so far, in order. -/
  answers : List Answer
deriving DecidableEq

/-- What a thread does next. -/
inductive Move
  /-- Begins a call. -/
  | call (c : Call)
  /-- Takes the next step of its call. -/
  | next
  /-- Goes on although nothing has roused it. -/
  | stir
  /-- Goes on because its time is over. -/
  | expire
deriving DecidableEq

/-- One step of one thread, or a passing of time. -/
inductive Action
  | move (thread : Nat) (m : Move)
  | pass (time : Nat)
deriving DecidableEq

namespace Shared

/-- A signal that has not fired, shared by idle threads. -/
def start (threads : Nat) : Shared :=
  ⟨0, false, false, false, List.replicate threads .idle, []⟩

/-- Moves a thread to a stage. -/
def put (s : Shared) (thread : Nat) (stage : Stage) : Shared :=
  { s with stages := s.stages.set thread stage }

/-- Ends a call with an answer. -/
def answer (s : Shared) (thread : Nat) (question : Question) (fired : Bool) : Shared :=
  { s.put thread .idle with answers := s.answers ++ [⟨thread, question, fired⟩] }

/-- Gives the lock to a thread that moves on to a stage, if the lock is free. -/
def take? (s : Shared) (thread : Nat) (stage : Stage) : Option Shared :=
  if s.locked then none else some { s.put thread stage with locked := true }

/-- The moment after a while, if it is not beyond the last one that a deadline
can name. -/
def deadline? (s : Shared) (horizon : Nat) (d : Duration) : Option Nat :=
  if s.now + d.nanos ≤ horizon then some (s.now + d.nanos) else none

/-- Begins a call. -/
def begin (s : Shared) (thread : Nat) : Call → Shared
  | .fire => s.put thread .fireLock
  | .sleep d => s.put thread (.sleepLock d)
  | .nap d => s.put thread (.nap (s.now + d.nanos))
  | .ask => s.answer thread .asked s.token

/-- The next step of a call that stands at a stage. -/
def advance? (s : Shared) (horizon thread : Nat) : Stage → Option Shared
  | .idle => none
  | .fireLock => s.take? thread .fireRaise
  | .fireRaise => some { s.put thread .fireRouse with raised := true }
  | .fireRouse => some { s with stages := (s.stages.map Stage.rouse).set thread .fireFree }
  | .fireFree => some { s.put thread .fireToken with locked := false }
  | .fireToken => some { s.put thread .idle with token := true }
  | .sleepLock d => s.take? thread (.sleepMeasure d)
  | .sleepMeasure d => some (s.put thread (.sleepTest (s.deadline? horizon d)))
  | .sleepTest deadline =>
    if s.raised then some (s.put thread (.sleepAnswer deadline))
    else some { s.put thread (.parked deadline) with locked := false }
  | .parked _ => none
  | .roused deadline expired =>
    s.take? thread (if expired then .sleepAnswer deadline else .sleepTest deadline)
  | .sleepAnswer _ => some { s.answer thread .slept s.raised with locked := false }
  | .nap _ => if s.token then some (s.answer thread .napped true) else none
  | .napAnswer => some (s.answer thread .napped s.token)

/-- What happens at a stage whose time is over. -/
def expire? (s : Shared) (thread : Nat) : Stage → Option Shared
  | .parked (some deadline) =>
    if deadline ≤ s.now then some (s.put thread (.roused (some deadline) true)) else none
  | .nap ends => if ends ≤ s.now then some (s.put thread .napAnswer) else none
  | _ => none

/-- What happens at a stage when a thread goes on for no reason. -/
def stir? (s : Shared) (thread : Nat) : Stage → Option Shared
  | .parked deadline => some (s.put thread (.roused deadline false))
  | _ => none

/-- Carries out an action, if it can happen. -/
def act? (horizon : Nat) (s : Shared) : Action → Option Shared
  | .pass time => some { s with now := s.now + time }
  | .move thread m =>
    match s.stages[thread]? with
    | none => none
    | some stage =>
      match m with
      | .call c => if stage = .idle then some (s.begin thread c) else none
      | .next => s.advance? horizon thread stage
      | .stir => s.stir? thread stage
      | .expire => s.expire? thread stage

/-- Carries out one action after the other, if each can happen. -/
def play? (horizon : Nat) (s : Shared) (actions : List Action) : Option Shared :=
  actions.foldlM (act? horizon) s

theorem raised_begin (s : Shared) (thread : Nat) (c : Call) :
    (s.begin thread c).raised = s.raised := by
  cases c <;> rfl

/-- Taking the lock leaves the flag as it is. -/
theorem raised_of_take? {s t : Shared} {thread : Nat} {stage : Stage}
    (h : s.take? thread stage = some t) :
    t.raised = s.raised := by
  simp only [take?] at h
  split at h
  · cases h
  · cases h
    rfl

/-- No step of a call lowers the flag. -/
theorem raised_of_advance? {s t : Shared} {horizon thread : Nat} {stage : Stage}
    (h : s.advance? horizon thread stage = some t) (hs : s.raised = true) :
    t.raised = true := by
  cases stage with
  | idle => cases h
  | fireLock => exact (raised_of_take? h).trans hs
  | fireRaise =>
    cases h
    rfl
  | fireRouse =>
    cases h
    exact hs
  | fireFree =>
    cases h
    exact hs
  | fireToken =>
    cases h
    exact hs
  | sleepLock d => exact (raised_of_take? h).trans hs
  | sleepMeasure d =>
    cases h
    exact hs
  | sleepTest deadline =>
    simp only [advance?, hs, if_true, Option.some.injEq] at h
    subst h
    exact hs
  | parked deadline => cases h
  | roused deadline expired => exact (raised_of_take? h).trans hs
  | sleepAnswer deadline =>
    cases h
    exact hs
  | nap ends =>
    simp only [advance?] at h
    split at h
    · cases h
      exact hs
    · cases h
  | napAnswer =>
    cases h
    exact hs

/-- A thread that goes on by itself leaves the flag as it is. -/
theorem raised_of_stir? {s t : Shared} {thread : Nat} {stage : Stage}
    (h : s.stir? thread stage = some t) :
    t.raised = s.raised := by
  cases stage <;> cases h
  rfl

/-- A thread whose time is over leaves the flag as it is. -/
theorem raised_of_expire? {s t : Shared} {thread : Nat} {stage : Stage}
    (h : s.expire? thread stage = some t) :
    t.raised = s.raised := by
  simp only [expire?] at h
  split at h
  · split at h <;> cases h
    rfl
  · split at h <;> cases h
    rfl
  · cases h

/-- No action lowers the flag. -/
theorem raised_of_act? {horizon : Nat} {s t : Shared} {a : Action}
    (h : act? horizon s a = some t) (hs : s.raised = true) :
    t.raised = true := by
  cases a with
  | pass time =>
    cases h
    exact hs
  | move thread m =>
    simp only [act?] at h
    split at h
    · cases h
    · cases m with
      | call c =>
        simp only at h
        split at h
        · cases h
          exact (raised_begin s thread c).trans hs
        · cases h
      | next => exact raised_of_advance? h hs
      | stir => exact (raised_of_stir? h).trans hs
      | expire => exact (raised_of_expire? h).trans hs

/-- What every action keeps holds from then on, however the actions go on. -/
theorem keeps_of_play? {P : Shared → Prop} {horizon : Nat} {actions : List Action}
    {s t : Shared}
    (hkeeps : ∀ {s t : Shared} {a : Action}, act? horizon s a = some t → P s → P t)
    (h : play? horizon s actions = some t) (hs : P s) :
    P t := by
  induction actions generalizing s with
  | nil =>
    cases h
    exact hs
  | cons a rest ih =>
    simp only [play?, List.foldlM_cons, Option.bind_eq_bind] at h
    obtain ⟨m, hm, hrest⟩ := Option.bind_eq_some_iff.1 h
    exact ih hrest (hkeeps hm hs)

/-- What is up stays up. -/
theorem raised_of_play? {horizon : Nat} {actions : List Action} {s t : Shared}
    (h : play? horizon s actions = some t) (hs : s.raised = true) :
    t.raised = true :=
  keeps_of_play? (P := fun s => s.raised = true) raised_of_act? h hs

end Shared
end Signal
end BoundedWait

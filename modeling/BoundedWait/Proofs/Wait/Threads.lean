import BoundedWait.Proofs.Signal.Fired
import BoundedWait.Proofs.Wait.Unfolding
import BoundedWait.Wait.Threaded

/-!
# What one step does to a wait among threads

`Moved` lists the steps of a wait, and those of everybody else, by the stage
that they start from; later proofs go by this list and do not open `act?`.

`Fits` says what holds of every state of a wait: its thread sleeps on the signal
exactly while the wait is asleep, the stage tells how many calls have begun and
what the last reading was, and as long as no flag is up no reading is `true`.
-/

namespace BoundedWait

/-- Whether an event is the start of an attempt. -/
def Event.begins : Event → Bool
  | .started .. => true
  | _ => false

namespace Wait

open Signal (Shared)

variable {α : Type}

/-- Whether a step is one of the wait itself. -/
def Action.own : Action → Bool
  | .other _ => false
  | _ => true

/-- A soft fault as the result of an attempt. -/
structure Task.Soft (k : Task α) (n : Nat) (fault : Fault) : Prop where
  probe_eq : k.feed.probe n = .error fault
  soft : k.classifier.classify fault = .soft

/-- The stage of a thread in a signal, while its wait stands at a stage. -/
def Stage.Suits : Stage α → Signal.Stage → Prop
  | .asleep _ _, a => 0 < a.left
  | _, a => a = .idle

namespace Threaded

/-- How many calls of the condition have begun. -/
def calls (s : Threaded α) : Nat :=
  s.events.countP Event.begins

/-- The thread of a wait is idle, unless the wait is asleep. -/
def Suited (k : Task α) (s : Threaded α) : Prop :=
  ∃ a, s.shared.stages[k.thread]? = some a ∧ s.stage.Suits a

/-- One step of a wait, or of somebody else. -/
inductive Moved (k : Task α) (s : Threaded α) : Bool → Threaded α → Prop
  | begun {made : Nat}
      (hstage : s.stage = .begin made) :
      Moved k s true
        (s.report (.started (nextAttempt made) k.plan.bound) (.call (nextAttempt made)))
  | called {n : Nat}
      (hstage : s.stage = .call n) :
      Moved k s true (s.goto (.settleClock n (k.feed.probe n)))
  | timed {n : Nat} {probe : Probe α}
      (hstage : s.stage = .settleClock n probe) :
      Moved k s true (s.goto (.settleAsk n probe (k.feed.settled n)))
  | asked {n : Nat} {probe : Probe α} {elapsed : Duration} {shared : Shared}
      (hstage : s.stage = .settleAsk n probe elapsed)
      (hact : s.shared.act? k.horizon (.move k.thread (.call .ask)) = some shared)
      (hset : shared.stages = s.shared.stages.set k.thread .idle) :
      Moved k s true
        { s with
          shared := shared
          stage := .settle n ⟨probe, ⟨elapsed, s.shared.token⟩, k.feed.draw n⟩
          readings := s.readings ++ [s.shared.token] }
  | ended {n : Nat} {a : Answer α} {event : Event} {outcome : Outcome α}
      (hstage : s.stage = .settle n a)
      (hjudge : judge k.plan k.classifier n a = (event, .finished outcome)) :
      Moved k s true (s.report event (.finished outcome))
  | tired {n : Nat} {a : Answer α} {event : Event} {fault : Fault} {delay : Duration}
      (hstage : s.stage = .settle n a)
      (hjudge : judge k.plan k.classifier n a = (event, .sleep fault delay)) :
      Moved k s true (s.report event (.retire n fault delay))
  | retired {n : Nat} {fault : Fault} {delay : Duration} {shared : Shared}
      {b : Signal.Stage}
      (hstage : s.stage = .retire n fault delay)
      (hact : s.shared.act? k.horizon (.move k.thread (.call (k.manner.sleep delay))) =
        some shared)
      (hset : shared.stages = s.shared.stages.set k.thread b)
      (hsleep : 0 < b.left) :
      Moved k s true { s with shared := shared, stage := .asleep n fault }
  | dozed {n : Nat} {fault : Fault} {m : Signal.Move} {shared : Shared}
      {a b : Signal.Stage}
      (hstage : s.stage = .asleep n fault)
      (hact : s.shared.act? k.horizon (.move k.thread m) = some shared)
      (ha : s.shared.stages[k.thread]? = some a)
      (hset : shared.stages = s.shared.stages.set k.thread b)
      (hsleep : 0 < b.left)
      (hless : s.shared.raised = true → b.left < a.left) :
      Moved k s true { s with shared := shared }
  | woken {n : Nat} {fault : Fault} {m : Signal.Move} {shared : Shared} {fired : Bool}
      (hstage : s.stage = .asleep n fault)
      (hact : s.shared.act? k.horizon (.move k.thread m) = some shared)
      (hset : shared.stages = s.shared.stages.set k.thread .idle)
      (hfired : fired = s.shared.raised ∨ fired = s.shared.token) :
      Moved k s true
        { s with
          shared := shared
          stage := .resumeClock n fault fired
          readings := s.readings ++ [fired] }
  | read {n : Nat} {fault : Fault} {cancelled : Bool}
      (hstage : s.stage = .resumeClock n fault cancelled) :
      Moved k s true (s.goto (.resume n fault ⟨k.feed.woken n, cancelled⟩))
  | stopped {n : Nat} {fault : Fault} {reading : Reading} {event : Event}
      {outcome : Outcome α}
      (hstage : s.stage = .resume n fault reading)
      (hresume : resume k.plan n fault reading.elapsed reading.cancelled =
        some (event, outcome)) :
      Moved k s true (s.report event (.finished outcome))
  | resumed {n : Nat} {fault : Fault} {reading : Reading}
      (hstage : s.stage = .resume n fault reading)
      (hresume : resume (α := α) k.plan n fault reading.elapsed reading.cancelled = none) :
      Moved k s true (s.goto (.begin n))
  | aside {action : Signal.Action} {shared : Shared} {a b : Signal.Stage}
      (hact : s.shared.act? k.horizon action = some shared)
      (ha : s.shared.stages[k.thread]? = some a)
      (hb : shared.stages[k.thread]? = some b)
      (hsame : b = a ∨ b = a.rouse) :
      Moved k s false { s with shared := shared }

section Inversion

variable {k : Task α} {s t : Threaded α} {shared : Shared}

theorem note_eq
    {stage : Bool → Stage α} {answers : List Signal.Answer} {answer : Signal.Answer}
    (h : shared.answers = answers ++ [answer]) :
    s.note shared stage =
      { s with
        shared := shared
        stage := stage answer.fired
        readings := s.readings ++ [answer.fired] } := by
  simp [note, h]

/-- An idle thread can begin a call, and what it does then is clear. -/
theorem act?_call
    {c : Signal.Call}
    (hidle : s.shared.stages[k.thread]? = some .idle) :
    s.shared.act? k.horizon (.move k.thread (.call c)) = some (s.shared.begin k.thread c) := by
  simp [Shared.act?, hidle]

theorem moved_of_advance?
    (hs : s.Suited k)
    (h : s.advance? k s.stage = some t) :
    Moved k s true t := by
  obtain ⟨a, ha, hsuits⟩ := hs
  generalize hstage : s.stage = stage at h hsuits
  cases stage with
  | begin made =>
      cases h
      exact .begun hstage
  | call n =>
      cases h
      exact .called hstage
  | settleClock n probe =>
      cases h
      exact .timed hstage
  | settleAsk n probe elapsed =>
      cases hsuits
      have hact := act?_call (c := .ask) ha
      simp only [advance?, hact, Option.map_some, Option.some.injEq] at h
      subst h
      rw [note_eq rfl]
      exact .asked hstage hact rfl
  | settle n a =>
      simp only [advance?] at h
      split at h
      · rename_i event outcome hjudge
        cases h
        exact .ended hstage hjudge
      · rename_i event fault delay hjudge
        cases h
        exact .tired hstage hjudge
  | retire n fault delay =>
      cases hsuits
      have hact := act?_call (c := k.manner.sleep delay) ha
      simp only [advance?, hact, Option.map_some, Option.some.injEq] at h
      subst h
      cases hmanner : k.manner with
      | blocking =>
          rw [hmanner] at hact
          exact .retired hstage (hmanner ▸ hact) rfl (Nat.succ_pos _)
      | yielding =>
          rw [hmanner] at hact
          exact .retired hstage (hmanner ▸ hact) rfl (Nat.succ_pos _)
  | asleep n fault => cases h
  | resumeClock n fault cancelled =>
      cases h
      exact .read hstage
  | resume n fault reading =>
      simp only [advance?] at h
      split at h
      · rename_i event outcome hresume
        cases h
        exact .stopped hstage hresume
      · rename_i hresume
        cases h
        exact .resumed hstage hresume
  | finished outcome => cases h

theorem moved_of_doze?
    {m : Signal.Move}
    (hs : s.Suited k)
    (h : s.doze? k m s.stage = some t) :
    Moved k s true t := by
  obtain ⟨a, ha, hsuits⟩ := hs
  generalize hstage : s.stage = stage at h hsuits
  cases stage with
  | asleep n fault =>
      simp only [doze?, Option.map_eq_some_iff] at h
      obtain ⟨shared, hact, rfl⟩ := h
      have hlt := (List.getElem?_eq_some_iff.1 ha).1
      obtain ⟨a', ha', hhop⟩ := Shared.hop_of_act? hact
      cases ha.symm.trans ha'
      rcases hhop.of_sleep hsuits with
        ⟨b, hset, -, hsleep, hless⟩ | ⟨question, fired, hset, hanswers, hfired⟩
      · rw [if_neg]
        · exact .dozed hstage hact ha hset hsleep hless
        · rw [hset, List.getElem?_set_self hlt]
          rintro ⟨⟩
          cases hsleep
      · rw [if_pos (by rw [hset, List.getElem?_set_self hlt]), note_eq hanswers]
        exact .woken hstage hact hset hfired
  | _ => cases h

/-- Every step is one of the list. -/
theorem moved_of_act?
    {action : Action}
    (hs : s.Suited k)
    (h : act? k s action = some t) :
    Moved k s action.own t := by
  cases action with
  | step => exact moved_of_advance? hs h
  | doze m => exact moved_of_doze? hs h
  | other action =>
      obtain ⟨a, ha, -⟩ := hs
      cases action with
      | pass time =>
          simp only [act?, Option.map_eq_some_iff] at h
          obtain ⟨shared, hact, rfl⟩ := h
          refine .aside hact ha ?_ (.inl rfl)
          cases hact
          exact ha
      | move i m =>
          simp only [act?] at h
          split at h
          · cases h
          · rename_i hne
            obtain ⟨shared, hact, rfl⟩ := Option.map_eq_some_iff.1 h
            obtain ⟨b, -, hhop⟩ := Shared.hop_of_act? hact
            rcases hhop.frame hne with heq | heq
            · exact .aside hact ha (heq.trans ha) (.inl rfl)
            · rw [ha] at heq
              exact .aside hact ha heq (.inr rfl)

end Inversion

/-- What the stage of a wait says about the calls that have begun, and about the
last reading. -/
def Tells (k : Task α) (calls : Nat) (last : Option Bool) : Stage α → Prop
  | .begin made =>
    calls = made ∧ made < k.plan.bound ∧ (1 ≤ made → ∃ fault, k.Soft made fault)
  | .call n => calls = n
  | .settleClock n probe => calls = n ∧ probe = k.feed.probe n
  | .settleAsk n probe elapsed =>
    calls = n ∧ probe = k.feed.probe n ∧ elapsed = k.feed.settled n
  | .settle n a =>
    calls = n ∧ ∃ fired, last = some fired ∧
      a = ⟨k.feed.probe n, ⟨k.feed.settled n, fired⟩, k.feed.draw n⟩
  | .retire n fault _ | .asleep n fault => calls = n ∧ k.Soft n fault
  | .resumeClock n fault fired => calls = n ∧ k.Soft n fault ∧ last = some fired
  | .resume n fault reading =>
    calls = n ∧ k.Soft n fault ∧ last = some reading.cancelled
  | .finished outcome =>
    ∃ reading, last = some reading.cancelled ∧
      outcome = conclusion k.classifier calls (k.feed.probe calls) reading

/-- What holds of every state of a wait. -/
structure Fits (k : Task α) (s : Threaded α) : Prop where
  sound : s.shared.Sound
  suited : s.Suited k
  tells : Tells k s.calls s.readings.getLast? s.stage
  idle : s.calls = 0 → s.stage = .begin 0
  earlier : ∀ n, 1 ≤ n → n < s.calls → ∃ fault, k.Soft n fault
  unfired : s.shared.raised = false → true ∉ s.readings

section Fits

variable {k : Task α} {s t : Threaded α} {own : Bool} {threads : Nat}

theorem calls_report_started
    (n bound : Nat) (stage : Stage α) :
    (s.report (.started n bound) stage).calls = s.calls + 1 := by
  simp [calls, report, Event.begins]

theorem calls_report
    {event : Event} {stage : Stage α}
    (h : event.begins = false) :
    (s.report event stage).calls = s.calls := by
  simp [calls, report, h]

theorem begins_of_judge
    {p : Plan} {c : Classifier} {n : Nat} {a : Answer α} {event : Event} {step : Step α}
    (h : judge p c n a = (event, step)) :
    event.begins = false := by
  cases step with
  | sleep fault delay =>
      obtain ⟨-, -, rfl⟩ := (judge_eq_sleep_iff n).1 h
      rfl
  | finished outcome =>
      obtain ⟨-, -, rfl⟩ := (judge_eq_finished_iff n).1 h
      cases outcome with
      | timedOut fault attempts elapsed cancelled => cases cancelled <;> rfl
      | _ => rfl

theorem begins_of_resume
    {p : Plan} {n : Nat} {fault : Fault} {reading : Reading} {event : Event}
    {outcome : Outcome α}
    (h : resume p n fault reading.elapsed reading.cancelled = some (event, outcome)) :
    event.begins = false := by
  obtain ⟨-, rfl, rfl⟩ := resume_eq_some_iff.1 h
  cases hcancelled : reading.cancelled <;> rfl

/-- A step begins a call of the condition, or leaves the calls as they are. -/
theorem Moved.calls_eq
    (h : Moved k s own t) :
    t.calls = s.calls ∨ ∃ made, s.stage = .begin made ∧ t.calls = s.calls + 1 := by
  cases h with
  | begun hstage => exact .inr ⟨_, hstage, calls_report_started _ _ _⟩
  | ended hstage hjudge => exact .inl (calls_report (begins_of_judge hjudge))
  | tired hstage hjudge => exact .inl (calls_report (begins_of_judge hjudge))
  | stopped hstage hresume => exact .inl (calls_report (begins_of_resume hresume))
  | _ => exact .inl rfl

/-- A step is at most one step of the signal. -/
theorem Moved.shared_eq
    (h : Moved k s own t) :
    t.shared = s.shared ∨ ∃ action, s.shared.act? k.horizon action = some t.shared := by
  cases h with
  | asked hstage hact hset => exact .inr ⟨_, hact⟩
  | retired hstage hact hset hsleep => exact .inr ⟨_, hact⟩
  | dozed hstage hact ha hset hsleep hless => exact .inr ⟨_, hact⟩
  | woken hstage hact hset hfired => exact .inr ⟨_, hact⟩
  | aside hact ha hb hsame => exact .inr ⟨_, hact⟩
  | _ => exact .inl rfl

theorem Suited.moved
    (hs : s.Suited k)
    (h : Moved k s own t) :
    t.Suited k := by
  obtain ⟨a, ha, hsuits⟩ := hs
  have hlt := (List.getElem?_eq_some_iff.1 ha).1
  have hmine : ∀ {shared : Shared} {b : Signal.Stage},
      shared.stages = s.shared.stages.set k.thread b → shared.stages[k.thread]? = some b := by
    intro shared b hset
    rw [hset, List.getElem?_set_self hlt]
  cases h with
  | asked hstage hact hset => exact ⟨_, hmine hset, rfl⟩
  | retired hstage hact hset hsleep => exact ⟨_, hmine hset, hsleep⟩
  | dozed hstage hact ha hset hsleep hless =>
      refine ⟨_, hmine hset, ?_⟩
      simp only [hstage]
      exact hsleep
  | woken hstage hact hset hfired => exact ⟨_, hmine hset, rfl⟩
  | @aside _ _ _ b hact ha' hb hsame =>
      cases ha.symm.trans ha'
      refine ⟨b, hb, ?_⟩
      -- rousing leaves an idle thread idle, and a sleeping one asleep
      rcases hsame with rfl | rfl
      · exact hsuits
      · cases hstage : s.stage with
        | asleep n fault =>
            rw [hstage] at hsuits
            exact Signal.Stage.left_rouse_pos hsuits
        | _ =>
            rw [hstage] at hsuits
            cases hsuits
            rfl
  | begun hstage | called hstage | timed hstage | read hstage =>
      rw [hstage] at hsuits
      exact ⟨a, ha, hsuits⟩
  | ended hstage _ | tired hstage _ | stopped hstage _ | resumed hstage _ =>
      rw [hstage] at hsuits
      exact ⟨a, ha, hsuits⟩

theorem Fits.tells_moved
    (hs : s.Fits k)
    (h : Moved k s own t) :
    Tells k t.calls t.readings.getLast? t.stage := by
  have htells := hs.tells
  cases h with
  | begun hstage =>
      rw [hstage] at htells
      obtain ⟨hcalls, hlt, -⟩ := htells
      have hb := k.plan.bound_le
      rw [calls_report_started]
      simp only [report, Tells, nextAttempt]
      omega
  | called hstage =>
      rw [hstage] at htells
      exact ⟨htells, rfl⟩
  | timed hstage =>
      rw [hstage] at htells
      exact ⟨htells.1, htells.2, rfl⟩
  | asked hstage hact hset =>
      rw [hstage] at htells
      obtain ⟨hcalls, rfl, rfl⟩ := htells
      exact ⟨hcalls, _, List.getLast?_concat, rfl⟩
  | ended hstage hjudge =>
      rw [hstage] at htells
      obtain ⟨rfl, fired, hlast, rfl⟩ := htells
      rw [calls_report (begins_of_judge hjudge)]
      obtain ⟨-, houtcome, -⟩ := (judge_eq_finished_iff _).1 hjudge
      exact ⟨⟨_, fired⟩, hlast, houtcome⟩
  | tired hstage hjudge =>
      rw [hstage] at htells
      obtain ⟨rfl, fired, hlast, rfl⟩ := htells
      rw [calls_report (begins_of_judge hjudge)]
      obtain ⟨hpending, -⟩ := (judge_eq_sleep_iff _).1 hjudge
      exact ⟨rfl, hpending.probe_eq, hpending.soft⟩
  | retired hstage hact hset hsleep =>
      rw [hstage] at htells
      exact htells
  | dozed hstage hact ha hset hsleep hless => exact htells
  | woken hstage hact hset hfired =>
      rw [hstage] at htells
      exact ⟨htells.1, htells.2, List.getLast?_concat⟩
  | read hstage =>
      rw [hstage] at htells
      exact htells
  | stopped hstage hresume =>
      rw [hstage] at htells
      obtain ⟨rfl, hsoft, hlast⟩ := htells
      rw [calls_report (begins_of_resume hresume)]
      obtain ⟨-, rfl, -⟩ := resume_eq_some_iff.1 hresume
      refine ⟨_, hlast, ?_⟩
      rw [hsoft.probe_eq, conclusion_soft _ _ _ hsoft.soft]
  | resumed hstage hresume =>
      rw [hstage] at htells
      obtain ⟨rfl, hsoft, -⟩ := htells
      obtain ⟨-, hlt⟩ := (resume_eq_none_iff _ _ _ _ _).1 hresume
      exact ⟨rfl, hlt, fun _ => ⟨_, hsoft⟩⟩
  | aside hact ha hb hsame => exact htells

/-- A reading of a signal whose flag is down is `false`. -/
theorem Fits.unfired_moved
    (hs : s.Fits k)
    (h : Moved k s own t)
    (hraised : t.shared.raised = false) :
    true ∉ t.readings := by
  have hdown : s.shared.raised = false := by
    rcases h.shared_eq with heq | ⟨action, hact⟩
    · rw [← heq, hraised]
    · cases hup : s.shared.raised with
      | false => rfl
      | true => cases (Shared.raised_of_act? hact hup).symm.trans hraised
  have hnone := hs.unfired hdown
  have htoken : s.shared.token = false := by
    cases hfired : s.shared.token with
    | false => rfl
    | true => cases (hs.sound.fired hfired).raised.symm.trans hdown
  have hconcat : ∀ fired, fired = false → true ∉ s.readings ++ [fired] := by
    rintro fired rfl
    simpa using hnone
  cases h with
  | asked hstage hact hset => exact hconcat _ htoken
  | woken hstage hact hset hfired =>
      refine hconcat _ ?_
      rcases hfired with rfl | rfl
      · exact hdown
      · exact htoken
  | _ => exact hnone

theorem Fits.moved
    (hs : s.Fits k)
    (h : Moved k s own t) :
    t.Fits k := by
  have hcases := h.calls_eq
  refine ⟨?_, hs.suited.moved h, hs.tells_moved h, ?_, ?_, hs.unfired_moved h⟩
  · rcases h.shared_eq with heq | ⟨action, hact⟩
    · rw [heq]
      exact hs.sound
    · exact hs.sound.act? hact
  · intro hnone
    have hstart : s.stage = .begin 0 := by
      rcases hcases with heq | ⟨made, -, heq⟩
      · exact hs.idle (heq.symm.trans hnone)
      · omega
    cases h with
    | begun hstage =>
        rw [calls_report_started] at hnone
        cases hnone
    | aside hact ha hb hsame => exact hstart
    | called hstage | timed hstage | read hstage => cases hstart.symm.trans hstage
    | ended hstage _ | tired hstage _ | stopped hstage _ | resumed hstage _ =>
        cases hstart.symm.trans hstage
    | asked hstage _ _ | retired hstage _ _ _ | dozed hstage _ _ _ _ _ | woken hstage _ _ _ =>
        cases hstart.symm.trans hstage
  · intro n hpos hlt
    rcases hcases with heq | ⟨made, hstage, heq⟩
    · exact hs.earlier n hpos (heq ▸ hlt)
    · have htells := hs.tells
      rw [hstage] at htells
      obtain ⟨hmade, -, hsoft⟩ := htells
      rcases Nat.lt_succ_iff_lt_or_eq.1 (heq ▸ hlt) with hlt | rfl
      · exact hs.earlier n hpos hlt
      · exact hmade ▸ hsoft (hmade ▸ hpos)

/-- Steps one after the other, with the number of those of the wait itself. -/
inductive Moves (k : Task α) : Threaded α → Nat → Threaded α → Prop
  | refl (s : Threaded α) :
      Moves k s 0 s
  | step {s m t : Threaded α} {own : Bool} {n : Nat}
      (hfits : s.Fits k)
      (first : Moved k s own m)
      (later : Moves k m n t) :
      Moves k s (own.toNat + n) t

/-- The first action of a run. -/
theorem play?_cons
    {action : Action} {rest : List Action} :
    play? k s (action :: rest) = some t ↔
      ∃ m, act? k s action = some m ∧ play? k m rest = some t := by
  simp [play?, Option.bind_eq_some_iff]

/-- Moves of another thread are steps that the wait takes no part in. -/
theorem play?_others
    {j moves : Nat} {shared : Shared}
    (hne : j ≠ k.thread)
    (h : s.shared.play? k.horizon (List.replicate moves (.move j .next)) = some shared) :
    play? k s (List.replicate moves (.other (.move j .next))) =
      some { s with shared := shared } := by
  induction moves generalizing s with
  | zero =>
      cases h
      rfl
  | succ moves ih =>
      obtain ⟨m, hm, hrest⟩ := Shared.play?_cons.1 h
      have hfirst : act? k s (.other (.move j .next)) = some { s with shared := m } := by
        simp [act?, hne, hm]
      exact play?_cons.2 ⟨_, hfirst, ih hrest⟩

/-- Every state that a wait reaches fits, and it is reached by steps of the list. -/
theorem Fits.play?
    {actions : List Action}
    (hs : s.Fits k)
    (h : play? k s actions = some t) :
    t.Fits k ∧ Moves k s (actions.countP Action.own) t := by
  induction actions generalizing s with
  | nil =>
      cases h
      exact ⟨hs, .refl _⟩
  | cons action rest ih =>
      obtain ⟨m, hm, hrest⟩ := play?_cons.1 h
      have hmoved := moved_of_act? hs.suited hm
      obtain ⟨hfits, hmoves⟩ := ih (hs.moved hmoved) hrest
      refine ⟨hfits, ?_⟩
      have hcount : (action :: rest).countP Action.own =
          action.own.toNat + rest.countP Action.own := by
        cases howns : action.own <;> simp [howns, Nat.add_comm]
      rw [hcount]
      exact .step hs hmoved hmoves

theorem fits_start
    {shared : Shared}
    (hsound : shared.Sound)
    (hidle : shared.stages[k.thread]? = some .idle) :
    (start (α := α) shared).Fits k where
  sound := hsound
  suited := ⟨_, hidle, rfl⟩
  tells := ⟨rfl, k.plan.bound_pos, fun h => by cases h⟩
  idle := fun _ => rfl
  earlier := fun n hpos hlt => absurd hlt (Nat.not_lt_zero n)
  unfired := fun _ h => by cases h

end Fits

end Threaded
end Wait
end BoundedWait

import BoundedWait.Proofs.Wait.Refinement
import BoundedWait.Plan.Preset

/-!
# A wait after the firing of its signal

Once a firing is complete, every answer of the signal is `true`, and no sleep on
it parks.  A wait that stands before an attempt, or before the decision about
one with an older answer in mind, makes this attempt; then it is told of the
firing, and it is over.

Two numbers carry the proofs, and no step of anybody raises either.

* `calls + ahead`: the calls that have begun, and whether another one may follow.
* `effort`: a bound on the steps that the wait still takes.  Each of its steps
  lowers it, so that a wait ends which is let to move, and no time has to pass.
-/

namespace BoundedWait
namespace Wait

open Signal (Shared)

variable {α : Type}

/-- How many calls of the condition may still begin after a firing. -/
def Stage.ahead : Stage α → Nat
  | .begin _ => 1
  | .resumeClock _ _ cancelled => (!cancelled).toNat
  | .resume _ _ reading => (!reading.cancelled).toNat
  | _ => 0

/-- How many steps a wait takes at most after a firing, if its thread has some
number of moves left of a sleep. -/
def Stage.effort (left : Nat) : Stage α → Nat
  | .resumeClock _ _ cancelled => if cancelled then 2 else 14
  | .resume _ _ reading => if reading.cancelled then 1 else 13
  | .begin _ => 12
  | .call _ => 11
  | .settleClock _ _ => 10
  | .settleAsk _ _ _ => 9
  | .settle _ _ => 8
  | .retire _ _ _ => 7
  | .asleep _ _ => 2 + left
  | .finished _ => 0

theorem Stage.ahead_le
    (stage : Stage α) :
    stage.ahead ≤ 1 := by
  cases stage with
  | resumeClock n fault cancelled => exact Bool.toNat_le _
  | resume n fault reading => exact Bool.toNat_le _
  | _ => simp [ahead]

theorem Stage.effort_le
    {left : Nat} (stage : Stage α)
    (h : left ≤ 4) :
    stage.effort left ≤ 14 := by
  cases stage with
  | resumeClock n fault cancelled => cases cancelled <;> simp [effort]
  | resume n fault reading => cases hcancelled : reading.cancelled <;> simp [effort, hcancelled]
  | asleep n fault =>
      simp only [effort]
      omega
  | _ => simp [effort]

/-- Whether a step lets no time pass, and is not made before its time or for no
reason. -/
def Action.urgent : Action → Bool
  | .step => true
  | .doze m => m = .next
  | .other (.move _ m) => m = .next
  | .other (.pass _) => false

namespace Threaded

/-- How many steps a wait takes at most after a firing. -/
def effort (k : Task α) (s : Threaded α) : Nat :=
  s.stage.effort ((s.shared.stages[k.thread]?.map Signal.Stage.left).getD 0)

/-- Some steps, all of them urgent, lead from one state to another. -/
def Hurries (k : Task α) (limit : Nat) (s t : Threaded α) : Prop :=
  ∃ actions, (∀ action ∈ actions, action.urgent = true) ∧ actions.length ≤ limit ∧
    play? k s actions = some t

/-- What has become of a wait after a firing, by so many steps of its own. -/
structure Winds (k : Task α) (s : Threaded α) (steps : Nat) (t : Threaded α) : Prop where
  fired : t.shared.Fired
  more : s.calls ≤ t.calls
  calls : t.calls + t.stage.ahead ≤ s.calls + s.stage.ahead
  readings : ∃ m, t.readings = s.readings ++ List.replicate m true
  effort : t.effort k + steps ≤ s.effort k

section Winding

variable {k : Task α} {s t : Threaded α} {own : Bool}

theorem effort_eq
    {a : Signal.Stage}
    (ha : s.shared.stages[k.thread]? = some a) :
    s.effort k = s.stage.effort a.left := by
  simp [effort, ha]

theorem effort_le
    (s : Threaded α) :
    s.effort k ≤ 14 := by
  refine s.stage.effort_le ?_
  cases s.shared.stages[k.thread]? with
  | none => exact Nat.zero_le _
  | some a => exact a.left_le

theorem Moved.fired
    (h : Moved k s own t)
    (hs : s.shared.Fired) :
    t.shared.Fired := by
  rcases h.shared_eq with heq | ⟨action, hact⟩
  · rw [heq]
    exact hs
  · exact hs.act? hact

/-- After a firing, whatever the signal is asked it says so. -/
theorem Moved.readings_eq
    (h : Moved k s own t)
    (hs : s.shared.Fired) :
    ∃ m, t.readings = s.readings ++ List.replicate m true := by
  cases h with
  | asked hstage hact hset =>
      refine ⟨1, ?_⟩
      rw [hs.token]
      rfl
  | woken hstage hact hset hfired =>
      refine ⟨1, ?_⟩
      rw [hs.answer_eq hfired]
      rfl
  | _ => exact ⟨0, (List.append_nil _).symm⟩

theorem Moved.calls_le
    (h : Moved k s own t)
    (hs : s.shared.Fired) :
    t.calls + t.stage.ahead ≤ s.calls + s.stage.ahead := by
  cases h with
  | begun hstage =>
      rw [calls_report_started, hstage]
      exact Nat.le_refl _
  | ended hstage hjudge =>
      rw [calls_report (begins_of_judge hjudge)]
      exact Nat.le_add_right _ _
  | tired hstage hjudge =>
      rw [calls_report (begins_of_judge hjudge)]
      exact Nat.le_add_right _ _
  | woken hstage hact hset hfired =>
      obtain rfl := hs.answer_eq hfired
      exact Nat.le_add_right _ _
  | read hstage =>
      rw [hstage]
      exact Nat.le_refl _
  | stopped hstage hresume =>
      rw [calls_report (begins_of_resume hresume)]
      exact Nat.le_add_right _ _
  | resumed hstage hresume =>
      obtain ⟨huncancelled, -⟩ := (resume_eq_none_iff _ _ _ _ _).1 hresume
      rw [hstage]
      simp only [goto, calls, Stage.ahead, huncancelled]
      exact Nat.le_refl _
  | dozed hstage hact ha hset hsleep hless => exact Nat.le_refl _
  | aside hact ha hb hsame => exact Nat.le_refl _
  | _ => exact Nat.le_add_right _ _

/-- Each step of a wait leaves it less to do, and nobody else adds to it. -/
theorem Moved.effort_le
    (h : Moved k s own t)
    (hfits : s.Fits k)
    (hs : s.shared.Fired) :
    t.effort k + own.toNat ≤ s.effort k := by
  obtain ⟨a, ha, hsuits⟩ := hfits.suited
  obtain ⟨b, hb, -⟩ := hfits.suited.moved h
  rw [effort_eq ha, effort_eq hb]
  cases h with
  | begun hstage | called hstage | timed hstage =>
      rw [hstage]
      exact Nat.le_refl _
  | asked hstage hact hset =>
      rw [hstage]
      exact Nat.le_refl _
  | ended hstage hjudge =>
      rw [hstage]
      simp [report, Stage.effort]
  | tired hstage hjudge =>
      rw [hstage]
      exact Nat.le_refl _
  | retired hstage hact hset hsleep =>
      have hleft := b.left_le
      rw [hstage]
      simp only [Stage.effort, Bool.toNat_true]
      omega
  | @dozed _ _ _ _ a' b' hstage hact ha' hset hsleep hless =>
      cases ha.symm.trans ha'
      have hlt := (List.getElem?_eq_some_iff.1 ha).1
      rw [hset, List.getElem?_set_self hlt] at hb
      cases hb
      have hless := hless hs.cleared.raised
      simp only [hstage, Stage.effort, Bool.toNat_true]
      omega
  | woken hstage hact hset hfired =>
      obtain rfl := hs.answer_eq hfired
      rw [hstage] at hsuits ⊢
      have hsleep : 0 < a.left := hsuits
      simp only [Stage.effort, if_true, Bool.toNat_true]
      omega
  | @read _ _ cancelled hstage =>
      rw [hstage]
      cases cancelled <;> exact Nat.le_refl _
  | @stopped _ _ reading _ _ hstage hresume =>
      rw [hstage]
      cases hcancelled : reading.cancelled <;> simp [report, Stage.effort, hcancelled]
  | resumed hstage hresume =>
      obtain ⟨huncancelled, -⟩ := (resume_eq_none_iff _ _ _ _ _).1 hresume
      rw [hstage]
      simp [goto, Stage.effort, huncancelled]
  | aside hact ha' hb' hsame =>
      cases ha.symm.trans ha'
      cases hb.symm.trans hb'
      -- to be roused only brings a sleep nearer to its end
      have hle : b.left ≤ a.left := by
        rcases hsame with rfl | rfl
        · exact Nat.le_refl _
        · exact a.left_rouse_le
      cases hstage : s.stage with
      | asleep n fault => exact Nat.add_le_add_left hle 2
      | _ => exact Nat.le_refl _

/-- What one step leaves, all later steps leave. -/
theorem Moves.winds
    {steps : Nat}
    (h : Moves k s steps t)
    (hs : s.shared.Fired) :
    Winds k s steps t := by
  induction h with
  | refl s => exact ⟨hs, Nat.le_refl _, Nat.le_refl _, ⟨0, (List.append_nil _).symm⟩, Nat.le_refl _⟩
  | @step s m t own n hfits first later ih =>
      obtain ⟨hfired, hmore, hcalls, ⟨count, hlater⟩, heffort⟩ := ih (first.fired hs)
      obtain ⟨count', hfirst⟩ := first.readings_eq hs
      have hfirstEffort := first.effort_le hfits hs
      have hfirstCalls := first.calls_le hs
      have hfirstMore : s.calls ≤ m.calls := by
        rcases first.calls_eq with heq | ⟨made, -, heq⟩ <;> omega
      refine ⟨hfired, by omega, by omega, ⟨count' + count, ?_⟩, by omega⟩
      rw [hlater, hfirst, List.append_assoc, List.replicate_append_replicate]

end Winding

section Hurrying

variable {k : Task α} {s t u : Threaded α} {m n : Nat} {fault : Fault}

theorem play?_append
    {first second : List Action}
    (hfirst : play? k s first = some t)
    (hsecond : play? k t second = some u) :
    play? k s (first ++ second) = some u := by
  simp only [play?] at *
  rw [List.foldlM_append, hfirst]
  exact hsecond

theorem Hurries.refl
    (s : Threaded α) :
    Hurries k 0 s s :=
  ⟨[], fun _ h => (by cases h), Nat.le_refl _, rfl⟩

theorem Hurries.trans
    (hfirst : Hurries k m s t)
    (hsecond : Hurries k n t u) :
    Hurries k (m + n) s u := by
  obtain ⟨first, hurgent, hlength, hplay⟩ := hfirst
  obtain ⟨second, hurgent', hlength', hplay'⟩ := hsecond
  refine ⟨first ++ second, ?_, ?_, play?_append hplay hplay'⟩
  · intro action haction
    rcases List.mem_append.1 haction with h | h
    · exact hurgent action h
    · exact hurgent' action h
  · rw [List.length_append]
    omega

theorem Hurries.mono
    (h : Hurries k m s t)
    (hle : m ≤ n) :
    Hurries k n s t := by
  obtain ⟨actions, hurgent, hlength, hplay⟩ := h
  exact ⟨actions, hurgent, Nat.le_trans hlength hle, hplay⟩

theorem Hurries.single
    {action : Action}
    (hurgent : action.urgent = true)
    (h : act? k s action = some t) :
    Hurries k 1 s t := by
  refine ⟨[action], ?_, Nat.le_refl _, ?_⟩
  · intro other hother
    rw [List.mem_singleton.1 hother, hurgent]
  · simpa [play?] using h

/-- Another thread moves on, and the wait stays where it is. -/
theorem Hurries.others
    {j : Nat} {shared : Shared}
    (hne : j ≠ k.thread)
    (h : s.shared.play? k.horizon (List.replicate n (.move j .next)) = some shared) :
    Hurries k n s { s with shared := shared } := by
  refine ⟨List.replicate n (.other (.move j .next)), fun action haction => ?_, ?_, ?_⟩
  · rw [List.eq_of_mem_replicate haction]
    rfl
  · exact Nat.le_of_eq List.length_replicate
  · exact play?_others hne h

/-- A wait that is neither asleep nor over can take its next step. -/
theorem exists_advance
    (hs : s.Suited k)
    (hawake : ∀ n fault, s.stage ≠ .asleep n fault)
    (hgoing : ∀ outcome, s.stage ≠ .finished outcome) :
    ∃ t, act? k s .step = some t := by
  obtain ⟨a, ha, hsuits⟩ := hs
  simp only [act?]
  cases hstage : s.stage with
  | settleAsk n probe elapsed =>
      rw [hstage] at hsuits
      cases hsuits
      simp [advance?, act?_call ha]
  | retire n fault delay =>
      rw [hstage] at hsuits
      cases hsuits
      simp [advance?, act?_call ha]
  | settle n answer =>
      simp only [advance?]
      split <;> exact ⟨_, rfl⟩
  | resume n fault reading =>
      simp only [advance?]
      split <;> exact ⟨_, rfl⟩
  | asleep n fault => exact absurd hstage (hawake n fault)
  | finished outcome => exact absurd hstage (hgoing outcome)
  | _ => exact ⟨_, rfl⟩

/-- A sleeping wait can go on by itself, unless another thread has the lock. -/
theorem exists_doze
    {a : Signal.Stage}
    (hs : s.shared.Fired)
    (hstage : s.stage = .asleep n fault)
    (ha : s.shared.stages[k.thread]? = some a)
    (hsleep : 0 < a.left)
    (hlock : 0 < a.hold ∨ s.shared.locked = false) :
    ∃ t, act? k s (.doze .next) = some t := by
  have hnext : ∃ shared, s.shared.act? k.horizon (.move k.thread .next) = some shared := by
    rcases hlock with hhold | hfree
    · obtain ⟨c, shared, hact, -⟩ := hs.exists_hold_next k.horizon ha hhold
      exact ⟨shared, hact⟩
    · exact hs.exists_next ha hsleep hfree
  obtain ⟨shared, hact⟩ := hnext
  simp [act?, doze?, hstage, hact]

theorem Hurries.winds
    (h : Hurries k m s t)
    (hfits : s.Fits k)
    (hs : s.shared.Fired) :
    t.Fits k ∧ ∃ steps, Winds k s steps t := by
  obtain ⟨actions, -, -, hplay⟩ := h
  obtain ⟨ht, hmoves⟩ := hfits.play? hplay
  exact ⟨ht, _, hmoves.winds hs⟩

/-- With the lock at hand, a sleep takes its next step, and it may be the last. -/
theorem exists_hurry_unlocked
    {a : Signal.Stage}
    (hfits : s.Fits k)
    (hs : s.shared.Fired)
    (hstage : s.stage = .asleep n fault)
    (ha : s.shared.stages[k.thread]? = some a)
    (hlock : 0 < a.hold ∨ s.shared.locked = false) :
    ∃ t, Hurries k 1 s t ∧ t.effort k < s.effort k ∧
      (t.stage = .asleep n fault ∨ t.stage = .resumeClock n fault true) := by
  obtain ⟨b, hb, hsuits⟩ := hfits.suited
  cases ha.symm.trans hb
  have hsleep : 0 < a.left := by
    rw [hstage] at hsuits
    exact hsuits
  obtain ⟨t, hact⟩ := exists_doze hs hstage ha hsleep hlock
  have hmoved : Moved k s true t := moved_of_act? hfits.suited hact
  refine ⟨t, .single rfl hact, hmoved.effort_le hfits hs, ?_⟩
  cases hmoved with
  | dozed _ _ _ _ _ _ => exact .inl hstage
  | woken hstage' _ _ hfired =>
      cases hstage.symm.trans hstage'
      rw [hs.answer_eq hfired]
      exact .inr rfl
  | begun hstage' | called hstage' | timed hstage' | read hstage' =>
      cases hstage.symm.trans hstage'
  | ended hstage' _ | tired hstage' _ | stopped hstage' _ | resumed hstage' _ =>
      cases hstage.symm.trans hstage'
  | asked hstage' _ _ | retired hstage' _ _ _ => cases hstage.symm.trans hstage'

/-- A sleeping wait comes nearer to its end, if need be after another thread has
freed the lock. -/
theorem exists_hurry_asleep
    (hfits : s.Fits k)
    (hs : s.shared.Fired)
    (hstage : s.stage = .asleep n fault) :
    ∃ t, Hurries k 4 s t ∧ t.effort k < s.effort k ∧
      (t.stage = .asleep n fault ∨ t.stage = .resumeClock n fault true) := by
  obtain ⟨a, ha, -⟩ := hfits.suited
  by_cases hlock : 0 < a.hold ∨ s.shared.locked = false
  · obtain ⟨t, hhurry, hless, hstages⟩ := exists_hurry_unlocked hfits hs hstage ha hlock
    exact ⟨t, hhurry.mono (by omega), hless, hstages⟩
  · -- another thread has the lock, and is let to free it first
    have hnone : ¬ 0 < a.hold := fun h => hlock (.inl h)
    have hlocked : s.shared.locked = true := Bool.of_not_eq_false fun h => hlock (.inr h)
    obtain ⟨j, b, hb, hhold⟩ := hfits.sound.held hlocked
    have hne : j ≠ k.thread := by
      rintro rfl
      cases ha.symm.trans hb
      exact hnone hhold
    obtain ⟨shared, hplay, hfree, hsame⟩ := hs.exists_free k.horizon hb hhold
    have hwaiting : Hurries k b.hold s { s with shared := shared } := .others hne hplay
    obtain ⟨hfits', steps, hwinds⟩ := hwaiting.winds hfits hs
    obtain ⟨t, hhurry, hless, hstages⟩ :=
      exists_hurry_unlocked hfits' hwinds.fired hstage ((hsame _ hne).trans ha) (.inr hfree)
    have hwait := b.hold_le
    have hnomore := hwinds.effort
    exact ⟨t, (hwaiting.trans hhurry).mono (by omega), by omega, hstages⟩

/-- Whoever sleeps is soon awake. -/
theorem exists_wake
    (hfits : s.Fits k)
    (hs : s.shared.Fired)
    (hstage : s.stage = .asleep n fault)
    (hm : s.effort k ≤ 2 + m) :
    ∃ t, Hurries k (4 * m) s t ∧ t.stage = .resumeClock n fault true := by
  induction m generalizing s with
  | zero =>
      obtain ⟨a, ha, hsuits⟩ := hfits.suited
      rw [hstage] at hsuits
      have hsleep : 0 < a.left := hsuits
      rw [effort_eq ha, hstage] at hm
      simp only [Stage.effort] at hm
      omega
  | succ m ih =>
      obtain ⟨t, hhurry, hless, hstages⟩ := exists_hurry_asleep hfits hs hstage
      obtain ⟨hfits', steps, hwinds⟩ := hhurry.winds hfits hs
      rcases hstages with hasleep | hawake
      · obtain ⟨u, hlater, hend⟩ := ih hfits' hwinds.fired hasleep (by omega)
        exact ⟨u, (hhurry.trans hlater).mono (by omega), hend⟩
      · exact ⟨t, hhurry.mono (by omega), hawake⟩

theorem exists_hurry
    (hfits : s.Fits k)
    (hs : s.shared.Fired)
    (hgoing : ∀ outcome, s.stage ≠ .finished outcome) :
    ∃ t, Hurries k 4 s t ∧ t.effort k < s.effort k := by
  by_cases hasleep : ∃ n fault, s.stage = .asleep n fault
  · obtain ⟨n, fault, hstage⟩ := hasleep
    obtain ⟨t, hhurry, hless, -⟩ := exists_hurry_asleep hfits hs hstage
    exact ⟨t, hhurry, hless⟩
  · obtain ⟨t, hact⟩ :=
      exists_advance hfits.suited (fun n fault h => hasleep ⟨n, fault, h⟩) hgoing
    have hmoved : Moved k s true t := moved_of_act? hfits.suited hact
    have hhurry : Hurries k 1 s t := .single rfl hact
    exact ⟨t, hhurry.mono (by omega), hmoved.effort_le hfits hs⟩

/-- Every wait is soon over. -/
theorem exists_finished
    (hfits : s.Fits k)
    (hs : s.shared.Fired)
    (hm : s.effort k ≤ m) :
    ∃ t outcome, Hurries k (4 * m) s t ∧ t.stage = .finished outcome := by
  induction m generalizing s with
  | zero =>
      by_cases hover : ∃ outcome, s.stage = .finished outcome
      · obtain ⟨outcome, hstage⟩ := hover
        exact ⟨s, outcome, .refl s, hstage⟩
      · obtain ⟨t, -, hless⟩ := exists_hurry hfits hs (not_exists.1 hover)
        omega
  | succ m ih =>
      by_cases hover : ∃ outcome, s.stage = .finished outcome
      · obtain ⟨outcome, hstage⟩ := hover
        exact ⟨s, outcome, (Hurries.refl s).mono (by omega), hstage⟩
      · obtain ⟨t, hhurry, hless⟩ := exists_hurry hfits hs (not_exists.1 hover)
        obtain ⟨hfits', steps, hwinds⟩ := hhurry.winds hfits hs
        obtain ⟨u, outcome, hlater, hend⟩ := ih hfits' hwinds.fired (by omega)
        exact ⟨u, outcome, (hhurry.trans hlater).mono (by omega), hend⟩

end Hurrying

section Prompt

variable {k : Task α} {s : Threaded α} {outcome : Outcome α}

/-- The outcome of a wait is that of its last call, and all calls before it have
brought soft faults. -/
theorem Fits.outcome_eq
    (hs : s.Fits k)
    (hover : s.stage = .finished outcome) :
    1 ≤ s.calls ∧
      ∃ reading, s.readings.getLast? = some reading.cancelled ∧
        outcome = conclusion k.classifier s.calls (k.feed.probe s.calls) reading := by
  have htells := hs.tells
  rw [hover] at htells
  refine ⟨Nat.one_le_iff_ne_zero.2 fun hnone => ?_, htells⟩
  cases hover.symm.trans (hs.idle hnone)

/-- A firing ends a wait promptly and masks no result.  Up to it the wait reports
what it would report without.  From it on, however the steps of all threads are
interleaved, at most one more call begins, the signal answers `true` to all
questions, sleeps end without delay, and so does the wait, with the outcome of
its last call.  What it has reported and returned then is what a run of the loop
reports and returns that is given the same answers. -/
theorem cancellation_is_prompt
    (k : Task α) {threads : Nat} {before : List Signal.Action} {shared : Shared}
    {early : List Action} {s : Threaded α}
    (hbefore : (Shared.start threads).play? k.horizon before = some shared)
    (hidle : shared.stages[k.thread]? = some .idle)
    (hearly : play? k (start shared) early = some s) :
    (s.shared.raised = false → true ∉ s.readings) ∧
    (true ∉ s.readings → s.events <+: k.undisturbed.events) ∧
    (s.shared.token = true → ∀ late t, play? k s late = some t →
      (s.calls ≤ t.calls ∧ t.calls ≤ s.calls + 1) ∧
      (∃ m, t.readings = s.readings ++ List.replicate m true) ∧
      late.countP Action.own ≤ 14 ∧
      (∀ n fault, t.stage = .asleep n fault →
        (∀ deadline, t.shared.stages[k.thread]? ≠ some (.parked deadline)) ∧
        ∃ u, Hurries k 16 t u ∧ u.stage = .resumeClock n fault true) ∧
      (∃ u outcome, Hurries k 56 t u ∧ u.stage = .finished outcome) ∧
      ∀ outcome, t.stage = .finished outcome →
        (∃ heard, Hears heard t ∧
          run (.told k.feed heard) k.plan k.classifier 0 =
            ⟨t.events, outcome, t.readings.length⟩) ∧
        1 ≤ t.calls ∧
        (∀ n, 1 ≤ n → n < t.calls → ∃ fault, k.Soft n fault) ∧
        (∀ value, k.feed.probe t.calls = .ok value → outcome = .success value) ∧
        (∀ fault, k.feed.probe t.calls = .error fault →
          k.classifier.classify fault = .fatal →
          ∃ elapsed, outcome = .aborted fault t.calls elapsed) ∧
        (∀ fault, k.Soft t.calls fault →
          ∃ elapsed cancelled, outcome = .timedOut fault t.calls elapsed cancelled ∧
            (cancelled = true ∨ t.readings = s.readings))) := by
  have hsound := (Shared.sound_start threads).play? hbefore
  obtain ⟨hs, -⟩ := (fits_start hsound hidle).play? hearly
  refine ⟨hs.unfired, events_prefix_undisturbed hsound hidle hearly, ?_⟩
  intro htoken late t hlate
  have hfired : s.shared.Fired := ⟨hs.sound, htoken⟩
  obtain ⟨ht, hmoves⟩ := hs.play? hlate
  have hwinds := hmoves.winds hfired
  have hbound := effort_le (k := k) t
  refine ⟨⟨hwinds.more, ?_⟩, hwinds.readings, ?_, ?_, exists_finished ht hwinds.fired hbound, ?_⟩
  · have hahead := s.stage.ahead_le
    have hcalls := hwinds.calls
    omega
  · have hless := hwinds.effort
    have hmost := effort_le (k := k) s
    omega
  · intro n fault hstage
    obtain ⟨a, ha, -⟩ := ht.suited
    refine ⟨fun deadline hparked => ?_, exists_wake ht hwinds.fired hstage (m := 4) ?_⟩
    · exact hwinds.fired.cleared.awake _ (List.mem_of_getElem? hparked) deadline rfl
    · have hleft := a.left_le
      rw [effort_eq ha, hstage]
      simp only [Stage.effort]
      omega
  · intro outcome hover
    have hrun := run_of_finished hsound hidle (play?_append hearly hlate) hover
    obtain ⟨hpos, reading, hlast, rfl⟩ := ht.outcome_eq hover
    refine ⟨hrun, hpos, ht.earlier, ?_, ?_, ?_⟩
    · intro value hprobe
      rw [conclusion_eq_success_iff, hprobe]
    · intro fault hprobe hfatal
      exact ⟨reading.elapsed, by rw [hprobe, conclusion_fatal _ _ _ hfatal]⟩
    · intro fault hsoft
      refine ⟨reading.elapsed, reading.cancelled, ?_, ?_⟩
      · rw [hsoft.probe_eq, conclusion_soft _ _ _ hsoft.soft]
      · obtain ⟨m, hnew⟩ := hwinds.readings
        cases m with
        | zero => exact .inr (hnew.trans (List.append_nil _))
        | succ m =>
            rw [hnew, List.replicate_succ', ← List.append_assoc, List.getLast?_concat] at hlast
            exact .inl (Option.some.inj hlast).symm

/-- A blocking wait on the first of two threads, whose condition never holds. -/
def watch : Task Unit where
  plan := Plan.standard
  classifier := .strict
  manner := .blocking
  feed := ⟨fun _ => .error (.notReady "pending"), fun _ => .zero, fun _ => .ofSeconds 1, id⟩
  thread := 0
  horizon := 18446744073709551615

/-- The wait parks, and then the other thread fires the signal. -/
def parkedThenFired : List Action :=
  List.replicate 6 .step ++ List.replicate 3 (.doze .next) ++
    .other (.move 1 (.call .fire)) :: List.replicate 5 (.other (.move 1 .next))

/-- The wait after the firing. -/
def roused : Threaded Unit where
  shared := ⟨0, false, true, true, [.roused (some 1000000000) false, .idle], [⟨0, .asked, false⟩]⟩
  stage := .asleep 1 (.notReady "pending")
  events := [.started 1 61, .notReady 1 (.notReady "pending") (.ofSeconds 1)]
  readings := [false]

/-- The wait comes to its end. -/
def rousedThenOver : List Action :=
  List.replicate 3 (.doze .next) ++ [.step, .step]

/-- A wait that is parked when its signal fires ends without another call. -/
theorem cancellation_is_prompt_of_parked :
    play? watch (start (Shared.start 2)) parkedThenFired = some roused ∧
      roused.shared.token = true ∧
      roused.events <+: watch.undisturbed.events ∧
      ∃ t, play? watch roused rousedThenOver = some t ∧
        t.stage = .finished (.timedOut (.notReady "pending") 1 (.ofSeconds 1) true) ∧
        t.calls ≤ roused.calls + 1 := by
  have hbefore : (Shared.start 2).play? watch.horizon [] = some (Shared.start 2) := rfl
  have hearly : play? watch (start (Shared.start 2)) parkedThenFired = some roused := rfl
  obtain ⟨-, hevents, hlate⟩ := cancellation_is_prompt watch hbefore rfl hearly
  exact ⟨hearly, rfl, hevents (by decide), _, rfl, rfl, (hlate rfl rousedThenOver _ rfl).1.2⟩

end Prompt

end Threaded

end Wait
end BoundedWait

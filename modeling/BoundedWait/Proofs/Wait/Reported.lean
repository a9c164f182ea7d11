import BoundedWait.Proofs.Signal.Halves
import BoundedWait.Proofs.Signal.Sleeping
import BoundedWait.Proofs.Wait.Cancellation

/-!
# What a report of a firing is worth

A wait reports a firing when an answer of the signal to its own thread says so.
Which half has been asked depends on how the wait sleeps: one that blocks nobody
asks the token only, and whoever it tells finds the token fired.  One that blocks
its thread may be told by the flag, and then there is a moment in which the wait
is over and the token still says that nothing has fired.
-/

namespace BoundedWait
namespace Wait

open Signal (Shared Question)

variable {α : Type}

namespace Threaded

/-- What a wait has read are answers of the signal to its thread, and a wait that
blocks nobody is never answered by the flag. -/
structure Relays (k : Task α) (s : Threaded α) : Prop where
  naps : k.manner = .yielding →
    ∀ a, s.shared.stages[k.thread]? = some a → a.sleeps = false
  answered : ∀ fired ∈ s.readings, ∃ question,
    ⟨k.thread, question, fired⟩ ∈ s.shared.answers ∧
      (k.manner = .yielding → question ≠ .slept)

section Reading

variable {k : Task α} {s t : Threaded α} {own : Bool}

/-- What a sleep of a wait reads is its answer, and it asks the flag only if it
blocks its thread. -/
theorem readings_of_doze?
    {m : Signal.Move}
    (hs : s.Suited k)
    (h : s.doze? k m s.stage = some t) :
    t.readings = s.readings ∨
      ∃ question fired, t.readings = s.readings ++ [fired] ∧
        t.shared.answers = s.shared.answers ++ [⟨k.thread, question, fired⟩] ∧
        (question = .slept →
          ∃ a, s.shared.stages[k.thread]? = some a ∧ a.sleeps = true) := by
  obtain ⟨a, ha, hsuits⟩ := hs
  generalize hstage : s.stage = stage at h hsuits
  cases stage with
  | asleep n fault =>
      simp only [doze?, Option.map_eq_some_iff] at h
      obtain ⟨shared, hact, rfl⟩ := h
      obtain ⟨a', ha', hhop⟩ := Shared.hop_of_act? hact
      have hlt := (List.getElem?_eq_some_iff.1 ha).1
      cases ha.symm.trans ha'
      split
      · rename_i hidle
        rcases hhop.answers_cases with hnone | ⟨deadline, rfl, hnew⟩ | ⟨question, hne, hnew⟩
        · -- a sleep does not get back to its wait without an answer
          rcases hhop.of_sleep hsuits with ⟨b, hset, -, hsleep, -⟩ | ⟨_, _, -, hanswers, -⟩
          · rw [hset, List.getElem?_set_self hlt] at hidle
            cases hidle
            cases hsleep
          · simp [hnone] at hanswers
        · rw [note_eq hnew]
          exact .inr ⟨.slept, _, rfl, hnew, fun _ => ⟨_, ha, rfl⟩⟩
        · rw [note_eq hnew]
          exact .inr ⟨question, _, rfl, hnew, fun hslept => absurd hslept hne⟩
      · exact .inl rfl
  | _ => cases h

theorem readings_of_act?
    {action : Action}
    (hs : s.Suited k)
    (h : act? k s action = some t) :
    t.readings = s.readings ∨
      ∃ question fired, t.readings = s.readings ++ [fired] ∧
        t.shared.answers = s.shared.answers ++ [⟨k.thread, question, fired⟩] ∧
        (question = .slept →
          ∃ a, s.shared.stages[k.thread]? = some a ∧ a.sleeps = true) := by
  have hmoved := moved_of_act? hs h
  cases action with
  | doze m => exact readings_of_doze? hs h
  | step =>
      cases hmoved with
      | asked hstage hact hset =>
          obtain ⟨a, ha, hsuits⟩ := hs
          rw [hstage] at hsuits
          cases hsuits
          cases (act?_call ha).symm.trans hact
          exact .inr ⟨.asked, _, rfl, rfl, nofun⟩
      | woken hstage hact hset hfired =>
          rw [act?, hstage] at h
          cases h
      | _ => exact .inl rfl
  | other action =>
      cases hmoved
      exact .inl rfl

theorem Moved.answers_subset
    (h : Moved k s own t) :
    s.shared.answers ⊆ t.shared.answers := by
  rcases h.shared_eq with heq | ⟨action, hact⟩
  · rw [heq]
    exact fun _ hmem => hmem
  · exact Shared.answers_subset_of_act? hact

/-- The thread of a wait that blocks nobody never stands in a blocking sleep. -/
theorem Relays.naps_moved
    (hs : s.Relays k)
    (hsuited : s.Suited k)
    (h : Moved k s own t)
    (hyielding : k.manner = .yielding)
    {b : Signal.Stage}
    (hb : t.shared.stages[k.thread]? = some b) :
    b.sleeps = false := by
  obtain ⟨a, ha, hsuits⟩ := hsuited
  have hlt := (List.getElem?_eq_some_iff.1 ha).1
  have hmine : ∀ {shared : Shared} {c : Signal.Stage},
      shared.stages = s.shared.stages.set k.thread c → shared.stages[k.thread]? = some b → c = b :=
    fun hset hb => Shared.eq_of_getElem?_set hlt (hset ▸ hb)
  cases h with
  | asked hstage hact hset => exact hmine hset hb ▸ rfl
  | woken hstage hact hset hfired => exact hmine hset hb ▸ rfl
  | retired hstage hact hset hsleep =>
      rw [hstage] at hsuits
      cases hsuits
      rw [hyielding] at hact
      cases (act?_call ha).symm.trans hact
      exact hmine rfl hb ▸ rfl
  | dozed hstage hact ha' hset hsleep hless =>
      cases ha.symm.trans ha'
      rw [hstage] at hsuits
      obtain ⟨_, ha', hhop⟩ := Shared.hop_of_act? hact
      cases ha.symm.trans ha'
      cases hsleeps : b.sleeps with
      | false => rfl
      | true =>
          rcases hhop.sleeps_cases ha hb hsleeps with rfl | hbefore
          · cases hsuits
          · cases (hs.naps hyielding a ha).symm.trans hbefore
  | aside hact ha' hb' hsame =>
      cases ha.symm.trans ha'
      cases hb.symm.trans hb'
      rcases hsame with rfl | rfl
      · exact hs.naps hyielding _ ha
      · exact (Signal.Stage.sleeps_rouse a).trans (hs.naps hyielding a ha)
  | _ => exact hs.naps hyielding b hb

theorem Relays.act?
    {action : Action}
    (hs : s.Relays k)
    (hsuited : s.Suited k)
    (h : act? k s action = some t) :
    t.Relays k := by
  have hmoved := moved_of_act? hsuited h
  have hearlier : ∀ fired ∈ s.readings, ∃ question,
      ⟨k.thread, question, fired⟩ ∈ t.shared.answers ∧
        (k.manner = .yielding → question ≠ .slept) := by
    intro fired hmem
    obtain ⟨question, hanswer, hquestion⟩ := hs.answered fired hmem
    exact ⟨question, hmoved.answers_subset hanswer, hquestion⟩
  refine ⟨fun hyielding b hb => hs.naps_moved hsuited hmoved hyielding hb, ?_⟩
  rcases readings_of_act? hsuited h with heq | ⟨question, fired, heq, hanswers, hslept⟩
  · rw [heq]
    exact hearlier
  · rw [heq]
    intro fired' hmem
    rcases List.mem_append.1 hmem with hmem | hmem
    · exact hearlier fired' hmem
    · cases List.mem_singleton.1 hmem
      refine ⟨question, by simp [hanswers], fun hyielding hquestion => ?_⟩
      obtain ⟨a, ha, hsleeps⟩ := hslept hquestion
      cases (hs.naps hyielding a ha).symm.trans hsleeps

end Reading

section Report

variable {k : Task α} {s t : Threaded α}

theorem Relays.play?
    {actions : List Action}
    (hs : s.Relays k)
    (hfits : s.Fits k)
    (h : play? k s actions = some t) :
    t.Relays k := by
  induction actions generalizing s with
  | nil =>
      cases h
      exact hs
  | cons action rest ih =>
      obtain ⟨m, hm, hrest⟩ := play?_cons.1 h
      exact ih (hs.act? hfits.suited hm) (hfits.moved (moved_of_act? hfits.suited hm)) hrest

/-- To the signal a run of a wait is a run of the threads. -/
theorem Moves.exists_play?
    {n : Nat}
    (h : Moves k s n t) :
    ∃ actions, s.shared.play? k.horizon actions = some t.shared := by
  induction h with
  | refl s => exact ⟨[], rfl⟩
  | @step s m t own n hfits first later ih =>
      obtain ⟨actions, hlater⟩ := ih
      rcases first.shared_eq with heq | ⟨action, hact⟩
      · exact ⟨actions, heq ▸ hlater⟩
      · exact ⟨action :: actions, Shared.play?_cons.2 ⟨_, hact, hlater⟩⟩

/-- The thread of a wait fires nothing. -/
theorem Suited.ne_of_due
    (hs : s.Suited k)
    {j : Nat} {b : Signal.Stage}
    (hb : s.shared.stages[j]? = some b)
    (hdue : 0 < b.due) :
    j ≠ k.thread := by
  rintro rfl
  obtain ⟨a, ha, hsuits⟩ := hs
  cases ha.symm.trans hb
  have hawake : b ≠ .idle := by
    rintro rfl
    cases hdue
  have hnone := Signal.Stage.left_of_inFiring (Signal.Stage.inFiring_of_due_pos hdue)
  cases hstage : s.stage with
  | asleep n fault =>
      rw [hstage] at hsuits
      exact absurd hnone (Nat.ne_of_gt hsuits)
  | _ =>
      rw [hstage] at hsuits
      exact hawake hsuits

/-- What is told of a firing is true of the flag, and unless a blocking sleep was
told it is true of the token.  The same holds of a wait that has ended with the
report of a firing.  The token may be behind the flag only while a firing is
under way, which a few moves of its own complete; and from then on nobody is told
anything else. -/
theorem halves_agree_but_during_firing
    (k : Task α) {threads : Nat} {before : List Signal.Action} {shared : Shared}
    {early : List Action} {s : Threaded α}
    (hbefore : (Shared.start threads).play? k.horizon before = some shared)
    (hidle : shared.stages[k.thread]? = some .idle)
    (hearly : play? k (start shared) early = some s) :
    (∀ answer ∈ s.shared.answers, answer.fired = true →
      s.shared.raised = true ∧ (answer.question ≠ .slept → s.shared.token = true)) ∧
    (∀ fault attempts elapsed, s.stage = .finished (.timedOut fault attempts elapsed true) →
      s.shared.raised = true ∧ (k.manner = .yielding → s.shared.token = true)) ∧
    (s.shared.raised = true → s.shared.token = true ∨
      ∃ j moves t, moves ≤ 3 ∧
        play? k s (List.replicate moves (.other (.move j .next))) = some t ∧
        t.shared.token = true) ∧
    (s.shared.token = true → ∀ late t, play? k s late = some t →
      t.shared.raised = true ∧ t.shared.token = true ∧ s.shared.Heard t.shared) := by
  have hsound := (Shared.sound_start threads).play? hbefore
  obtain ⟨hfits, hmoves⟩ := (fits_start hsound hidle).play? hearly
  obtain ⟨actions, hactions⟩ := hmoves.exists_play?
  have htold := ((Shared.told_start threads).play? hbefore).play? hactions
  have hrelays : s.Relays k := by
    refine Relays.play? ⟨fun _ a ha => ?_, fun _ hmem => ?_⟩ (fits_start hsound hidle) hearly
    · cases hidle.symm.trans ha
      rfl
    · cases hmem
  refine ⟨?_, ?_, ?_, ?_⟩
  · exact fun answer hmem hfired =>
      ⟨htold.raised answer hmem hfired, htold.token answer hmem hfired⟩
  · intro fault attempts elapsed hover
    obtain ⟨-, reading, hlast, hend⟩ := hfits.outcome_eq hover
    obtain ⟨-, -, -, -, hcancelled⟩ := (conclusion_eq_timedOut_iff _ _ _).1 hend.symm
    rw [← hcancelled] at hlast
    obtain ⟨question, hmem, hquestion⟩ := hrelays.answered true (List.mem_of_getLast? hlast)
    exact ⟨htold.raised _ hmem rfl, fun hyielding => htold.token _ hmem rfl (hquestion hyielding)⟩
  · intro hraised
    refine (htold.firing hraised).imp_right fun ⟨j, b, hb, hdue⟩ => ?_
    obtain ⟨t, hplay, htoken⟩ := Shared.exists_token k.horizon hb hdue
    exact ⟨j, b.due, _, b.due_le, play?_others (hfits.suited.ne_of_due hb hdue) hplay, htoken⟩
  · intro htoken late t hlate
    obtain ⟨-, hlater⟩ := hfits.play? hlate
    obtain ⟨actions, hactions⟩ := hlater.exists_play?
    obtain ⟨hfired, hheard⟩ := Shared.Fired.heard ⟨hfits.sound, htoken⟩ hactions
    exact ⟨hfired.cleared.raised, hfired.token, hheard⟩

/-- The wait parks, the second thread fires up to the token, and the wait ends. -/
def endedDuringFiring : List Action :=
  List.replicate 6 .step ++ List.replicate 3 (.doze .next) ++
    .other (.move 1 (.call .fire)) :: List.replicate 4 (.other (.move 1 .next)) ++
    List.replicate 3 (.doze .next) ++ [.step, .step]

/-- The wait after its end. -/
def told : Threaded Unit where
  shared := ⟨0, false, true, false, [.idle, .fireToken, .idle],
    [⟨0, .asked, false⟩, ⟨0, .slept, true⟩]⟩
  stage := .finished (.timedOut (.notReady "pending") 1 (.ofSeconds 1) true)
  events := [.started 1 61, .notReady 1 (.notReady "pending") (.ofSeconds 1),
    .cancelled 1 (.notReady "pending")]
  readings := [false, true]

/-- A wait that has ended during a firing was told what the flag says, and a move
of the firing makes the token say so too. -/
theorem halves_agree_after_firing_of_parked :
    play? watch (start (Shared.start 3)) endedDuringFiring = some told ∧
      told.shared.raised = true ∧
      ∃ j moves t, moves ≤ 3 ∧
        play? watch told (List.replicate moves (.other (.move j .next))) = some t ∧
        t.shared.token = true := by
  have hbefore : (Shared.start 3).play? watch.horizon [] = some (Shared.start 3) := rfl
  have hearly : play? watch (start (Shared.start 3)) endedDuringFiring = some told := rfl
  obtain ⟨-, hreport, hfiring, -⟩ := halves_agree_but_during_firing watch hbefore rfl hearly
  have hraised := (hreport _ _ _ rfl).1
  exact ⟨hearly, hraised, (hfiring hraised).resolve_left nofun⟩

/-- A sleep and its wait have been told of a firing, and then the third thread
asks whether the signal has fired and is told that it has not. -/
theorem asked_in_vain_during_firing :
    play? watch (start (Shared.start 3)) endedDuringFiring = some told ∧
      told.stage = .finished (.timedOut (.notReady "pending") 1 (.ofSeconds 1) true) ∧
      ⟨0, .slept, true⟩ ∈ told.shared.answers ∧
      ∃ t, play? watch told [.other (.move 2 (.call .ask))] = some t ∧
        t.shared.answers = told.shared.answers ++ [⟨2, .asked, false⟩] :=
  ⟨rfl, rfl, by decide, _, rfl, rfl⟩

end Report

end Threaded

end Wait
end BoundedWait

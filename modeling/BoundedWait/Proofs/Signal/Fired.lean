import BoundedWait.Proofs.Signal.Hops

/-!
# Signals that have fired

A firing that has come back has fired the signal: it is under way from its call
until it has fired the token (`Stage.inFiring`), and by then it has raised the flag
and roused all that were parked (`fired_of_comes_back`).

A sleep goes from stage to stage until it answers with the flag or with the
token.  While the signal has not fired it may park, for as long as it takes.
After a firing it cannot: each of its moves brings it nearer to its answer
(`Stage.left`), the answer is `true`, and all that it may have to wait for is
the lock, which whoever has it frees in at most three moves.
-/

namespace BoundedWait
namespace Signal

namespace Stage

/-- How many more moves a sleep makes at most, if the signal has fired.  Only
sleeps have any left. -/
def left : Stage → Nat
  | sleepLock _ | parked _ => 4
  | sleepMeasure _ | roused _ false => 3
  | sleepTest _ | roused _ true | nap _ => 2
  | sleepAnswer _ | napAnswer => 1
  | _ => 0

/-- Whether a firing is under way. -/
def inFiring : Stage → Bool
  | fireLock | fireRaise | fireRouse | fireFree | fireToken => true
  | _ => false

/-- How many moves a firing that has raised the flag makes until the token has
fired.  All other stages have none to make. -/
def due : Stage → Nat
  | fireRouse => 3
  | fireFree => 2
  | fireToken => 1
  | _ => 0

theorem due_le
    (a : Stage) :
    a.due ≤ 3 := by
  cases a <;> simp [due]

theorem inFiring_of_due_pos
    {a : Stage}
    (h : 0 < a.due) :
    a.inFiring = true := by
  cases a <;> cases h <;> rfl

theorem rouse_of_inFiring
    {a : Stage}
    (h : a.inFiring = true) :
    a.rouse = a := by
  cases a with
  | parked deadline => cases h
  | _ => rfl

/-- A firing is no sleep. -/
theorem left_of_inFiring
    {a : Stage}
    (h : a.inFiring = true) :
    a.left = 0 := by
  cases a <;> cases h <;> rfl

theorem left_le
    (a : Stage) :
    a.left ≤ 4 := by
  cases a with
  | roused deadline expired => cases expired <;> simp [left]
  | _ => simp [left]

theorem left_rouse_le
    (a : Stage) :
    a.rouse.left ≤ a.left := by
  cases a <;> simp [rouse, left]

theorem left_rouse_pos
    {a : Stage}
    (h : 0 < a.left) :
    0 < a.rouse.left := by
  cases a with
  | parked deadline => exact Nat.succ_pos _
  | _ => exact h

theorem left_of_inside?
    {a b : Stage}
    (h : a.inside? = some b)
    (ha : 0 < a.left) :
    0 < b.left ∧ b.left < a.left := by
  cases a with
  | fireLock => cases ha
  | sleepLock d =>
      cases h
      simp [left]
  | roused deadline expired =>
      cases h
      cases expired <;> simp [left]
  | _ => cases h

end Stage

namespace Shared

variable {horizon i j : Nat} {s t : Shared} {a b : Stage}

/-- A move of a sleep leads to another stage of it, or to its answer.  With the
flag up fewer moves are left afterwards. -/
theorem Hop.of_sleep
    (h : Hop horizon s i a t)
    (ha : 0 < a.left) :
    (∃ b, t.stages = s.stages.set i b ∧ t.answers = s.answers ∧ 0 < b.left ∧
      (s.raised = true → b.left < a.left)) ∨
    (∃ question fired, t.stages = s.stages.set i .idle ∧
      t.answers = s.answers ++ [⟨i, question, fired⟩] ∧
      (fired = s.raised ∨ fired = s.token)) := by
  cases h with
  | @take _ b hinside hfree =>
      obtain ⟨hpos, hlt⟩ := Stage.left_of_inside? hinside ha
      exact .inl ⟨b, rfl, rfl, hpos, fun _ => hlt⟩
  | measure d => exact .inl ⟨_, rfl, rfl, Nat.succ_pos _, fun _ => Nat.lt_succ_self _⟩
  | see deadline hraised =>
      exact .inl ⟨_, rfl, rfl, Nat.succ_pos _, fun _ => Nat.lt_succ_self _⟩
  | park deadline hraised =>
      refine .inl ⟨_, rfl, rfl, Nat.succ_pos _, fun hup => ?_⟩
      cases hup.symm.trans hraised
  | stir deadline => exact .inl ⟨_, rfl, rfl, Nat.succ_pos _, fun _ => Nat.lt_succ_self _⟩
  | expire deadline hpast =>
      exact .inl ⟨_, rfl, rfl, Nat.succ_pos _, fun _ => by simp [Stage.left]⟩
  | slept deadline => exact .inr ⟨_, _, rfl, rfl, .inl rfl⟩
  | called ends htoken => exact .inr ⟨_, _, rfl, rfl, .inr htoken.symm⟩
  | lapse ends hpast => exact .inl ⟨_, rfl, rfl, Nat.succ_pos _, fun _ => Nat.lt_succ_self _⟩
  | napped => exact .inr ⟨_, _, rfl, rfl, .inr rfl⟩
  | _ => cases ha

/-- A state of a run in which a firing is complete. -/
structure Fired (s : Shared) : Prop where
  sound : s.Sound
  token : s.token = true

namespace Fired

theorem cleared
    (hs : s.Fired) :
    s.Cleared :=
  hs.sound.fired hs.token

/-- Both halves of the signal answer the same. -/
theorem answer_eq
    {fired : Bool}
    (hs : s.Fired)
    (h : fired = s.raised ∨ fired = s.token) :
    fired = true := by
  rcases h with rfl | rfl
  · exact hs.cleared.raised
  · exact hs.token

theorem act?
    {action : Action}
    (hs : s.Fired)
    (h : act? horizon s action = some t) :
    t.Fired := by
  refine ⟨hs.sound.act? h, ?_⟩
  cases action with
  | pass time =>
      cases h
      exact hs.token
  | move i m =>
      obtain ⟨a, -, hhop⟩ := hop_of_act? h
      exact hhop.token_of_token hs.token

/-- Nobody is left to be roused, so a move changes the stage of its thread only. -/
theorem frame
    (hs : s.Fired)
    (h : Hop horizon s i a t)
    (hne : i ≠ j) :
    t.stages[j]? = s.stages[j]? := by
  rcases h.frame hne with heq | heq
  · exact heq
  · rw [heq]
    cases hb : s.stages[j]? with
    | none => rfl
    | some b =>
        cases b with
        | parked deadline => exact absurd rfl (hs.cleared.awake _ (List.mem_of_getElem? hb) deadline)
        | _ => rfl

/-- A sleep can always take its next step, but for the lock. -/
theorem exists_next
    (hs : s.Fired)
    (ha : s.stages[i]? = some a)
    (hsleep : 0 < a.left)
    (hfree : s.locked = false) :
    ∃ t, Shared.act? horizon s (.move i .next) = some t := by
  simp only [Shared.act?, ha]
  cases a with
  | parked deadline => exact absurd rfl (hs.cleared.awake _ (List.mem_of_getElem? ha) deadline)
  | sleepLock d => exact ⟨_, take?_eq_some_iff.2 ⟨hfree, rfl⟩⟩
  | roused deadline expired => exact ⟨_, take?_eq_some_iff.2 ⟨hfree, rfl⟩⟩
  | sleepTest deadline => exact ⟨_, if_pos hs.cleared.raised⟩
  | nap ends => exact ⟨_, if_pos hs.token⟩
  | sleepMeasure d => exact ⟨_, rfl⟩
  | sleepAnswer deadline => exact ⟨_, rfl⟩
  | napAnswer => exact ⟨_, rfl⟩
  | _ => cases hsleep

/-- The thread that has the lock can move, and comes nearer to freeing it. -/
theorem exists_hold_next
    (horizon : Nat)
    (hs : s.Fired)
    (hb : s.stages[j]? = some b)
    (hhold : 0 < b.hold) :
    ∃ c t, Shared.act? horizon s (.move j .next) = some t ∧ t.stages[j]? = some c ∧
      c.hold + 1 = b.hold ∧ (c.hold = 0 → t.locked = false) := by
  have hlt := (List.getElem?_eq_some_iff.1 hb).1
  simp only [Shared.act?, hb]
  cases b with
  | fireRaise => exact ⟨_, _, rfl, List.getElem?_set_self hlt, rfl, fun h => by cases h⟩
  | fireRouse =>
      have hlt' : j < (s.stages.map Stage.rouse).length := by rwa [List.length_map]
      exact ⟨_, _, rfl, List.getElem?_set_self hlt', rfl, fun h => by cases h⟩
  | fireFree => exact ⟨_, _, rfl, List.getElem?_set_self hlt, rfl, fun _ => rfl⟩
  | sleepMeasure d =>
      exact ⟨_, _, rfl, List.getElem?_set_self hlt, rfl, fun h => by cases h⟩
  | sleepTest deadline =>
      exact ⟨_, _, if_pos hs.cleared.raised, List.getElem?_set_self hlt, rfl,
        fun h => by cases h⟩
  | sleepAnswer deadline => exact ⟨_, _, rfl, List.getElem?_set_self hlt, rfl, fun _ => rfl⟩
  | _ => cases hhold

/-- The thread that has the lock frees it if it is let to, and meanwhile the
others stand still. -/
theorem exists_free
    (horizon : Nat)
    (hs : s.Fired)
    (hb : s.stages[j]? = some b)
    (hhold : 0 < b.hold) :
    ∃ t, Shared.play? horizon s (List.replicate b.hold (.move j .next)) = some t ∧
      t.locked = false ∧ ∀ i, j ≠ i → t.stages[i]? = s.stages[i]? := by
  have hnext : ∀ {m : Shared} {b : Stage},
      (m.Fired ∧ ∀ i, j ≠ i → m.stages[i]? = s.stages[i]?) → m.stages[j]? = some b → 0 < b.hold →
      ∃ c t, Shared.act? horizon m (.move j .next) = some t ∧
        (t.Fired ∧ ∀ i, j ≠ i → t.stages[i]? = s.stages[i]?) ∧ t.stages[j]? = some c ∧
        c.hold + 1 = b.hold ∧ (c.hold = 0 → t.locked = false) := by
    rintro m b ⟨hm, hstill⟩ hb hhold
    obtain ⟨c, t, hact, hc, hless, hfree⟩ := hm.exists_hold_next horizon hb hhold
    obtain ⟨a, -, hhop⟩ := hop_of_act? hact
    exact ⟨c, t, hact, ⟨hm.act? hact, fun i hne => (hm.frame hhop hne).trans (hstill i hne)⟩,
      hc, hless, hfree⟩
  obtain ⟨t, hplay, ⟨-, hstill⟩, hfree⟩ := exists_countdown hnext ⟨hs, fun _ _ => rfl⟩ hb hhold
  exact ⟨t, hplay, hfree, hstill⟩

end Fired

/-- A firing goes on, while others move, until it has fired the token, and once it
has raised the flag it does not go back. -/
theorem Hop.firing_or_token
    (ha : s.stages[i]? = some a)
    (h : Hop horizon s i a t)
    (hb : s.stages[j]? = some b)
    (hfiring : b.inFiring = true) :
    t.token = true ∨
      ∃ c, t.stages[j]? = some c ∧ c.inFiring = true ∧ (0 < b.due → 0 < c.due) := by
  have hlt := (List.getElem?_eq_some_iff.1 ha).1
  by_cases hij : i = j
  · subst hij
    cases ha.symm.trans hb
    cases h with
    | take hinside hfree =>
        -- of the stages that wait for the lock only one is of a firing
        cases a <;> cases hinside <;> cases hfiring
        exact .inr ⟨.fireRaise, List.getElem?_set_self hlt, rfl, fun hdue => by cases hdue⟩
    | raise => exact .inr ⟨.fireRouse, List.getElem?_set_self hlt, rfl, fun _ => by decide⟩
    | rouse =>
        have hlt' : i < (s.stages.map Stage.rouse).length := by rwa [List.length_map]
        exact .inr ⟨.fireFree, List.getElem?_set_self hlt', rfl, fun _ => by decide⟩
    | free => exact .inr ⟨.fireToken, List.getElem?_set_self hlt, rfl, fun _ => by decide⟩
    | token => exact .inl rfl
    | _ => cases hfiring
  · exact .inr ⟨b, h.frame_of_rouse hij hb (Stage.rouse_of_inFiring hfiring), hfiring, id⟩

/-- A call to fire begins a firing. -/
theorem stage_of_call_fire
    (h : act? horizon s (.move i (.call .fire)) = some t) :
    t.stages[i]? = some .fireLock := by
  obtain ⟨a, ha, -⟩ := hop_of_act? h
  simp only [act?, ha] at h
  split at h <;> cases h
  exact List.getElem?_set_self (List.getElem?_eq_some_iff.1 ha).1

/-- The firing of a thread is under way, or the token has fired. -/
def Firing (s : Shared) (j : Nat) : Prop :=
  s.token = true ∨ ∃ b, s.stages[j]? = some b ∧ b.inFiring = true

theorem Firing.hop
    (hs : s.Firing j)
    (ha : s.stages[i]? = some a)
    (h : Hop horizon s i a t) :
    t.Firing j := by
  rcases hs with htoken | ⟨b, hb, hfiring⟩
  · exact .inl (h.token_of_token htoken)
  · refine (h.firing_or_token ha hb hfiring).imp_right fun ⟨c, hc, hfiring', _⟩ => ?_
    exact ⟨c, hc, hfiring'⟩

/-- A firing that has come back has fired the signal, whatever was called before
it and whoever moved meanwhile. -/
theorem fired_of_comes_back
    {threads : Nat} {earlier during : List Action}
    (h : play? horizon (start threads) (earlier ++ .move i (.call .fire) :: during) = some t)
    (hback : t.stages[i]? = some .idle) :
    t.Fired := by
  refine ⟨(sound_start threads).play? h, ?_⟩
  obtain ⟨s, -, hlater⟩ := play?_append.1 h
  obtain ⟨m, hcall, hduring⟩ := play?_cons.1 hlater
  have hcalled : m.Firing i := .inr ⟨.fireLock, stage_of_call_fire hcall, rfl⟩
  -- on the moves since the call
  have hend : t.Firing i :=
    keeps_of_hop (fun _ hs => hs) (fun ha hhop hs => Firing.hop hs ha hhop) hduring hcalled
  rcases hend with htoken | ⟨b, hb, hfiring⟩
  · exact htoken
  · cases hback.symm.trans hb
    cases hfiring

end Shared
end Signal
end BoundedWait

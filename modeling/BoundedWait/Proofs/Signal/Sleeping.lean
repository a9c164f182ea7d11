import Mathlib.Data.List.Induction
import BoundedWait.Proofs.Signal.Fired

/-!
# Blocking sleeps lose no wake-up and end none too early

Three things are followed through the runs of any number of threads.

* The lock keeps threads apart: of all threads at most one is inside, and only
  while the lock is taken (`Exclusive`).
* A flag that is up has been seen by all parked threads, or a firing is about to
  rouse them (`Rousing`).  So nobody stays parked behind a firing.
* A blocking sleep that is under way began at a call of the run, and measured
  its deadline after that.  As long as the flag is down, it comes to its answer
  only past that deadline, however often it is roused on the way
  (`Stage.Sleeping`).
-/

namespace BoundedWait
namespace Signal

namespace Stage

/-- Whether a firing is inside the lock. -/
def fires : Stage → Bool
  | fireRaise | fireRouse | fireFree => true
  | _ => false

/-- Whether a blocking sleep is under way. -/
def sleeps : Stage → Bool
  | sleepLock _ | sleepMeasure _ | sleepTest _ | parked _ | roused _ _ | sleepAnswer _ => true
  | _ => false

theorem hold_rouse
    (a : Stage) :
    a.rouse.hold = a.hold := by
  cases a <;> rfl

theorem sleeps_rouse
    (a : Stage) :
    a.rouse.sleeps = a.sleeps := by
  cases a <;> rfl

end Stage

namespace Shared

variable {horizon i : Nat} {s t : Shared} {a : Stage}

section Exclusive

/-- Only one thread is inside the lock, and the lock is taken then. -/
def Exclusive (s : Shared) : Prop :=
  ∀ (i : Nat) (a : Stage), s.stages[i]? = some a → 0 < a.hold →
    s.locked = true ∧
      ∀ (j : Nat) (b : Stage), s.stages[j]? = some b → 0 < b.hold → j = i

/-- A move keeps its thread inside or outside of the lock, or takes the lock
while it is free, or leaves it. -/
theorem Hop.lock_cases
    (h : Hop horizon s i a t)
    (ha : s.stages[i]? = some a) :
    ∃ b, t.stages[i]? = some b ∧
      ((0 < a.hold ∧ t.locked = s.locked) ∨
        (a.hold = 0 ∧ b.hold = 0 ∧ t.locked = s.locked) ∨
        (s.locked = false ∧ t.locked = true) ∨
        (0 < a.hold ∧ b.hold = 0)) := by
  have hlt := (List.getElem?_eq_some_iff.1 ha).1
  have hput : ∀ b : Stage, (s.stages.set i b)[i]? = some b :=
    fun b => List.getElem?_set_self hlt
  cases h with
  | call c => cases c <;> exact ⟨_, hput _, .inr (.inl ⟨rfl, rfl, rfl⟩)⟩
  | take hinside hfree => exact ⟨_, hput _, .inr (.inr (.inl ⟨hfree, rfl⟩))⟩
  | raise => exact ⟨_, hput _, .inl ⟨by decide, rfl⟩⟩
  | rouse =>
      have hlt' : i < (s.stages.map Stage.rouse).length := by rwa [List.length_map]
      exact ⟨_, List.getElem?_set_self hlt', .inl ⟨by decide, rfl⟩⟩
  | free => exact ⟨_, hput _, .inr (.inr (.inr ⟨by decide, rfl⟩))⟩
  | measure d => exact ⟨_, hput _, .inl ⟨Nat.succ_pos _, rfl⟩⟩
  | see deadline hraised => exact ⟨_, hput _, .inl ⟨Nat.succ_pos _, rfl⟩⟩
  | park deadline hraised => exact ⟨_, hput _, .inr (.inr (.inr ⟨Nat.succ_pos _, rfl⟩))⟩
  | slept deadline => exact ⟨_, hput _, .inr (.inr (.inr ⟨Nat.succ_pos _, rfl⟩))⟩
  | _ => exact ⟨_, hput _, .inr (.inl ⟨rfl, rfl, rfl⟩)⟩

/-- Other threads stay inside or outside of the lock. -/
theorem Hop.hold_frame
    (h : Hop horizon s i a t)
    {j : Nat} {b : Stage}
    (hne : i ≠ j)
    (hb : t.stages[j]? = some b) :
    ∃ b', s.stages[j]? = some b' ∧ b'.hold = b.hold := by
  rcases h.frame hne with heq | heq
  · exact ⟨b, heq ▸ hb, rfl⟩
  · rw [heq, Option.map_eq_some_iff] at hb
    obtain ⟨b', hb', rfl⟩ := hb
    exact ⟨b', hb', b'.hold_rouse.symm⟩

theorem Exclusive.hop
    (hs : s.Exclusive)
    (ha : s.stages[i]? = some a)
    (h : Hop horizon s i a t) :
    t.Exclusive := by
  obtain ⟨b, hb, hcases⟩ := h.lock_cases ha
  intro j c hc hhold
  by_cases hj : i = j
  · subst hj
    cases hb.symm.trans hc
    rcases hcases with ⟨hinside, hlocked⟩ | ⟨-, hout, -⟩ | ⟨hfree, hlocked⟩ | ⟨-, hout⟩
    · obtain ⟨hlocked', halone⟩ := hs i a ha hinside
      refine ⟨hlocked.trans hlocked', fun k d hd hholds => Decidable.byContradiction fun hne => ?_⟩
      obtain ⟨d', hd', hsame⟩ := h.hold_frame (Ne.symm hne) hd
      exact hne (halone k d' hd' (hsame ▸ hholds))
    · omega
    · refine ⟨hlocked, fun k d hd hholds => Decidable.byContradiction fun hne => ?_⟩
      obtain ⟨d', hd', hsame⟩ := h.hold_frame (Ne.symm hne) hd
      cases (hs k d' hd' (hsame ▸ hholds)).1.symm.trans hfree
    · omega
  · obtain ⟨c', hc', hsame⟩ := h.hold_frame hj hc
    obtain ⟨hlocked, halone⟩ := hs j c' hc' (hsame ▸ hhold)
    -- the thread that moves is outside, for only one is inside
    have hout : a.hold = 0 :=
      Nat.eq_zero_of_not_pos fun hpos => hj (halone i a ha hpos)
    rcases hcases with ⟨hinside, -⟩ | ⟨-, hout', hsame'⟩ | ⟨hfree, -⟩ | ⟨hinside, -⟩
    · omega
    · refine ⟨hsame'.trans hlocked, fun k d hd hholds => ?_⟩
      by_cases hk : i = k
      · subst hk
        cases hb.symm.trans hd
        omega
      · obtain ⟨d', hd', hhold'⟩ := h.hold_frame hk hd
        exact halone k d' hd' (hhold' ▸ hholds)
    · cases hfree.symm.trans hlocked
    · omega

theorem exclusive_of_play?
    {threads : Nat} {actions : List Action}
    (h : play? horizon (start threads) actions = some t) :
    t.Exclusive := by
  refine keeps_of_hop (fun _ hs => hs) (fun ha hhop hs => hs.hop ha hhop) h ?_
  -- at the start nobody is inside
  intro i a ha hhold
  rw [List.eq_of_mem_replicate (List.mem_of_getElem? ha)] at hhold
  cases hhold

end Exclusive

section Rousing

/-- A flag that is up has roused all threads, or is about to. -/
def Rousing (s : Shared) : Prop :=
  s.raised = true → s.Cleared ∨ ∃ j : Nat, s.stages[j]? = some .fireRouse

theorem Rousing.hop
    (hs : s.Rousing)
    (ha : s.stages[i]? = some a)
    (h : Hop horizon s i a t) :
    t.Rousing := by
  intro hraised
  cases hup : s.raised with
  | false => exact .inr ⟨i, h.rouse_of_raises ha hup hraised⟩
  | true =>
      rcases hs hup with hcleared | ⟨j, hj⟩
      · exact .inl (hcleared.hop h)
      · by_cases hij : i = j
        · subst hij
          cases ha.symm.trans hj
          cases h with
          | take hinside hfree => cases hinside
          | rouse => exact .inl (cleared_of_rouse hup)
        · exact .inr ⟨j, h.frame_of_rouse hij hj rfl⟩

theorem rousing_of_play?
    {threads : Nat} {actions : List Action}
    (h : play? horizon (start threads) actions = some t) :
    t.Rousing := by
  refine keeps_of_hop (fun _ hs hraised => ?_) (fun ha hhop hs => hs.hop ha hhop) h nofun
  exact (hs hraised).imp_left fun hcleared => ⟨hcleared.raised, hcleared.awake⟩

/-- With the flag up and no firing inside the lock, nobody is parked. -/
theorem Rousing.cleared
    (hs : s.Rousing)
    (hraised : s.raised = true)
    (hnone : ∀ b ∈ s.stages, b.fires = false) :
    s.Cleared := by
  rcases hs hraised with hcleared | ⟨j, hj⟩
  · exact hcleared
  · cases hnone _ (List.mem_of_getElem? hj)

end Rousing

section Sleeping

/-- A deadline that a sleep of length `d` found between two moments. -/
def Found (horizon : Nat) (d : Duration) (since now : Nat) (deadline : Option Nat) : Prop :=
  ∃ moment, since ≤ moment ∧ moment ≤ now ∧
    deadline = if moment + d.nanos ≤ horizon then some (moment + d.nanos) else none

/-- There is a deadline, and it has passed. -/
def Past (now : Nat) (deadline : Option Nat) : Prop :=
  ∃ moment, deadline = some moment ∧ moment ≤ now

/-- What a stage says of a blocking sleep of length `d` that was called at a
moment. -/
def Sleeping (horizon : Nat) (d : Duration) (since : Nat) (s : Shared) : Stage → Prop
  | .sleepLock e | .sleepMeasure e => e = d
  | .sleepTest deadline | .parked deadline => Found horizon d since s.now deadline
  | .roused deadline expired =>
    Found horizon d since s.now deadline ∧ (expired = true → Past s.now deadline)
  | .sleepAnswer deadline =>
    Found horizon d since s.now deadline ∧ (s.raised = false → Past s.now deadline)
  | _ => False

variable {d : Duration} {since : Nat} {deadline : Option Nat}

theorem Found.mono
    {now later : Nat}
    (h : Found horizon d since now deadline)
    (hle : now ≤ later) :
    Found horizon d since later deadline := by
  obtain ⟨moment, hsince, hnow, heq⟩ := h
  exact ⟨moment, hsince, Nat.le_trans hnow hle, heq⟩

theorem Past.mono
    {now later : Nat}
    (h : Past now deadline)
    (hle : now ≤ later) :
    Past later deadline := by
  obtain ⟨moment, heq, hnow⟩ := h
  exact ⟨moment, heq, Nat.le_trans hnow hle⟩

/-- What is known of a sleep stays true while others move and time passes, also
when it is roused. -/
theorem Sleeping.mono
    (h : s.Sleeping horizon d since a)
    (hnow : s.now ≤ t.now)
    (hraised : s.raised = true → t.raised = true) :
    t.Sleeping horizon d since a ∧ t.Sleeping horizon d since a.rouse := by
  cases a with
  | sleepLock e => exact ⟨h, h⟩
  | sleepMeasure e => exact ⟨h, h⟩
  | sleepTest deadline => exact ⟨Found.mono h hnow, Found.mono h hnow⟩
  | parked deadline => exact ⟨Found.mono h hnow, Found.mono h hnow, fun hno => by cases hno⟩
  | roused deadline expired =>
      have := And.intro (h.1.mono hnow) fun hexpired => (h.2 hexpired).mono hnow
      exact ⟨this, this⟩
  | sleepAnswer deadline =>
      have hpast : t.raised = false → Past t.now deadline := by
        intro hdown
        refine (h.2 ?_).mono hnow
        cases hup : s.raised with
        | false => rfl
        | true => exact (hraised hup).symm.trans hdown
      exact ⟨⟨h.1.mono hnow, hpast⟩, h.1.mono hnow, hpast⟩
  | _ => cases h

/-- No move takes time. -/
theorem Hop.now_eq
    (h : Hop horizon s i a t) :
    t.now = s.now := by
  cases h with
  | call c => cases c <;> rfl
  | _ => rfl

/-- The stage that a thread was moved to is the one where it stands. -/
theorem eq_of_getElem?_set
    {stages : List Stage} {b c : Stage}
    (hlt : i < stages.length)
    (h : (stages.set i c)[i]? = some b) :
    c = b :=
  Option.some.inj ((List.getElem?_set_self hlt).symm.trans h)

/-- A move from one stage of a blocking sleep to the next keeps what they say. -/
theorem Sleeping.hop
    {b : Stage}
    (hs : s.Sleeping horizon d since a)
    (hsince : since ≤ s.now)
    (ha : s.stages[i]? = some a)
    (h : Hop horizon s i a t)
    (hb : t.stages[i]? = some b)
    (hsleeps : b.sleeps = true) :
    t.Sleeping horizon d since b := by
  have hlt := (List.getElem?_eq_some_iff.1 ha).1
  cases h with
  | @take _ c hinside hfree =>
      cases eq_of_getElem?_set hlt hb
      cases a <;> cases hinside
      · cases hsleeps
      · exact hs
      · rename_i deadline expired
        cases expired with
        | true => exact ⟨hs.1, fun _ => hs.2 rfl⟩
        | false => exact hs.1
  | measure e =>
      cases eq_of_getElem?_set hlt hb
      cases hs
      exact ⟨s.now, hsince, Nat.le_refl _, rfl⟩
  | see deadline hraised =>
      cases eq_of_getElem?_set hlt hb
      exact ⟨hs, fun hdown => by cases hraised.symm.trans hdown⟩
  | park deadline hraised =>
      cases eq_of_getElem?_set hlt hb
      exact hs
  | stir deadline =>
      cases eq_of_getElem?_set hlt hb
      exact ⟨hs, fun hno => by cases hno⟩
  | expire deadline hpast =>
      cases eq_of_getElem?_set hlt hb
      exact ⟨hs, fun _ => ⟨deadline, rfl, hpast⟩⟩
  | slept deadline =>
      cases eq_of_getElem?_set hlt hb
      cases hsleeps
  | _ => cases hs

/-- All that an idle thread does is call. -/
theorem call_of_idle
    {m : Move}
    (h : act? horizon s (.move i m) = some t)
    (hidle : s.stages[i]? = some .idle) :
    ∃ c, m = .call c ∧ t = s.begin i c := by
  simp only [act?, hidle] at h
  cases m with
  | call c =>
      simp only [if_true] at h
      cases h
      exact ⟨c, rfl, rfl⟩
  | _ => cases h

/-- Only an idle thread calls. -/
theorem idle_of_call
    {c : Call}
    (h : act? horizon s (.move i (.call c)) = some t)
    (ha : s.stages[i]? = some a) :
    a = .idle := by
  simp only [act?, ha] at h
  split at h
  · assumption
  · cases h

/-- A call that leads into a blocking sleep is a call of it. -/
theorem sleeps_begin
    {b : Stage} {c : Call}
    (hlt : i < s.stages.length)
    (hb : (s.begin i c).stages[i]? = some b)
    (hsleeps : b.sleeps = true) :
    ∃ d, c = .sleep d ∧ b = .sleepLock d := by
  cases c with
  | sleep d =>
      cases eq_of_getElem?_set hlt hb
      exact ⟨d, rfl, rfl⟩
  | _ =>
      cases eq_of_getElem?_set hlt hb
      cases hsleeps

/-- A move that leads into a blocking sleep is a call, or a move of the sleep. -/
theorem Hop.sleeps_cases
    {b : Stage}
    (ha : s.stages[i]? = some a)
    (h : Hop horizon s i a t)
    (hb : t.stages[i]? = some b)
    (hsleeps : b.sleeps = true) :
    a = .idle ∨ a.sleeps = true := by
  have hlt := (List.getElem?_eq_some_iff.1 ha).1
  cases h with
  | call c => exact .inl rfl
  | take hinside hfree =>
      cases eq_of_getElem?_set hlt hb
      cases a <;> cases hinside
      · cases hsleeps
      · exact .inr rfl
      · exact .inr rfl
  | rouse =>
      cases eq_of_getElem?_set ((List.length_map _).symm ▸ hlt) hb
      cases hsleeps
  | measure | see | park | stir | expire | slept => exact .inr rfl
  | _ =>
      cases eq_of_getElem?_set hlt hb
      cases hsleeps

/-- The sleep of thread `i` that is under way after a run began at a call of the
run, and this is what its stage says of it since. -/
inductive Began (horizon threads i : Nat) (t : Shared) (a : Stage) : List Action → Prop
  | at_call {earlier during : List Action} {d : Duration} {called : Shared}
      (alone : ∀ c, .move i (.call c) ∉ during)
      (reached : play? horizon (start threads) earlier = some called)
      (since : called.now ≤ t.now)
      (sleeping : t.Sleeping horizon d called.now a) :
      Began horizon threads i t a (earlier ++ .move i (.call (.sleep d)) :: during)

variable {threads : Nat} {actions : List Action} {action : Action} {u : Shared}

/-- Time does not go back. -/
theorem now_le_of_act?
    (h : act? horizon s action = some t) :
    s.now ≤ t.now := by
  cases action with
  | pass time =>
      cases h
      exact Nat.le_add_right _ _
  | move i m =>
      obtain ⟨a, -, hhop⟩ := hop_of_act? h
      exact Nat.le_of_eq hhop.now_eq.symm

/-- A sleep goes on with an action that begins no other call of its thread. -/
theorem Began.snoc
    {b : Stage}
    (h : Began horizon threads i t a actions)
    (hact : act? horizon t action = some u)
    (hother : ∀ c, action ≠ .move i (.call c))
    (hkeeps : ∀ {d since}, since ≤ t.now →
      t.Sleeping horizon d since a → u.Sleeping horizon d since b) :
    Began horizon threads i u b (actions ++ [action]) := by
  cases h with
  | @at_call earlier during d called alone reached since sleeping =>
      rw [List.append_assoc, List.cons_append]
      refine .at_call (fun c hc => ?_) reached (Nat.le_trans since (now_le_of_act? hact))
        (hkeeps since sleeping)
      rcases List.mem_append.1 hc with hc | hc
      · exact alone c hc
      · exact hother c (List.mem_singleton.1 hc).symm

/-- An action goes on with the blocking sleeps that are under way, or begins one. -/
theorem began_of_act?
    (hs : ∀ {i : Nat} {a : Stage}, s.stages[i]? = some a → a.sleeps = true →
      Began horizon threads i s a actions)
    (hplay : play? horizon (start threads) actions = some s)
    (hact : act? horizon s action = some t)
    (ha : t.stages[i]? = some a)
    (hsleeps : a.sleeps = true) :
    Began horizon threads i t a (actions ++ [action]) := by
  have hnow := now_le_of_act? hact
  cases action with
  | pass time =>
      cases hact
      refine (hs ha hsleeps).snoc rfl (fun c => nofun) fun _ hsleeping => ?_
      exact (Sleeping.mono hsleeping hnow id).1
  | move j m =>
      obtain ⟨b, hb, hhop⟩ := hop_of_act? hact
      by_cases hij : j = i
      · subst hij
        rcases hhop.sleeps_cases hb ha hsleeps with rfl | hbefore
        · obtain ⟨c, rfl, rfl⟩ := call_of_idle hact hb
          have hlt := (List.getElem?_eq_some_iff.1 hb).1
          obtain ⟨d, rfl, rfl⟩ := sleeps_begin hlt ha hsleeps
          exact .at_call (fun c => List.not_mem_nil) hplay hnow rfl
        · refine (hs hb hbefore).snoc hact ?_ fun hsince hsleeping => ?_
          · rintro c hc
            cases hc
            cases idle_of_call hact hb
            cases hbefore
          · exact hsleeping.hop hsince hb hhop ha hsleeps
      · -- somebody else moves, and may rouse the sleep
        have hother : ∀ c, Action.move j m ≠ .move i (.call c) := by
          rintro c ⟨⟩
          exact hij rfl
        rcases hhop.frame hij with heq | heq
        · rw [heq] at ha
          refine (hs ha hsleeps).snoc hact hother fun _ hsleeping => ?_
          exact (hsleeping.mono hnow hhop.raised).1
        · rw [heq, Option.map_eq_some_iff] at ha
          obtain ⟨a', ha', rfl⟩ := ha
          rw [Stage.sleeps_rouse] at hsleeps
          refine (hs ha' hsleeps).snoc hact hother fun _ hsleeping => ?_
          exact (hsleeping.mono hnow hhop.raised).2

/-- Every blocking sleep that is under way began in the run. -/
theorem began_of_play?
    (h : play? horizon (start threads) actions = some t)
    (ha : t.stages[i]? = some a)
    (hsleeps : a.sleeps = true) :
    Began horizon threads i t a actions := by
  -- on the run, from its last action back to its first
  induction actions using List.reverseRecOn generalizing i t a with
  | nil =>
      cases h
      rw [List.eq_of_mem_replicate (List.mem_of_getElem? ha)] at hsleeps
      cases hsleeps
  | append_singleton actions action ih =>
      obtain ⟨s, hs, hact⟩ := play?_snoc.1 h
      exact began_of_act? (fun hb => ih hs hb) hs hact ha hsleeps

/-- What holds when a blocking sleep answers. -/
theorem answering_of_act?
    {fired : Bool}
    (h : act? horizon t action = some u)
    (hanswers : u.answers = t.answers ++ [⟨i, .slept, fired⟩]) :
    t.raised = fired ∧ u.raised = fired ∧
      ∃ deadline, t.stages[i]? = some (.sleepAnswer deadline) := by
  cases action with
  | pass time =>
      cases h
      simp at hanswers
  | move j m =>
      obtain ⟨a, ha, hhop⟩ := hop_of_act? h
      rcases hhop.answers_cases with heq | ⟨deadline, rfl, heq⟩ | ⟨question, hne, heq⟩
      · simp [heq] at hanswers
      · simp only [heq, List.append_cancel_left_eq, List.cons.injEq, Answer.mk.injEq, true_and,
          and_true] at hanswers
        obtain ⟨rfl, rfl⟩ := hanswers
        cases hhop with
        | take hinside hfree => cases hinside
        | slept => exact ⟨rfl, rfl, deadline, ha⟩
      · simp only [heq, List.append_cancel_left_eq, List.cons.injEq, Answer.mk.injEq,
          and_true] at hanswers
        exact absurd hanswers.2.1 hne

end Sleeping

/-- Once the flag is up it stays up, and unless a firing is inside the lock
nobody is parked then.  A blocking sleep answers with the flag, alone inside the
lock.  It began at a call of the run and has found a deadline since, and it
answers that the flag is down only if there is such a deadline and it has passed. -/
theorem no_wakeup_lost_no_sleep_early
    {threads : Nat} {actions : List Action}
    (h : play? horizon (start threads) actions = some t) :
    (t.raised = true →
      (∀ later u, play? horizon t later = some u → u.raised = true) ∧
      ((∀ b ∈ t.stages, b.fires = false) →
        ∀ b ∈ t.stages, ∀ deadline, b ≠ .parked deadline)) ∧
    ∀ action u i fired,
      act? horizon t action = some u →
      u.answers = t.answers ++ [⟨i, .slept, fired⟩] →
      t.raised = fired ∧ u.raised = fired ∧
      t.locked = true ∧ (∀ j b, t.stages[j]? = some b → 0 < b.hold → j = i) ∧
      ∃ earlier during d called deadline,
        actions = earlier ++ .move i (.call (.sleep d)) :: during ∧
        (∀ c, .move i (.call c) ∉ during) ∧
        play? horizon (start threads) earlier = some called ∧
        t.stages[i]? = some (.sleepAnswer deadline) ∧
        Found horizon d called.now t.now deadline ∧
        (fired = false → Past t.now deadline) := by
  refine ⟨fun hraised => ⟨fun later u hu => raised_of_play? hu hraised, fun hnone => ?_⟩, ?_⟩
  · exact ((rousing_of_play? h).cleared hraised hnone).awake
  · intro action u i fired hact hanswers
    obtain ⟨hfired, hafter, deadline, ha⟩ := answering_of_act? hact hanswers
    obtain ⟨hlocked, halone⟩ := exclusive_of_play? h i _ ha (Nat.succ_pos _)
    refine ⟨hfired, hafter, hlocked, halone, ?_⟩
    cases began_of_play? h ha rfl with
    | @at_call earlier during d called hthen hreached hsince hsleeping =>
        refine ⟨earlier, during, d, called, deadline, rfl, hthen, hreached, ha, hsleeping.1, ?_⟩
        exact fun hdown => hsleeping.2 (hfired.trans hdown)

/-- A sleep of five nanoseconds parks, goes on for no reason, parks again, and
goes on when its time is over. -/
def stirredThenLate : List Action :=
  .move 0 (.call (.sleep (.ofNanos 5))) :: List.replicate 3 (.move 0 .next) ++
    [.pass 2, .move 0 .stir, .move 0 .next, .move 0 .next] ++
    [.pass 3, .move 0 .expire, .move 0 .next]

/-- The sleep before its answer. -/
def late : Shared :=
  ⟨5, true, false, false, [.sleepAnswer (some 5), .idle], []⟩

/-- The same sleep parks, the second thread fires until it comes back, and the
sleep goes on. -/
def parkedThenFired : List Action :=
  .move 0 (.call (.sleep (.ofNanos 5))) :: List.replicate 3 (.move 0 .next) ++
    .move 1 (.call .fire) :: (List.replicate 5 (.move 1 .next) ++
      List.replicate 2 (.move 0 .next))

/-- The sleep before its answer, after the firing. -/
def rousedByFiring : Shared :=
  ⟨0, true, true, true, [.sleepAnswer (some 5), .idle], []⟩

/-- A sleep that was roused for no reason runs into its deadline all the same.  One
that a firing has roused answers at once that the flag is up, and from then on
nobody is parked and the flag stays up. -/
theorem no_wakeup_lost_of_fired_no_sleep_early_of_stirred :
    (play? 1000 (start 2) stirredThenLate = some late ∧
      ∃ u, act? 1000 late (.move 0 .next) = some u ∧
        u.answers = late.answers ++ [⟨0, .slept, false⟩] ∧
        ∃ d since deadline,
          Found 1000 d since late.now deadline ∧ Past late.now deadline) ∧
    play? 1000 (start 2) parkedThenFired = some rousedByFiring ∧
      rousedByFiring.Fired ∧
      (∀ later u, play? 1000 rousedByFiring later = some u → u.raised = true) ∧
      (∀ b ∈ rousedByFiring.stages, ∀ deadline, b ≠ .parked deadline) ∧
      ∃ u, act? 1000 rousedByFiring (.move 0 .next) = some u ∧
        u.answers = rousedByFiring.answers ++ [⟨0, .slept, true⟩] ∧ u.raised = true ∧
        ∃ d since deadline, Found 1000 d since rousedByFiring.now deadline ∧
          ¬Past rousedByFiring.now deadline := by
  have hlate : play? 1000 (start 2) stirredThenLate = some late := rfl
  have hroused : play? 1000 (start 2) parkedThenFired = some rousedByFiring := rfl
  obtain ⟨-, -, -, -, earlier, during, d, called, deadline, -, -, -, -, hfound, hpast⟩ :=
    (no_wakeup_lost_no_sleep_early hlate).2 (.move 0 .next) _ 0 false rfl rfl
  obtain ⟨hup, hanswer⟩ := no_wakeup_lost_no_sleep_early hroused
  obtain ⟨hstays, hawake⟩ := hup rfl
  obtain ⟨-, hafter, -, -, earlier', during', d', called', deadline', -, -, -, ha, hfound', -⟩ :=
    hanswer (.move 0 .next) _ 0 true rfl rfl
  -- its deadline is five, and no time has passed
  have hahead : ¬Past rousedByFiring.now deadline' := by
    cases ha
    rintro ⟨moment, ⟨⟩, hle⟩
    cases hle
  exact ⟨⟨hlate, _, rfl, rfl, d, called.now, deadline, hfound, hpast rfl⟩, hroused,
    fired_of_comes_back (i := 1) hroused rfl, hstays, hawake (by decide),
    _, rfl, rfl, hafter, d', called'.now, deadline', hfound', hahead⟩

end Shared
end Signal
end BoundedWait

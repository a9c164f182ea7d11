import BoundedWait.Signal.Shared

/-!
# What one move of a thread does to a signal

A move takes one thread from its stage to the next one.  `Hop` lists all moves
by the stage that they start from, with what each needs and what it changes;
later proofs go by this list and do not open `act?`.

From it follows what holds in every state that a run reaches (`Sound`): a lock
that is taken has a holder, and once a firing has roused the parked threads the
flag is up and nobody parks any more.
-/

namespace BoundedWait
namespace Signal

namespace Stage

/-- Where a call stands after it has taken the lock, if it waits for the lock. -/
def inside? : Stage → Option Stage
  | fireLock => some fireRaise
  | sleepLock d => some (sleepMeasure d)
  | roused deadline expired =>
    some (if expired then sleepAnswer deadline else sleepTest deadline)
  | _ => none

/-- How many more moves a thread makes before it frees the lock, if it has it
and the flag is up. -/
def hold : Stage → Nat
  | fireRaise | sleepMeasure _ => 3
  | fireRouse | sleepTest _ => 2
  | fireFree | sleepAnswer _ => 1
  | _ => 0

theorem hold_pos_of_inside?
    {a b : Stage}
    (h : a.inside? = some b) :
    0 < b.hold := by
  cases a <;> cases h
  · decide
  · exact Nat.succ_pos _
  · rename_i expired
    cases expired <;> exact Nat.succ_pos _

theorem hold_le
    (a : Stage) :
    a.hold ≤ 3 := by
  cases a <;> simp [hold]

theorem rouse_ne_parked
    (a : Stage) (deadline : Option Nat) :
    a.rouse ≠ parked deadline := by
  cases a <;> intro h <;> cases h

end Stage

namespace Shared

/-- One move of thread `i`, by the stage that it starts from. -/
inductive Hop (horizon : Nat) (s : Shared) (i : Nat) : Stage → Shared → Prop
  | call (c : Call) :
      Hop horizon s i .idle (s.begin i c)
  | take {a b : Stage}
      (hinside : a.inside? = some b)
      (hfree : s.locked = false) :
      Hop horizon s i a { s.put i b with locked := true }
  | raise :
      Hop horizon s i .fireRaise { s.put i .fireRouse with raised := true }
  | rouse :
      Hop horizon s i .fireRouse
        { s with stages := (s.stages.map Stage.rouse).set i .fireFree }
  | free :
      Hop horizon s i .fireFree { s.put i .fireToken with locked := false }
  | token :
      Hop horizon s i .fireToken { s.put i .idle with token := true }
  | measure (d : Duration) :
      Hop horizon s i (.sleepMeasure d) (s.put i (.sleepTest (s.deadline? horizon d)))
  | see (deadline : Option Nat)
      (hraised : s.raised = true) :
      Hop horizon s i (.sleepTest deadline) (s.put i (.sleepAnswer deadline))
  | park (deadline : Option Nat)
      (hraised : s.raised = false) :
      Hop horizon s i (.sleepTest deadline)
        { s.put i (.parked deadline) with locked := false }
  | stir (deadline : Option Nat) :
      Hop horizon s i (.parked deadline) (s.put i (.roused deadline false))
  | expire (deadline : Nat)
      (hpast : deadline ≤ s.now) :
      Hop horizon s i (.parked (some deadline)) (s.put i (.roused (some deadline) true))
  | slept (deadline : Option Nat) :
      Hop horizon s i (.sleepAnswer deadline)
        { s.answer i .slept s.raised with locked := false }
  | called (ends : Nat)
      (htoken : s.token = true) :
      Hop horizon s i (.nap ends) (s.answer i .napped true)
  | lapse (ends : Nat)
      (hpast : ends ≤ s.now) :
      Hop horizon s i (.nap ends) (s.put i .napAnswer)
  | napped :
      Hop horizon s i .napAnswer (s.answer i .napped s.token)

section Inversion

variable {horizon i : Nat} {s t : Shared} {a : Stage}

theorem take?_eq_some_iff
    {b : Stage} :
    s.take? i b = some t ↔
      s.locked = false ∧ t = { s.put i b with locked := true } := by
  cases hlocked : s.locked <;> simp [take?, hlocked, eq_comm]

theorem hop_of_advance?
    (h : s.advance? horizon i a = some t) :
    Hop horizon s i a t := by
  cases a with
  | idle => cases h
  | fireLock =>
      obtain ⟨hfree, rfl⟩ := take?_eq_some_iff.1 h
      exact .take rfl hfree
  | fireRaise =>
      cases h
      exact .raise
  | fireRouse =>
      cases h
      exact .rouse
  | fireFree =>
      cases h
      exact .free
  | fireToken =>
      cases h
      exact .token
  | sleepLock d =>
      obtain ⟨hfree, rfl⟩ := take?_eq_some_iff.1 h
      exact .take rfl hfree
  | sleepMeasure d =>
      cases h
      exact .measure d
  | sleepTest deadline =>
      cases hraised : s.raised with
      | true =>
          simp only [advance?, hraised, if_true, Option.some.injEq] at h
          subst h
          exact .see deadline hraised
      | false =>
          simp only [advance?, hraised, Bool.false_eq_true, if_false, Option.some.injEq] at h
          subst h
          exact .park deadline hraised
  | parked deadline => cases h
  | roused deadline expired =>
      obtain ⟨hfree, rfl⟩ := take?_eq_some_iff.1 h
      exact .take rfl hfree
  | sleepAnswer deadline =>
      cases h
      exact .slept deadline
  | nap ends =>
      simp only [advance?] at h
      split at h
      · cases h
        exact .called ends ‹_›
      · cases h
  | napAnswer =>
      cases h
      exact .napped

/-- Every move is one of the list. -/
theorem hop_of_act?
    {m : Move}
    (h : act? horizon s (.move i m) = some t) :
    ∃ a, s.stages[i]? = some a ∧ Hop horizon s i a t := by
  simp only [act?] at h
  split at h
  · cases h
  · rename_i a ha
    refine ⟨a, ha, ?_⟩
    cases m with
    | call c =>
        simp only at h
        split at h
        · rename_i hidle
          cases h
          exact hidle ▸ .call c
        · cases h
    | next => exact hop_of_advance? h
    | stir =>
        cases a <;> cases h
        exact .stir _
    | expire =>
        simp only [expire?] at h
        split at h
        · split at h <;> cases h
          exact .expire _ ‹_›
        · split at h <;> cases h
          exact .lapse _ ‹_›
        · cases h

/-- A move sets the stage of its thread, and only a firing changes others: it
rouses them. -/
theorem Hop.stages_eq
    (h : Hop horizon s i a t) :
    ∃ b, t.stages = s.stages.set i b ∨ t.stages = (s.stages.map Stage.rouse).set i b := by
  cases h with
  | call c => cases c <;> exact ⟨_, .inl rfl⟩
  | rouse => exact ⟨_, .inr rfl⟩
  | _ => exact ⟨_, .inl rfl⟩

/-- To another thread a move does nothing, or rouses it. -/
theorem Hop.frame
    (h : Hop horizon s i a t)
    {j : Nat} (hne : i ≠ j) :
    t.stages[j]? = s.stages[j]? ∨ t.stages[j]? = s.stages[j]?.map Stage.rouse := by
  obtain ⟨b, hset | hset⟩ := h.stages_eq
  · rw [hset, List.getElem?_set_ne hne]
    exact .inl rfl
  · rw [hset, List.getElem?_set_ne hne, List.getElem?_map]
    exact .inr rfl

/-- A thread that firings leave alone stands still while others move. -/
theorem Hop.frame_of_rouse
    (h : Hop horizon s i a t)
    {j : Nat} {b : Stage}
    (hne : i ≠ j)
    (hb : s.stages[j]? = some b)
    (hsame : b.rouse = b) :
    t.stages[j]? = some b := by
  rcases h.frame hne with heq | heq
  · exact heq.trans hb
  · rw [heq, hb, Option.map_some, hsame]

/-- A move answers at most one question: that of a blocking sleep with the flag,
and all others with the token. -/
theorem Hop.answers_cases
    (h : Hop horizon s i a t) :
    t.answers = s.answers ∨
      (∃ deadline, a = .sleepAnswer deadline ∧
        t.answers = s.answers ++ [⟨i, .slept, s.raised⟩]) ∨
      ∃ question, question ≠ .slept ∧ t.answers = s.answers ++ [⟨i, question, s.token⟩] := by
  cases h with
  | call c =>
      cases c with
      | ask => exact .inr (.inr ⟨.asked, nofun, rfl⟩)
      | _ => exact .inl rfl
  | slept deadline => exact .inr (.inl ⟨deadline, rfl, rfl⟩)
  | called ends htoken => exact .inr (.inr ⟨.napped, nofun, htoken ▸ rfl⟩)
  | napped => exact .inr (.inr ⟨.napped, nofun, rfl⟩)
  | _ => exact .inl rfl

end Inversion

/-- The flag is up, and no thread is parked. -/
structure Cleared (s : Shared) : Prop where
  raised : s.raised = true
  awake : ∀ b ∈ s.stages, ∀ deadline, b ≠ .parked deadline

/-- What holds while a thread stands at a stage of a firing. -/
def Claim (s : Shared) : Stage → Prop
  | .fireRouse => s.raised = true
  | .fireFree | .fireToken => s.Cleared
  | _ => True

/-- A thread that has the lock stands at one of the stages. -/
def Holder (stages : List Stage) : Prop :=
  ∃ (j : Nat) (b : Stage), stages[j]? = some b ∧ 0 < b.hold

/-- What holds of every state of a run. -/
structure Sound (s : Shared) : Prop where
  held : s.locked = true → Holder s.stages
  claims : ∀ b ∈ s.stages, s.Claim b
  fired : s.token = true → s.Cleared

section Cleared

variable {horizon i : Nat} {s t : Shared} {a : Stage}

theorem forall_mem_set
    {P : Stage → Prop} {stages : List Stage} {b : Stage}
    (hstages : ∀ x ∈ stages, P x)
    (hb : P b) :
    ∀ x ∈ stages.set i b, P x := by
  intro x hx
  rcases List.mem_or_eq_of_mem_set hx with hx | rfl
  · exact hstages x hx
  · exact hb

/-- A firing clears the signal when it rouses the parked threads. -/
theorem cleared_of_rouse
    (hraised : s.raised = true) :
    Cleared { s with stages := (s.stages.map Stage.rouse).set i .fireFree } := by
  refine ⟨hraised, forall_mem_set ?_ (by simp)⟩
  intro x hx
  obtain ⟨b, -, rfl⟩ := List.mem_map.1 hx
  exact b.rouse_ne_parked

/-- With the flag up nobody parks, so what is cleared stays cleared. -/
theorem Cleared.hop
    (hs : s.Cleared)
    (h : Hop horizon s i a t) :
    t.Cleared := by
  cases h with
  | call c =>
      refine ⟨(raised_begin s i c).trans hs.raised, ?_⟩
      cases c <;> exact forall_mem_set hs.awake (by simp)
  | @take _ b hinside hfree =>
      refine ⟨hs.raised, forall_mem_set hs.awake ?_⟩
      rintro deadline rfl
      cases Stage.hold_pos_of_inside? hinside
  | raise => exact ⟨rfl, forall_mem_set hs.awake (by simp)⟩
  | rouse => exact cleared_of_rouse hs.raised
  | park deadline hraised => cases hs.raised.symm.trans hraised
  | _ => exact ⟨hs.raised, forall_mem_set hs.awake (by simp)⟩

/-- No move lowers the flag. -/
theorem Hop.raised
    (h : Hop horizon s i a t)
    (hs : s.raised = true) :
    t.raised = true := by
  cases h with
  | call c => exact (raised_begin s i c).trans hs
  | raise => rfl
  | _ => exact hs

/-- Only a firing raises the flag, and it goes on to rouse the parked threads. -/
theorem Hop.rouse_of_raises
    (h : Hop horizon s i a t)
    (ha : s.stages[i]? = some a)
    (hdown : s.raised = false)
    (hraised : t.raised = true) :
    t.stages[i]? = some .fireRouse := by
  have hlt := (List.getElem?_eq_some_iff.1 ha).1
  cases h with
  | call c => cases ((raised_begin s i c).symm.trans hraised).symm.trans hdown
  | raise => exact List.getElem?_set_self hlt
  | _ => cases hraised.symm.trans hdown

/-- The claims of a firing last as long as the flag is up and nobody parks, and
rousing makes no claim. -/
theorem Claim.mono
    {b : Stage}
    (hb : s.Claim b)
    (hraised : s.raised = true → t.raised = true)
    (hcleared : s.Cleared → t.Cleared) :
    t.Claim b ∧ t.Claim b.rouse := by
  cases b with
  | fireRouse => exact ⟨hraised hb, hraised hb⟩
  | fireFree => exact ⟨hcleared hb, hcleared hb⟩
  | fireToken => exact ⟨hcleared hb, hcleared hb⟩
  | _ => exact ⟨trivial, trivial⟩

theorem Claim.hop
    {b : Stage}
    (hb : s.Claim b)
    (h : Hop horizon s i a t) :
    t.Claim b ∧ t.Claim b.rouse :=
  hb.mono h.raised fun hs => hs.hop h

theorem claim_of_inside?
    {b : Stage}
    (h : a.inside? = some b) :
    t.Claim b := by
  cases a <;> cases h
  · trivial
  · trivial
  · rename_i expired
    cases expired <;> trivial

/-- A move of a firing makes the claim of the stage that it leads to. -/
theorem Sound.claims_hop
    (hs : s.Sound)
    (ha : s.stages[i]? = some a)
    (h : Hop horizon s i a t) :
    ∀ b ∈ t.stages, t.Claim b := by
  have hlast : ∀ b ∈ s.stages, t.Claim b ∧ t.Claim b.rouse :=
    fun b hb => (hs.claims b hb).hop h
  have hold : ∀ b ∈ s.stages, t.Claim b := fun b hb => (hlast b hb).1
  have hmem := List.mem_of_getElem? ha
  cases h with
  | call c => cases c <;> exact forall_mem_set hold trivial
  | take hinside hfree => exact forall_mem_set hold (claim_of_inside? hinside)
  | raise => exact forall_mem_set hold rfl
  | rouse =>
      refine forall_mem_set ?_ (cleared_of_rouse (hs.claims _ hmem))
      intro x hx
      obtain ⟨b, hb, rfl⟩ := List.mem_map.1 hx
      exact (hlast b hb).2
  | free => exact forall_mem_set hold (hold .fireFree hmem)
  | _ => exact forall_mem_set hold trivial

/-- The holder of the lock keeps it until it frees it. -/
theorem Sound.held_hop
    (hs : s.Sound)
    (ha : s.stages[i]? = some a)
    (h : Hop horizon s i a t) :
    t.locked = true → Holder t.stages := by
  have hlt := (List.getElem?_eq_some_iff.1 ha).1
  -- either the thread that moves has the lock afterwards, or somebody else has it
  have hmine : ∀ b : Stage, 0 < b.hold → Holder (s.stages.set i b) :=
    fun b hb => ⟨i, b, List.getElem?_set_self hlt, hb⟩
  have htheirs : a.hold = 0 → s.locked = true → ∀ b, Holder (s.stages.set i b) := by
    intro hnone hlocked b
    obtain ⟨j, c, hc, hhold⟩ := hs.held hlocked
    refine ⟨j, c, ?_, hhold⟩
    rw [List.getElem?_set_ne, hc]
    rintro rfl
    cases ha.symm.trans hc
    omega
  intro hlocked
  cases h with
  | call c => cases c <;> exact htheirs rfl hlocked _
  | take hinside hfree => exact hmine _ (Stage.hold_pos_of_inside? hinside)
  | raise => exact hmine _ (by decide)
  | rouse =>
      have hlt' : i < (s.stages.map Stage.rouse).length := by rwa [List.length_map]
      exact ⟨i, .fireFree, List.getElem?_set_self hlt', by decide⟩
  | measure d => exact hmine _ (Nat.succ_pos _)
  | see deadline hraised => exact hmine _ (Nat.succ_pos _)
  | free => cases hlocked
  | park deadline hraised => cases hlocked
  | slept deadline => cases hlocked
  | _ => exact htheirs rfl hlocked _

/-- Only the last move of a firing fires the token. -/
theorem Hop.token_cases
    (h : Hop horizon s i a t) :
    t.token = s.token ∨ a = .fireToken := by
  cases h with
  | call c => cases c <;> exact .inl rfl
  | token => exact .inr rfl
  | _ => exact .inl rfl

/-- No move takes back the token. -/
theorem Hop.token_of_token
    (h : Hop horizon s i a t)
    (hs : s.token = true) :
    t.token = true := by
  cases h with
  | call c => cases c <;> exact hs
  | token => rfl
  | _ => exact hs

theorem Sound.hop
    (hs : s.Sound)
    (ha : s.stages[i]? = some a)
    (h : Hop horizon s i a t) :
    t.Sound := by
  refine ⟨hs.held_hop ha h, hs.claims_hop ha h, fun htoken => ?_⟩
  rcases h.token_cases with hsame | rfl
  · exact (hs.fired (hsame ▸ htoken)).hop h
  · exact Cleared.hop (hs.claims _ (List.mem_of_getElem? ha)) h

theorem sound_start (threads : Nat) :
    (start threads).Sound := by
  refine ⟨fun h => (by cases h), fun b hb => ?_, fun h => (by cases h)⟩
  rw [List.eq_of_mem_replicate hb]
  trivial

theorem Sound.act?
    {action : Action}
    (hs : s.Sound)
    (h : act? horizon s action = some t) :
    t.Sound := by
  cases action with
  | pass time =>
      cases h
      have hcleared : s.Cleared → Cleared { s with now := s.now + time } :=
        fun hs => ⟨hs.raised, hs.awake⟩
      exact ⟨hs.held, fun b hb => And.left (Claim.mono (hs.claims b hb) id hcleared),
        fun htoken => hcleared (hs.fired htoken)⟩
  | move i m =>
      obtain ⟨a, ha, hhop⟩ := hop_of_act? h
      exact hs.hop ha hhop

/-- Every state of a run is sound. -/
theorem Sound.play?
    {actions : List Action}
    (hs : s.Sound)
    (h : play? horizon s actions = some t) :
    t.Sound :=
  keeps_of_play? (fun hact hs => hs.act? hact) h hs

end Cleared

section Runs

variable {horizon : Nat} {s t : Shared} {action : Action} {actions : List Action}

/-- The first action of a run. -/
theorem play?_cons :
    play? horizon s (action :: actions) = some t ↔
      ∃ m, act? horizon s action = some m ∧ play? horizon m actions = some t := by
  simp [play?, Option.bind_eq_some_iff]

/-- A run in two parts. -/
theorem play?_append
    {later : List Action} :
    play? horizon s (actions ++ later) = some t ↔
      ∃ m, play? horizon s actions = some m ∧ play? horizon m later = some t := by
  simp [play?, List.foldlM_append, Option.bind_eq_some_iff]

/-- The last action of a run. -/
theorem play?_snoc :
    play? horizon s (actions ++ [action]) = some t ↔
      ∃ m, play? horizon s actions = some m ∧ act? horizon m action = some t := by
  rw [play?_append]
  simp [play?]

/-- What every move keeps, and time does not change, holds from then on. -/
theorem keeps_of_hop
    {P : Shared → Prop}
    (hpass : ∀ {s : Shared} (time : Nat), P s → P { s with now := s.now + time })
    (hmove : ∀ {s t : Shared} {i : Nat} {a : Stage},
      s.stages[i]? = some a → Hop horizon s i a t → P s → P t)
    (h : play? horizon s actions = some t)
    (hs : P s) :
    P t := by
  refine keeps_of_play? (fun {s t action} hact hs => ?_) h hs
  cases action with
  | pass time =>
      cases hact
      exact hpass time hs
  | move i m =>
      obtain ⟨a, ha, hhop⟩ := hop_of_act? hact
      exact hmove ha hhop hs

/-- A thread that can always take its next move, and comes nearer to some end by
it, gets there if it is let to. -/
theorem exists_countdown
    {P D : Shared → Prop} {f : Stage → Nat} {j : Nat} {b : Stage}
    (hnext : ∀ {s : Shared} {b : Stage}, P s → s.stages[j]? = some b → 0 < f b →
      ∃ c t, act? horizon s (.move j .next) = some t ∧ P t ∧ t.stages[j]? = some c ∧
        f c + 1 = f b ∧ (f c = 0 → D t))
    (hs : P s)
    (hb : s.stages[j]? = some b)
    (hpos : 0 < f b) :
    ∃ t, play? horizon s (List.replicate (f b) (.move j .next)) = some t ∧ P t ∧ D t := by
  -- on the moves that are left
  generalize hn : f b = n at hpos
  induction n generalizing s b with
  | zero => cases hpos
  | succ n ih =>
      obtain ⟨c, t, hact, ht, hc, hless, hdone⟩ := hnext hs hb (by omega)
      rcases Nat.eq_zero_or_pos n with rfl | hpos
      · exact ⟨t, play?_cons.2 ⟨t, hact, rfl⟩, ht, hdone (by omega)⟩
      · obtain ⟨u, hplay, hu⟩ := ih ht hc (by omega) hpos
        exact ⟨u, play?_cons.2 ⟨t, hact, hplay⟩, hu⟩

end Runs

end Shared
end Signal
end BoundedWait

import BoundedWait.Proofs.Signal.Fired

/-!
# The flag and the token of a signal

A firing raises the flag before it fires the token, and it has freed the lock in
between.  So the halves of a signal differ for a while: a blocking sleep may be
told of a firing that the token does not show yet.

* An answer `true` means that the flag is up, and unless it is that of a blocking
  sleep it means that the token has fired (`Told`).
* Between the two there is always a firing under way, and nothing keeps it from
  its end: a few moves of its own fire the token (`Stage.due`, `exists_token`).
* From then on nothing answers `false` any more (`Fired.heard`).
-/

namespace BoundedWait
namespace Signal

namespace Shared

variable {horizon i j : Nat} {s t : Shared} {a b : Stage}

section Told

/-- What the answers of a signal say about its halves, in every state of a run. -/
structure Told (s : Shared) : Prop where
  sound : s.Sound
  raised : ∀ answer ∈ s.answers, answer.fired = true → s.raised = true
  token : ∀ answer ∈ s.answers, answer.fired = true → answer.question ≠ .slept →
    s.token = true
  firing : s.raised = true →
    s.token = true ∨ ∃ (j : Nat) (b : Stage), s.stages[j]? = some b ∧ 0 < b.due

/-- An answer is an earlier one, or what the asked half says now. -/
theorem Hop.mem_answers
    {answer : Answer}
    (h : Hop horizon s i a t)
    (hmem : answer ∈ t.answers) :
    answer ∈ s.answers ∨
      (answer.question = .slept ∧ answer.fired = s.raised) ∨
      (answer.question ≠ .slept ∧ answer.fired = s.token) := by
  rcases h.answers_cases with heq | ⟨deadline, -, heq⟩ | ⟨question, hne, heq⟩
  · exact .inl (heq ▸ hmem)
  · rw [heq, List.mem_append, List.mem_singleton] at hmem
    rcases hmem with hmem | rfl
    · exact .inl hmem
    · exact .inr (.inl ⟨rfl, rfl⟩)
  · rw [heq, List.mem_append, List.mem_singleton] at hmem
    rcases hmem with hmem | rfl
    · exact .inl hmem
    · exact .inr (.inr ⟨hne, rfl⟩)

theorem Told.hop
    (hs : s.Told)
    (ha : s.stages[i]? = some a)
    (h : Hop horizon s i a t) :
    t.Told := by
  refine ⟨hs.sound.hop ha h, ?_, ?_, ?_⟩
  · intro answer hmem hfired
    refine h.raised ?_
    rcases h.mem_answers hmem with hmem | ⟨-, heq⟩ | ⟨-, heq⟩
    · exact hs.raised answer hmem hfired
    · exact heq.symm.trans hfired
    · exact (hs.sound.fired (heq.symm.trans hfired)).raised
  · intro answer hmem hfired hquestion
    refine h.token_of_token ?_
    rcases h.mem_answers hmem with hmem | ⟨hslept, -⟩ | ⟨-, heq⟩
    · exact hs.token answer hmem hfired hquestion
    · exact absurd hslept hquestion
    · exact heq.symm.trans hfired
  · intro hraised
    cases hup : s.raised with
    | false => exact .inr ⟨i, _, h.rouse_of_raises ha hup hraised, by decide⟩
    | true =>
        rcases hs.firing hup with htoken | ⟨j, b, hb, hdue⟩
        · exact .inl (h.token_of_token htoken)
        · have hfiring := Stage.inFiring_of_due_pos hdue
          refine (h.firing_or_token ha hb hfiring).imp_right fun ⟨c, hc, _, hstill⟩ => ?_
          exact ⟨j, c, hc, hstill hdue⟩

theorem told_start (threads : Nat) :
    (start threads).Told where
  sound := sound_start threads
  raised := nofun
  token := nofun
  firing := nofun

/-- The halves and the answers fit together in every state of a run. -/
theorem Told.play?
    {actions : List Action}
    (hs : s.Told)
    (h : play? horizon s actions = some t) :
    t.Told := by
  refine keeps_of_hop (fun {s} time hs => ?_) (fun ha hhop hs => hs.hop ha hhop) h hs
  have hpass : act? horizon s (.pass time) = some { s with now := s.now + time } := rfl
  exact ⟨hs.sound.act? hpass, hs.raised, hs.token, hs.firing⟩

end Told

section Token

/-- A firing that has raised the flag can always take its next move. -/
theorem exists_due_next
    (horizon : Nat)
    (hb : s.stages[j]? = some b)
    (hdue : 0 < b.due) :
    ∃ c t, act? horizon s (.move j .next) = some t ∧ t.stages[j]? = some c ∧
      c.due + 1 = b.due ∧ (c.due = 0 → t.token = true) := by
  have hlt := (List.getElem?_eq_some_iff.1 hb).1
  simp only [act?, hb]
  cases b with
  | fireRouse =>
      have hlt' : j < (s.stages.map Stage.rouse).length := by rwa [List.length_map]
      exact ⟨_, _, rfl, List.getElem?_set_self hlt', rfl, fun h => by cases h⟩
  | fireFree => exact ⟨_, _, rfl, List.getElem?_set_self hlt, rfl, fun h => by cases h⟩
  | fireToken => exact ⟨_, _, rfl, List.getElem?_set_self hlt, rfl, fun _ => rfl⟩
  | _ => cases hdue

/-- A firing that has raised the flag fires the token if it is let to. -/
theorem exists_token
    (horizon : Nat)
    (hb : s.stages[j]? = some b)
    (hdue : 0 < b.due) :
    ∃ t, play? horizon s (List.replicate b.due (.move j .next)) = some t ∧
      t.token = true := by
  have hnext : ∀ {s : Shared} {b : Stage}, True → s.stages[j]? = some b → 0 < b.due →
      ∃ c t, act? horizon s (.move j .next) = some t ∧ True ∧ t.stages[j]? = some c ∧
        c.due + 1 = b.due ∧ (c.due = 0 → t.token = true) := by
    intro s b _ hb hdue
    obtain ⟨c, t, hact, hc, hless, htoken⟩ := exists_due_next horizon hb hdue
    exact ⟨c, t, hact, trivial, hc, hless, htoken⟩
  obtain ⟨t, hplay, -, htoken⟩ := exists_countdown hnext trivial hb hdue
  exact ⟨t, hplay, htoken⟩

end Token

section Heard

/-- No answer is taken back. -/
theorem answers_subset_of_act?
    {action : Action}
    (h : act? horizon s action = some t) :
    s.answers ⊆ t.answers := by
  cases action with
  | pass time =>
      cases h
      exact fun _ hmem => hmem
  | move i m =>
      obtain ⟨a, -, hhop⟩ := hop_of_act? h
      rcases hhop.answers_cases with heq | ⟨deadline, -, heq⟩ | ⟨question, -, heq⟩ <;>
        simp [heq]

/-- All that is answered from one state to another is `true`. -/
def Heard (s t : Shared) : Prop :=
  ∃ answered, t.answers = s.answers ++ answered ∧ ∀ answer ∈ answered, answer.fired = true

theorem Heard.hop
    {u : Shared}
    (hs : s.Heard t)
    (ht : t.Fired)
    (h : Hop horizon t i a u) :
    s.Heard u := by
  obtain ⟨answered, heq, htrue⟩ := hs
  rcases h.answers_cases with hnext | ⟨deadline, -, hnext⟩ | ⟨question, -, hnext⟩
  · exact ⟨answered, hnext.trans heq, htrue⟩
  · refine ⟨answered ++ [⟨i, .slept, t.raised⟩], ?_, ?_⟩
    · rw [hnext, heq, List.append_assoc]
    · simpa [or_imp, forall_and, ht.cleared.raised] using htrue
  · refine ⟨answered ++ [⟨i, question, t.token⟩], ?_, ?_⟩
    · rw [hnext, heq, List.append_assoc]
    · simpa [or_imp, forall_and, ht.token] using htrue

/-- After a firing nothing answers `false`, whichever half is asked. -/
theorem Fired.heard
    {actions : List Action}
    (hs : s.Fired)
    (h : play? horizon s actions = some t) :
    t.Fired ∧ s.Heard t := by
  refine keeps_of_play? (P := fun t => t.Fired ∧ s.Heard t) ?_ h ⟨hs, [], by simp, nofun⟩
  rintro t u action hact ⟨ht, hheard⟩
  refine ⟨ht.act? hact, ?_⟩
  cases action with
  | pass time =>
      cases hact
      exact hheard
  | move i m =>
      obtain ⟨a, -, hhop⟩ := hop_of_act? hact
      exact hheard.hop ht hhop

end Heard

end Shared
end Signal
end BoundedWait

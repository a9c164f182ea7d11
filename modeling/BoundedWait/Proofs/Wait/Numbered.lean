import BoundedWait.Proofs.Wait.Exact

/-!
# Conditions that go by the number of the call

What a call brings, and how long it takes, is often given by its number alone.
Two waits for such a condition can be compared, be their plans and their worlds
as different as they may: until one of them ends, both are told the same.

* `World.timed` is the exact world in which calls take their time as well.
* `Unfolds.softCall_of_lt`: all calls before the last one bring soft faults.
* `Unfolds.ends_alike`: so a wait that makes no fewer calls than another one
  ends as that one does, unless that one timed out.
-/

namespace BoundedWait
namespace Wait

variable {σ τ α : Type}

/-- The world in which nothing takes time but sleeping and the calls.  Its state
is the time. -/
def World.timed (probe : Nat → Probe α) (lasts : Nat → Duration) (draw : Nat → Nat) :
    World Duration α where
  attempt n now := (⟨probe n, ⟨now.add (lasts n), false⟩, draw n⟩, now.add (lasts n))
  sleep _ delay now := (⟨now.add delay, false⟩, now.add delay)

/-- The call of a number brings a soft fault. -/
def SoftCall (c : Classifier) (probe : Nat → Probe α) (k : Nat) : Prop :=
  ∃ fault, probe k = .error fault ∧ c.classify fault = .soft

/-- Rounds in which every call brings what its number says. -/
def Numbered (probe : Nat → Probe α) (rounds : List (Round α)) : Prop :=
  ∀ round ∈ rounds, round.answer.probe = probe round.number

section Numbered

variable {w : World σ α} {p : Plan} {c : Classifier} {probe : Nat → Probe α}

/-- In a world that answers by the number of the call, so do all rounds. -/
theorem Unfolds.numbered
    {made : Nat} {s : σ} {rounds : List (Round α)} {r : Run σ α}
    (h : Unfolds w p c made s rounds r)
    (hprobe : ∀ n s, (w.attempt n s).1.probe = probe n) :
    Numbered probe rounds :=
  h.forall_answers (P := fun n answer => answer.probe = probe n) hprobe

/-- A wait goes on after soft faults only. -/
theorem Unfolds.softCall_of_lt
    {s : σ} {earlier : List (Round α)} {last : Round α} {r : Run σ α} {k : Nat}
    (h : Unfolds w p c 0 s (earlier ++ [last]) r)
    (hnumbered : Numbered probe (earlier ++ [last]))
    (hk : 0 < k)
    (hlt : k < last.number) :
    SoftCall c probe k := by
  obtain ⟨round, hround, rfl⟩ := h.exists_earlier hk hlt
  obtain ⟨before, after, rfl⟩ := List.append_of_mem hround
  rw [List.append_assoc, List.cons_append] at h hnumbered
  obtain ⟨fault, nap, hsleeps, -⟩ := h.continues_of_split (by simp)
  have hprobe := hnumbered round (by simp)
  exact ⟨fault, hprobe.symm.trans hsleeps.pending.probe_eq, hsleeps.pending.soft⟩

/-- Two waits for the same condition, of which the second makes no fewer calls:
a value or a fatal fault that ends the first ends the second at the same call. -/
theorem Unfolds.ends_alike
    {w' : World τ α} {q : Plan} {s : σ} {s' : τ} {rounds rounds' : List (Round α)}
    {r : Run σ α} {r' : Run τ α}
    (h : Unfolds w p c 0 s rounds r)
    (h' : Unfolds w' q c 0 s' rounds' r')
    (hnumbered : Numbered probe rounds)
    (hnumbered' : Numbered probe rounds')
    (hle : rounds.length ≤ rounds'.length) :
    (∀ value, r.outcome = .success value →
      r'.outcome = .success value ∧ rounds'.length = rounds.length) ∧
    ∀ fault n elapsed, r.outcome = .aborted fault n elapsed →
      (∃ elapsed', r'.outcome = .aborted fault n elapsed') ∧
        n = rounds.length ∧ rounds'.length = rounds.length := by
  obtain ⟨earlier, last, event, rfl, -, hends, -⟩ := h.ending
  obtain ⟨earlier', last', event', rfl, -, hends', -⟩ := h'.ending
  have hprobe := hnumbered last (by simp)
  have hprobe' := hnumbered' last' (by simp)
  rw [← h.number_last, ← h'.number_last] at hle ⊢
  -- Had the second wait gone on, the call would have brought a soft fault.
  have hsame : ¬ SoftCall c probe last.number → last'.number = last.number := by
    intro hended
    refine Nat.le_antisymm (Nat.le_of_not_lt fun hlt => ?_) hle
    exact hended (h'.softCall_of_lt hnumbered' h.number_pos hlt)
  rw [hends.outcome_eq.1, hends'.outcome_eq.1]
  refine ⟨fun value hsuccess => ?_, fun fault n elapsed habort => ?_⟩
  · have hready := hprobe.symm.trans ((conclusion_eq_success_iff c _ _).1 hsuccess)
    have hnumber := hsame fun ⟨_, hfault, _⟩ => by
      cases hready.symm.trans hfault
    rw [hnumber, hready] at hprobe'
    exact ⟨(conclusion_eq_success_iff c _ _).2 hprobe', hnumber⟩
  · obtain ⟨hfault, hfatal, rfl, rfl⟩ := (conclusion_eq_aborted_iff c _ _).1 habort
    have hbroken := hprobe.symm.trans hfault
    have hnumber := hsame fun ⟨_, hfault', hsoft⟩ => by
      cases hbroken.symm.trans hfault'
      cases hfatal.symm.trans hsoft
    rw [hnumber, hbroken] at hprobe'
    exact ⟨⟨_, (conclusion_eq_aborted_iff c _ _).2 ⟨hprobe', hfatal, hnumber.symm, rfl⟩⟩,
      rfl, hnumber⟩

end Numbered

/-- A condition that holds from the call of a number on. -/
def heldFrom (first n : Nat) : Probe Unit :=
  if n < first then .error (.notReady "pending") else .ok ()

end Wait
end BoundedWait

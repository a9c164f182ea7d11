/-!
# The last value that is given

Of the elements of a list, some give a value and some do not, and the last value
given counts (`lastGiven`).  What a fold leaves is of this kind wherever each
step either writes a value or keeps the one that was there (`read_foldl`).
-/

namespace BoundedWait

variable {α β σ : Type}

/-- The value that the last of those elements gives which give one. -/
def lastGiven (pick : α → Option β) (l : List α) : Option β :=
  (l.filterMap pick).getLast?

theorem lastGiven_cons
    (pick : α → Option β) (a : α) (rest : List α) :
    lastGiven pick (a :: rest) = (lastGiven pick rest).or (pick a) := by
  cases ha : pick a with
  | none =>
      simp [lastGiven, ha]
  | some value =>
      cases hrest : (rest.filterMap pick).getLast? <;>
        simp [lastGiven, ha, List.getLast?_cons, hrest]

theorem lastGiven_eq_none_iff
    (pick : α → Option β) (l : List α) :
    lastGiven pick l = none ↔ ∀ a ∈ l, pick a = none := by
  rw [lastGiven, List.getLast?_eq_none_iff, List.filterMap_eq_nil_iff]

/-- What each step either writes or keeps is at last the last value written. -/
theorem read_foldl
    (read : σ → Option β) (step : σ → α → σ) (pick : α → Option β)
    (hread : ∀ s a, read (step s a) = (pick a).or (read s))
    (l : List α) (s : σ) :
    read (l.foldl step s) = (lastGiven pick l).or (read s) := by
  induction l generalizing s with
  | nil =>
      rfl
  | cons a rest ih =>
      rw [List.foldl_cons, ih, hread, lastGiven_cons, Option.or_assoc]

end BoundedWait

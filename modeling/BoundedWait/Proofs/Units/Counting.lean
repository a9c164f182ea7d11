import BoundedWait.TimeUnit

/-!
# Durations as counts of a unit

A duration is *counted* when it is a whole 64-bit count of one of the units.

* `TimeUnit.nanos_toDuration`: a unit multiplies, and stops at the last whole
  second; so what it turns a count into is always counted
  (`TimeUnit.counted_toDuration`), by seconds if it stopped.
* `TimeUnit.toDuration_split_iff`: splitting loses nothing from the counted
  durations, and something from all others.
-/

namespace BoundedWait

/-- A whole 64-bit count of one of the units. -/
def Duration.Counted (d : Duration) : Prop :=
  ∃ (count : UInt64) (u : TimeUnit), d.nanos = count.toNat * u.nanos

namespace TimeUnit

/-- The nanoseconds of 2^64 - 1 seconds. -/
def lastSecond : Nat := 18446744073709551615 * 1000000000

theorem nanos_toDuration
    (u : TimeUnit) (count : UInt64) :
    (u.toDuration count).nanos = min (count.toNat * u.nanos) lastSecond := by
  have hcount := count.toNat_lt
  have hlimit := Duration.limit_eq
  cases u <;>
    simp only [toDuration, nanos, lastSecond, Duration.nanos_ofSeconds,
      Duration.nanos_ofNanos] <;>
    omega

/-- The durations that units make are counted, also where a unit stopped. -/
theorem counted_toDuration
    (u : TimeUnit) (count : UInt64) :
    (u.toDuration count).Counted := by
  have hnanos := u.nanos_toDuration count
  rcases Nat.le_total (count.toNat * u.nanos) lastSecond with hle | hle
  · exact ⟨count, u, by rw [hnanos, Nat.min_eq_left hle]⟩
  · -- where the unit stops, the result is a count of seconds
    refine ⟨UInt64.ofNat 18446744073709551615, seconds, ?_⟩
    rw [hnanos, Nat.min_eq_right hle]
    rfl

theorem holds_iff
    {u : TimeUnit} {d : Duration} :
    u.Holds d ↔ ∃ count : UInt64, d.nanos = count.toNat * u.nanos := by
  constructor
  · rintro ⟨hdivides, hfits⟩
    refine ⟨UInt64.ofNat (d.nanos / u.nanos), ?_⟩
    rw [UInt64.toNat_ofNat_of_lt' hfits]
    exact (Nat.div_mul_cancel (Nat.dvd_of_mod_eq_zero hdivides)).symm
  · rintro ⟨count, hcount⟩
    refine ⟨?_, ?_⟩
    · rw [hcount, Nat.mul_mod_left]
    · rw [hcount, Nat.mul_div_cancel _ u.nanos_pos]
      exact count.toNat_lt

theorem counted_iff
    {d : Duration} :
    d.Counted ↔ ∃ u : TimeUnit, u.Holds d := by
  simp only [holds_iff]
  exact exists_comm

theorem Holds.nanos_le
    {u : TimeUnit} {d : Duration}
    (h : u.Holds d) :
    d.nanos ≤ lastSecond := by
  obtain ⟨count, hcount⟩ := holds_iff.1 h
  have hlongest := d.nanos_lt
  have hlimit := Duration.limit_eq
  have hfits := count.toNat_lt
  cases u <;> simp only [nanos, lastSecond] at hcount ⊢ <;> omega

/-- A unit that holds a duration gives it back. -/
theorem Holds.toDuration_div
    {u : TimeUnit} {d : Duration}
    (h : u.Holds d) :
    u.toDuration (UInt64.ofNat (d.nanos / u.nanos)) = d := by
  apply Duration.ext
  rw [nanos_toDuration, UInt64.toNat_ofNat_of_lt' h.2,
    Nat.div_mul_cancel (Nat.dvd_of_mod_eq_zero h.1), Nat.min_eq_left h.nanos_le]

theorem coarsest?_eq_none_iff
    {d : Duration} :
    coarsest? d = none ↔ ¬ d.Counted := by
  simp only [coarsest?, List.find?_eq_none, decide_eq_true_eq, counted_iff, not_exists]
  constructor
  · intro h u
    exact h u (mem_coarsestFirst u)
  · intro h u _
    exact h u

/-- Splitting gives back exactly the counted durations. -/
theorem toDuration_split_iff
    {d : Duration} :
    (split d).2.toDuration (split d).1 = d ↔ d.Counted := by
  constructor
  · intro h
    rw [← h]
    exact counted_toDuration _ _
  · intro h
    cases hcoarsest : coarsest? d with
    | none =>
        exact absurd h (coarsest?_eq_none_iff.1 hcoarsest)
    | some u =>
        have hholds : u.Holds d := by
          simpa using List.find?_some hcoarsest
        simp only [split, hcoarsest]
        exact hholds.toDuration_div

end TimeUnit
end BoundedWait

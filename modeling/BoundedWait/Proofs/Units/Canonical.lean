import BoundedWait.Proofs.Units.Rounding

/-!
# The canonical form of a duration

One duration can be counted in several units.  Its canonical form is the count
of the coarsest of them, and a duration that is counted has exactly one
(`TimeUnit.Coarsest.unique`).

* `TimeUnit.coarsest_of_coarsest?`: the search finds the coarsest unit, since it
  passes the longer ones first.
* `TimeUnit.split_eq_iff`: splitting yields the canonical form and nothing else.
* `TimeUnit.split_is_canonical`: so two counts make the same duration if and only
  if they have the same canonical form, also where their units stopped.
-/

namespace BoundedWait
namespace TimeUnit

/-- A unit counts a duration, and no longer unit does. -/
structure Coarsest (u : TimeUnit) (d : Duration) : Prop where
  counts : ∃ count : UInt64, d.nanos = count.toNat * u.nanos
  longest : ∀ (v : TimeUnit) (count : UInt64),
    d.nanos = count.toNat * v.nanos → v.nanos ≤ u.nanos

/-- The canonical form of the duration that a count of a unit makes. -/
def reduced (counted : UInt64 × TimeUnit) : UInt64 × TimeUnit :=
  split (counted.2.toDuration counted.1)

theorem nanos_injective
    {u v : TimeUnit}
    (h : u.nanos = v.nanos) :
    u = v := by
  cases u <;> cases v <;> first | rfl | (exact absurd h (by decide))

theorem pairwise_coarsestFirst :
    coarsestFirst.Pairwise fun u v => v.nanos < u.nanos := by
  decide

section Canonical

variable {u v : TimeUnit} {d e : Duration}

theorem Coarsest.unique
    (hu : u.Coarsest d)
    (hv : v.Coarsest d) :
    u = v := by
  obtain ⟨ucount, hucount⟩ := hu.counts
  obtain ⟨vcount, hvcount⟩ := hv.counts
  have huv := hv.longest u ucount hucount
  have hvu := hu.longest v vcount hvcount
  exact nanos_injective (Nat.le_antisymm huv hvu)

theorem coarsest_of_coarsest?
    (h : coarsest? d = some u) :
    u.Coarsest d := by
  obtain ⟨hfound, longer, shorter, hunits, hpassed⟩ := List.find?_eq_some_iff_append.1 h
  refine ⟨holds_iff.1 (of_decide_eq_true hfound), ?_⟩
  intro v count hcount
  have hmem := mem_coarsestFirst v
  have hordered := pairwise_coarsestFirst
  rw [hunits] at hmem hordered
  rcases List.mem_append.1 hmem with hlonger | hrest
  · -- a longer unit has been passed, so it does not count the duration
    have hholds : v.Holds d := holds_iff.2 ⟨count, hcount⟩
    have hrefused := hpassed v hlonger
    rw [decide_eq_true hholds] at hrefused
    cases hrefused
  · rcases List.mem_cons.1 hrest with rfl | hshorter
    · exact Nat.le_refl _
    · have hbelow := (List.pairwise_append.1 hordered).2.1
      exact Nat.le_of_lt (List.rel_of_pairwise_cons hbelow hshorter)

/-- A counted duration has a canonical form, and splitting yields it. -/
theorem exists_split
    (h : d.Counted) :
    ∃ (count : UInt64) (u : TimeUnit),
      split d = (count, u) ∧ u.Coarsest d ∧ d.nanos = count.toNat * u.nanos := by
  cases hfound : coarsest? d with
  | none =>
      exact absurd h (coarsest?_eq_none_iff.1 hfound)
  | some u =>
      have hcoarsest := coarsest_of_coarsest? hfound
      obtain ⟨count, hcount⟩ := hcoarsest.counts
      refine ⟨count, u, ?_, hcoarsest, hcount⟩
      simp only [split, hfound]
      rw [hcount, Nat.mul_div_cancel _ u.nanos_pos, UInt64.ofNat_toNat]

theorem split_eq_iff
    (h : d.Counted)
    {count : UInt64} :
    split d = (count, u) ↔ u.Coarsest d ∧ d.nanos = count.toNat * u.nanos := by
  obtain ⟨found, unit, hsplit, hcoarsest, hfound⟩ := exists_split h
  rw [hsplit]
  constructor
  · rintro ⟨⟩
    exact ⟨hcoarsest, hfound⟩
  · rintro ⟨hu, hcount⟩
    obtain rfl := hcoarsest.unique hu
    have hcounts : found.toNat = count.toNat :=
      Nat.eq_of_mul_eq_mul_right unit.nanos_pos (hfound.symm.trans hcount)
    rw [UInt64.toNat_inj.1 hcounts]

theorem split_eq_split_iff
    (hd : d.Counted)
    (he : e.Counted) :
    split d = split e ↔ d = e := by
  constructor
  · intro h
    calc
      d = rejoined d := (rejoined_of_counted hd).symm
      _ = rejoined e := by rw [rejoined, rejoined, h]
      _ = e := rejoined_of_counted he
  · exact congrArg split

theorem reduced_reduced
    (counted : UInt64 × TimeUnit) :
    reduced (reduced counted) = reduced counted :=
  congrArg split (rejoined_of_counted (counted_toDuration _ _))

/-- The counted durations are those that units make. -/
theorem exists_toDuration_iff :
    (∃ (u : TimeUnit) (count : UInt64), u.toDuration count = d) ↔ d.Counted := by
  constructor
  · rintro ⟨u, count, rfl⟩
    exact counted_toDuration u count
  · intro h
    exact ⟨(split d).2, (split d).1, rejoined_of_counted h⟩

theorem counted_of_lt
    (h : d.nanos < UInt64.size) :
    d.Counted := by
  refine counted_iff.2 ⟨nanoseconds, Nat.mod_one _, ?_⟩
  rwa [nanos, Nat.div_one]

end Canonical

/-- Splitting a duration that a unit makes of a count yields the coarsest unit
that counts it, and the count, which make the duration again.  So counts that
make the same duration are those that are split alike, and what was split once
stays as it is.  Splitting loses nothing from the durations that units make and
something from all others; among the former are all durations below 2^64
nanoseconds and all whole seconds. -/
theorem split_is_canonical :
    (∀ (u : TimeUnit) (count : UInt64),
      (split (u.toDuration count)).2.toDuration (split (u.toDuration count)).1 =
        u.toDuration count ∧
      ∀ (canonical : UInt64) (v : TimeUnit),
        split (u.toDuration count) = (canonical, v) ↔
          v.Coarsest (u.toDuration count) ∧
          (u.toDuration count).nanos = canonical.toNat * v.nanos) ∧
    (∀ (u v : TimeUnit) (count count' : UInt64),
      u.toDuration count = v.toDuration count' ↔
        split (u.toDuration count) = split (v.toDuration count')) ∧
    (∀ counted : UInt64 × TimeUnit, reduced (reduced counted) = reduced counted) ∧
    (∀ d : Duration, (split d).2.toDuration (split d).1 = d ↔
      ∃ (u : TimeUnit) (count : UInt64), u.toDuration count = d) ∧
    ∀ d : Duration, d.nanos < UInt64.size ∨ d.subsecond = 0 →
      ∃ (u : TimeUnit) (count : UInt64), u.toDuration count = d := by
  refine ⟨?_, ?_, reduced_reduced, ?_, ?_⟩
  · intro u count
    have hcounted := counted_toDuration u count
    exact ⟨rejoined_of_counted hcounted, fun _ _ => split_eq_iff hcounted⟩
  · intro u v count count'
    exact (split_eq_split_iff (counted_toDuration u count) (counted_toDuration v count')).symm
  · intro d
    rw [toDuration_split_iff, exists_toDuration_iff]
  · rintro d (hshort | hwhole)
    · exact exists_toDuration_iff.2 (counted_of_lt hshort)
    · exact exists_toDuration_iff.2 (counted_of_whole hwhole)

/-- Both bounds are made by units: the last nanosecond below 2^64, and the last
whole second, which is also what is left of too many hours. -/
theorem split_is_canonical_at_bounds :
    (∃ (u : TimeUnit) (count : UInt64), u.toDuration count = .ofNanos 18446744073709551615) ∧
    (∃ (u : TimeUnit) (count : UInt64), u.toDuration count = .ofSeconds 18446744073709551615) ∧
    split (hours.toDuration 18446744073709551615) = (18446744073709551615, seconds) := by
  obtain ⟨-, -, -, -, hmade⟩ := split_is_canonical
  exact ⟨hmade _ (Or.inl (by decide)), hmade _ (Or.inr (by decide)), by decide⟩

end TimeUnit
end BoundedWait

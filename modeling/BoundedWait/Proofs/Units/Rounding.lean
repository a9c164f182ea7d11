import BoundedWait.Proofs.Units.Counting

/-!
# Durations that no unit counts

Splitting keeps the counted durations and rounds all others up to whole seconds,
as far as seconds can be counted (`TimeUnit.nanos_rejoined`).  So a duration is
never shortened, unless it lies beyond the last whole second
(`TimeUnit.le_rejoined_iff`).

A counted duration stays where it is while a shorter one that is not counted may
be rounded past it.  This happens exactly within one second, and is the only way
in which two durations change places (`TimeUnit.rejoined_le_rejoined_iff`).
-/

namespace BoundedWait

/-- A duration is rounded, and a counted one within the same second is not. -/
structure Duration.RoundsPast (d e : Duration) : Prop where
  not_counted : ¬d.Counted
  counted : e.Counted
  same_second : e.seconds = d.seconds

/-- What becomes of a duration that is rounded if no unit counts it. -/
structure Duration.RoundsTo (d e : Duration) : Prop where
  exact : d.Counted → e = d
  whole : ¬d.Counted → e.nanos = min ((d.seconds + 1) * perSecond) TimeUnit.lastSecond
  kept : d.nanos ≤ TimeUnit.lastSecond → d ≤ e
  cut : TimeUnit.lastSecond < d.nanos → e < d

namespace TimeUnit

/-- A duration that was split and put together again. -/
def rejoined (d : Duration) : Duration :=
  (split d).2.toDuration (split d).1

section Rejoined

variable {d e : Duration}

theorem counted_of_whole
    (h : d.subsecond = 0) :
    d.Counted :=
  counted_iff.2 ⟨seconds, h, d.seconds_lt⟩

theorem rejoined_of_counted
    (h : d.Counted) :
    rejoined d = d :=
  toDuration_split_iff.2 h

theorem nanos_le_of_counted
    (h : d.Counted) :
    d.nanos ≤ lastSecond := by
  obtain ⟨u, hholds⟩ := counted_iff.1 h
  exact hholds.nanos_le

theorem nanos_rejoined
    (h : ¬d.Counted) :
    (rejoined d).nanos = min ((d.seconds + 1) * Duration.perSecond) lastSecond := by
  have hfits : min (d.seconds + 1) (UInt64.size - 1) < UInt64.size := by
    simp only [UInt64.size]
    omega
  simp only [rejoined, split, coarsest?_eq_none_iff.2 h, nanos_toDuration,
    UInt64.toNat_ofNat_of_lt' hfits]
  simp only [nanos, lastSecond, Duration.perSecond, UInt64.size]
  omega

theorem nanos_eq_parts
    (d : Duration) :
    d.nanos = d.seconds * Duration.perSecond + d.subsecond :=
  (Nat.div_add_mod' d.nanos Duration.perSecond).symm

theorem le_rejoined_iff :
    d ≤ rejoined d ↔ d.nanos ≤ lastSecond := by
  by_cases hcounted : d.Counted
  · rw [rejoined_of_counted hcounted]
    exact iff_of_true (Nat.le_refl _) (nanos_le_of_counted hcounted)
  · have hparts := nanos_eq_parts d
    have hbelow : d.subsecond < Duration.perSecond := Nat.mod_lt _ (by decide)
    rw [Duration.le_iff, nanos_rejoined hcounted]
    simp only [Duration.perSecond] at hparts hbelow ⊢
    omega

theorem rejoined_pos
    (h : 0 < d.nanos) :
    0 < (rejoined d).nanos := by
  by_cases hcounted : d.Counted
  · rwa [rejoined_of_counted hcounted]
  · rw [nanos_rejoined hcounted]
    simp only [Duration.perSecond, lastSecond]
    omega

theorem roundsTo_rejoined
    (d : Duration) :
    d.RoundsTo (rejoined d) where
  exact := rejoined_of_counted
  whole := nanos_rejoined
  kept := le_rejoined_iff.2
  cut := fun hbeyond => Nat.not_le.1 (mt le_rejoined_iff.1 (Nat.not_le.2 hbeyond))

/-- Of two durations in order, the shorter one is rounded past the longer one or
their order stays. -/
theorem rejoined_le_rejoined_iff
    (h : d ≤ e) :
    rejoined d ≤ rejoined e ↔ ¬d.RoundsPast e := by
  have hd := nanos_eq_parts d
  have he := nanos_eq_parts e
  have hbelow : e.subsecond < Duration.perSecond := Nat.mod_lt _ (by decide)
  have hseconds := d.seconds_lt
  rw [Duration.le_iff] at h ⊢
  simp only [Duration.perSecond, UInt64.size] at hd he hbelow hseconds
  by_cases hdcounted : d.Counted
  · -- the shorter one stays, and the longer one can only fall to the last second
    have hdle := nanos_le_of_counted hdcounted
    refine iff_of_true ?_ fun hpast => hpast.not_counted hdcounted
    rw [rejoined_of_counted hdcounted]
    by_cases hlast : e.nanos ≤ lastSecond
    · exact Nat.le_trans h (le_rejoined_iff.2 hlast)
    · have hecounted : ¬e.Counted := mt nanos_le_of_counted hlast
      rw [nanos_rejoined hecounted]
      simp only [Duration.perSecond, lastSecond] at hlast hdle ⊢
      omega
  · have hdpart : d.subsecond ≠ 0 := mt counted_of_whole hdcounted
    rw [nanos_rejoined hdcounted]
    by_cases hecounted : e.Counted
    · -- the longer one stays: it is passed unless it is in a later second
      have hele := nanos_le_of_counted hecounted
      have hpast : d.RoundsPast e ↔ e.seconds = d.seconds :=
        ⟨fun hpast => hpast.same_second, fun hsame => ⟨hdcounted, hecounted, hsame⟩⟩
      rw [rejoined_of_counted hecounted, hpast]
      simp only [Duration.perSecond, lastSecond] at hele ⊢
      omega
    · refine iff_of_true ?_ fun hpast => hecounted hpast.counted
      rw [nanos_rejoined hecounted]
      simp only [Duration.perSecond, lastSecond]
      omega

end Rejoined
end TimeUnit
end BoundedWait

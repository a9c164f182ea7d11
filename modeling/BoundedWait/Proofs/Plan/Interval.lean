import BoundedWait.Plan.Delay
import BoundedWait.Plan.Preset
import BoundedWait.Proofs.Duration.Range

/-!
# Bounds of intervals and delays

Whatever growth leads to, the interval after an attempt is brought between the
poll interval and the cap (`Plan.within`).  So an interval is known exactly where
growth is not exponential, and where exponential growth leads out of the
durations; there it is the cap.

Jitter only lengthens an interval, and by no more than a quarter of it.
-/

namespace BoundedWait
namespace Plan

/-- A duration brought between the poll interval and the cap. -/
def within (p : Plan) (d : Duration) : Duration :=
  max (min d p.cap) p.poll

/-- The interval of a plan whose growth leads to so many seconds. -/
def intervalOf (p : Plan) (seconds : Float) : Duration :=
  p.within ((Duration.ofFloatSeconds? seconds).getD Duration.longest)

/-- The seconds to which exponential growth leads. -/
def product (p : Plan) (attempt : Nat) : Float :=
  p.poll.toFloatSeconds * power p.multiplier (min (attempt - 1) ((1 <<< 31) - 1))

section Within

variable (p : Plan)

theorem nanos_within
    (d : Duration) :
    (p.within d).nanos = max (min d.nanos p.cap.nanos) p.poll.nanos := by
  simp only [within, Duration.nanos_max, Duration.nanos_min]

theorem poll_le_within
    (d : Duration) :
    p.poll ≤ p.within d := by
  rw [Duration.le_iff, nanos_within]
  omega

theorem within_le_cap
    (d : Duration) :
    p.within d ≤ p.cap := by
  have h := Duration.le_iff.1 p.poll_le_cap
  rw [Duration.le_iff, nanos_within]
  omega

theorem within_poll :
    p.within p.poll = p.poll := by
  have h := Duration.le_iff.1 p.poll_le_cap
  apply Duration.ext
  rw [nanos_within]
  omega

theorem within_longest :
    p.within Duration.longest = p.cap := by
  have h := Duration.le_iff.1 p.poll_le_cap
  have hcap := p.cap.nanos_lt
  apply Duration.ext
  simp only [nanos_within, Duration.longest]
  omega

/-- Growth out of the durations leads to the cap. -/
theorem intervalOf_eq_cap
    {seconds : Float}
    (h : ¬Duration.InRange seconds) :
    p.intervalOf seconds = p.cap := by
  rw [intervalOf, Duration.ofFloatSeconds?_eq_none_iff.2 h]
  exact p.within_longest

end Within

section Growing

variable {p : Plan}

theorem interval_of_fixed
    (hgrowth : p.growth = .fixed)
    (attempt : Nat) :
    p.interval attempt = p.poll := by
  have hgrown : p.grown attempt = p.poll := by
    simp only [grown, hgrowth]
  rw [interval, hgrown]
  exact p.within_poll

theorem interval_of_exponential
    (hgrowth : p.growth = .exponential)
    (attempt : Nat) :
    p.interval attempt = p.intervalOf (p.product attempt) := by
  simp only [interval, grown, hgrowth, intervalOf, within, product]

theorem grown_of_linear
    (hgrowth : p.growth = .linear)
    (a : UInt32) :
    p.grown a.toNat = p.poll.scale (max a.toNat 1) := by
  -- the counter stops only where attempts end anyway
  have hcount : min (a.toNat - 1 + 1) counterLimit = max a.toNat 1 := by
    have ha := a.toNat_lt
    simp only [counterLimit]
    omega
  simp only [grown, hgrowth, hcount]

/-- Linear growth is a product in unbounded numbers, up to the cap. -/
theorem nanos_interval_of_linear
    (hgrowth : p.growth = .linear)
    (a : UInt32) :
    (p.interval a.toNat).nanos = min (p.poll.nanos * max a.toNat 1) p.cap.nanos := by
  have hcap := p.cap.nanos_lt
  have hpoll := Duration.le_iff.1 p.poll_le_cap
  have hgrows : p.poll.nanos ≤ p.poll.nanos * max a.toNat 1 :=
    Nat.le_mul_of_pos_right _ (by omega)
  have hwithin : p.interval a.toNat = p.within (p.grown a.toNat) := rfl
  rw [hwithin, nanos_within, grown_of_linear hgrowth, Duration.nanos_scale]
  omega

theorem interval_mono
    (hgrowth : p.growth ≠ .exponential)
    {a b : UInt32}
    (h : a ≤ b) :
    p.interval a.toNat ≤ p.interval b.toNat := by
  cases hcases : p.growth with
  | fixed =>
      rw [interval_of_fixed hcases, interval_of_fixed hcases]
      exact Nat.le_refl _
  | linear =>
      have hfactor : p.poll.nanos * max a.toNat 1 ≤ p.poll.nanos * max b.toNat 1 :=
        Nat.mul_le_mul_left _ (by have := UInt32.le_iff_toNat_le.1 h; omega)
      rw [Duration.le_iff, nanos_interval_of_linear hcases, nanos_interval_of_linear hcases]
      omega
  | exponential =>
      exact absurd hcases hgrowth

/-- A quarter is the most that jitter adds. -/
theorem delay_le_quarter_more
    (attempt draw : Nat) :
    p.delay attempt draw ≤
      (p.interval attempt).add (Duration.ofNanos ((p.interval attempt).nanos / 4)) := by
  have h := (p.interval attempt).nanos_lt
  simp only [delay, Duration.le_iff]
  split
  · simp only [Duration.nanos_add, Duration.nanos_ofNanos, jitterRange]
    omega
  · simp only [Duration.nanos_add]
    omega

end Growing

/-- After every attempt that the counter can number, the interval is between the
poll interval and the cap, wherever growth leads.  It is the poll interval
without growth, the product with the number of the attempt up to the cap with
linear growth, and the cap where exponential growth leads out of the durations;
without exponential growth it never gets shorter.  Jitter adds up to a quarter
of it, as far as durations go. -/
theorem delays_stay_in_bounds
    (p : Plan) (a : UInt32) :
    (p.poll ≤ p.interval a.toNat ∧ p.interval a.toNat ≤ p.cap) ∧
    (p.growth = .fixed → p.interval a.toNat = p.poll) ∧
    (p.growth = .linear →
      (p.interval a.toNat).nanos = min (p.poll.nanos * max a.toNat 1) p.cap.nanos) ∧
    (p.growth = .exponential → p.interval a.toNat = p.intervalOf (p.product a.toNat)) ∧
    (∀ seconds : Float,
      p.poll ≤ p.intervalOf seconds ∧ p.intervalOf seconds ≤ p.cap ∧
      (seconds.isFinite = false → ¬Duration.InRange seconds) ∧
      (¬Duration.InRange seconds → p.intervalOf seconds = p.cap)) ∧
    (p.growth ≠ .exponential → ∀ b : UInt32, a ≤ b →
      p.interval a.toNat ≤ p.interval b.toNat) ∧
    (p.jitter = false → ∀ draw, p.delay a.toNat draw = p.interval a.toNat) ∧
    ∀ draw, p.interval a.toNat ≤ p.delay a.toNat draw ∧
      p.delay a.toNat draw ≤
        (p.interval a.toNat).add (Duration.ofNanos ((p.interval a.toNat).nanos / 4)) := by
  refine ⟨⟨p.poll_le_interval _, p.interval_le_cap _⟩, fun h => interval_of_fixed h _,
    fun h => nanos_interval_of_linear h a, fun h => interval_of_exponential h _, ?_,
    fun h _ hle => interval_mono h hle, fun h => delay_of_unjittered h _, ?_⟩
  · intro seconds
    refine ⟨p.poll_le_within _, p.within_le_cap _, ?_, p.intervalOf_eq_cap⟩
    intro hinfinite hrange
    rw [hrange.isFinite] at hinfinite
    cases hinfinite
  · intro draw
    exact ⟨p.interval_le_delay _ draw, delay_le_quarter_more _ draw⟩

/-- Five seconds more after each attempt, for up to a million years. -/
def climbing : Plan :=
  { inSeconds 5 31557600000000 (by decide) (by decide) with growth := .linear, jitter := true }

/-- Ten times as long after each attempt, for up to a minute and a half. -/
def steep : Plan :=
  { inSeconds 6 90 (by decide) (by decide) with
    growth := .exponential
    multiplier := 10.0
    multiplier_finite := by decide
    one_le_multiplier := by decide }

/-- After the last attempt that can be numbered, linear growth has led to
almost seven hundred years, and steep growth out of the durations. -/
theorem delays_stay_in_bounds_after_last_attempt :
    climbing.growth = .linear ∧ climbing.growth ≠ .exponential ∧
    (climbing.interval (4294967295 : UInt32).toNat).nanos = 21474836475 * 1000000000 ∧
    climbing.interval (0 : UInt32).toNat ≤ climbing.interval (4294967295 : UInt32).toNat ∧
    steep.growth = .exponential ∧ steep.jitter = false ∧
    (steep.product (4294967295 : UInt32).toNat).isFinite = false ∧
    steep.interval (4294967295 : UInt32).toNat = .ofSeconds 90 ∧
    steep.delay (4294967295 : UInt32).toNat 7 = .ofSeconds 90 := by
  have hclimbs : climbing.growth ≠ .exponential := nofun
  have hinfinite : (steep.product (4294967295 : UInt32).toNat).isFinite = false := by
    decide +kernel
  obtain ⟨-, -, hlinear, -⟩ := delays_stay_in_bounds climbing 4294967295
  obtain ⟨-, -, -, -, -, hmono, -⟩ := delays_stay_in_bounds climbing 0
  obtain ⟨-, -, -, hexponential, hany, -, hunjittered, -⟩ :=
    delays_stay_in_bounds steep 4294967295
  obtain ⟨-, -, hrange, hcap⟩ := hany (steep.product (4294967295 : UInt32).toNat)
  have hinterval : steep.interval (4294967295 : UInt32).toNat = .ofSeconds 90 :=
    (hexponential rfl).trans (hcap (hrange hinfinite))
  exact ⟨rfl, hclimbs, (hlinear rfl).trans (by decide), hmono hclimbs _ (by decide), rfl, rfl,
    hinfinite, hinterval, (hunjittered rfl 7).trans hinterval⟩

end Plan
end BoundedWait

/-!
# Durations

A duration is a whole number of nanoseconds.  The longest one has 2^64 - 1
whole seconds and 999999999 further nanoseconds, so the bound is part of the
type and every operation that could pass it stops there instead.

The view of a duration is its number of nanoseconds: each operation comes with
one lemma that says what it does to that number.
-/

namespace BoundedWait

/-- Nanoseconds in one second. -/
def Duration.perSecond : Nat := 1000000000

/-- The nanoseconds of 2^64 seconds, which no duration reaches. -/
def Duration.limit : Nat := UInt64.size * Duration.perSecond

/-- A span of time of at most 2^64 - 1 seconds and 999999999 nanoseconds. -/
@[ext] structure Duration where
  nanos : Nat
  nanos_lt : nanos < Duration.limit
deriving DecidableEq

namespace Duration

theorem limit_eq :
    limit = 18446744073709551616 * 1000000000 := rfl

/-- The longest duration. -/
def longest : Duration :=
  ⟨limit - 1, by decide⟩

/-- The duration of so many nanoseconds, or the longest one. -/
def ofNanos (n : Nat) : Duration :=
  ⟨min n (limit - 1), by have h := limit_eq; omega⟩

@[simp] theorem nanos_ofNanos (n : Nat) :
    (ofNanos n).nanos = min n (limit - 1) := rfl

/-- The empty duration. -/
def zero : Duration := ofNanos 0

/-- So many whole seconds, where more than 2^64 - 1 count as 2^64 - 1. -/
def ofSeconds (n : Nat) : Duration :=
  ⟨min n 18446744073709551615 * 1000000000, by have h := limit_eq; omega⟩

@[simp] theorem nanos_ofSeconds (n : Nat) :
    (ofSeconds n).nanos = min n 18446744073709551615 * 1000000000 := rfl

/-- So many seconds and nanoseconds. -/
def ofParts (seconds nanos : Nat) : Duration :=
  ofNanos (seconds * perSecond + nanos)

/-- Whole seconds of a duration. -/
def seconds (d : Duration) : Nat :=
  d.nanos / perSecond

/-- Nanoseconds beyond the whole seconds. -/
def subsecond (d : Duration) : Nat :=
  d.nanos % perSecond

theorem seconds_lt (d : Duration) :
    d.seconds < UInt64.size := by
  have h := d.nanos_lt
  simp only [limit, perSecond, seconds, UInt64.size] at h ⊢
  omega

/-- Whole milliseconds, kept to their low 64 bits as a log field holds them. -/
def loggedMillis (d : Duration) : Nat :=
  d.nanos / 1000000 % UInt64.size

instance : LE Duration := ⟨fun a b => a.nanos ≤ b.nanos⟩

instance : LT Duration := ⟨fun a b => a.nanos < b.nanos⟩

instance (a b : Duration) : Decidable (a ≤ b) :=
  inferInstanceAs (Decidable (a.nanos ≤ b.nanos))

instance (a b : Duration) : Decidable (a < b) :=
  inferInstanceAs (Decidable (a.nanos < b.nanos))

instance : Min Duration := ⟨fun a b => if a ≤ b then a else b⟩

instance : Max Duration := ⟨fun a b => if a ≤ b then b else a⟩

theorem le_iff {a b : Duration} :
    a ≤ b ↔ a.nanos ≤ b.nanos := Iff.rfl

theorem lt_iff {a b : Duration} :
    a < b ↔ a.nanos < b.nanos := Iff.rfl

@[simp] theorem nanos_min (a b : Duration) :
    (min a b).nanos = min a.nanos b.nanos := by
  change (if a.nanos ≤ b.nanos then a else b).nanos = _
  split <;> omega

@[simp] theorem nanos_max (a b : Duration) :
    (max a b).nanos = max a.nanos b.nanos := by
  change (if a.nanos ≤ b.nanos then b else a).nanos = _
  split <;> omega

/-- The sum, or the longest duration. -/
def add (a b : Duration) : Duration :=
  ofNanos (a.nanos + b.nanos)

/-- The product with a count, or the longest duration. -/
def scale (d : Duration) (n : Nat) : Duration :=
  ofNanos (d.nanos * n)

/-- What is left of `a` after `b`: nothing when `b` is the longer one. -/
def sub (a b : Duration) : Duration :=
  ⟨a.nanos - b.nanos, by have h := a.nanos_lt; omega⟩

@[simp] theorem nanos_sub (a b : Duration) :
    (a.sub b).nanos = a.nanos - b.nanos := rfl

@[simp] theorem nanos_add (a b : Duration) :
    (a.add b).nanos = min (a.nanos + b.nanos) (limit - 1) := rfl

@[simp] theorem nanos_scale (d : Duration) (n : Nat) :
    (d.scale n).nanos = min (d.nanos * n) (limit - 1) := rfl

end Duration

end BoundedWait

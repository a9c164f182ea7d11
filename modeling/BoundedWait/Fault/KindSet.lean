import BoundedWait.Fault.Kind

/-!
# Sets of fault kinds

A set of kinds is a word of sixteen bits, the bit of a kind standing at its
index.  The bits beyond the last kind are never set, which is part of the type,
so equal sets have equal words.

* `contains` reads one bit, and `KindSet.ext_contains` says that it determines
  the set.
* `ofList` joins the bits of a list, `collect` inserts its kinds.
* `members` lists a set in the order of the kinds, without repetition.
-/

namespace BoundedWait
namespace Fault

/-- A set of fault kinds: nine of them, so nine bits are in use. -/
@[ext] structure KindSet where
  bits : BitVec 16
  bits_lt : bits.toNat < 512
deriving DecidableEq

namespace KindSet

/-- The bit of one kind. -/
def bit (k : Kind) : BitVec 16 :=
  1#16 <<< k.index

/-- Each kind has a bit of its own. -/
theorem getLsbD_bit (k j : Kind) :
    (bit k).getLsbD j.index = decide (j = k) := by
  have hk := k.index_lt
  rw [bit, ← BitVec.twoPow_eq, BitVec.getLsbD_twoPow]
  by_cases hkind : j = k
  · subst hkind
    simp only [decide_true, Bool.and_true, decide_eq_true_eq]
    omega
  · have hindex : k.index ≠ j.index := fun h => hkind (Kind.index_injective h).symm
    simp only [hkind, hindex, decide_false, Bool.and_false]

theorem toNat_bit_lt (k : Kind) :
    (bit k).toNat < 512 := by
  cases k <;> decide

theorem toNat_or_bit_lt {bits : BitVec 16} (h : bits.toNat < 512) (k : Kind) :
    (bits ||| bit k).toNat < 512 := by
  rw [BitVec.toNat_or]
  exact Nat.or_lt_two_pow (n := 9) h (toNat_bit_lt k)

/-- No kind. -/
def empty : KindSet := ⟨0#16, by decide⟩

/-- A word, and the bits of the kinds of a list from the first one on. -/
def join (bits : BitVec 16) (ks : List Kind) : BitVec 16 :=
  ks.foldl (fun bits k => bits ||| bit k) bits

theorem toNat_join_lt {bits : BitVec 16} (h : bits.toNat < 512) (ks : List Kind) :
    (join bits ks).toNat < 512 := by
  induction ks generalizing bits with
  | nil => exact h
  | cons k rest ih => exact ih (toNat_or_bit_lt h k)

/-- The kinds of a list, by the union of their bits. -/
def ofList (ks : List Kind) : KindSet :=
  ⟨join 0#16 ks, toNat_join_lt (by decide) ks⟩

/-- Every kind. -/
def full : KindSet := ofList Kind.all

/-- A set and one more kind. -/
def insert (s : KindSet) (k : Kind) : KindSet :=
  ⟨s.bits ||| bit k, toNat_or_bit_lt s.bits_lt k⟩

/-- The kinds of a list, inserted one after the other. -/
def collect (ks : List Kind) : KindSet :=
  ks.foldl insert empty

/-- The set of one kind. -/
def singleton (k : Kind) : KindSet :=
  empty.insert k

/-- Membership. -/
def contains (s : KindSet) (k : Kind) : Bool :=
  s.bits &&& bit k != 0#16

/-- Whether a set has no kind. -/
def isEmpty (s : KindSet) : Bool :=
  s.bits == 0#16

/-- The kinds of a set, in order. -/
def members (s : KindSet) : List Kind :=
  Kind.all.filter s.contains

theorem getLsbD_join (bits : BitVec 16) (ks : List Kind) (k : Kind) :
    (join bits ks).getLsbD k.index = (bits.getLsbD k.index || decide (k ∈ ks)) := by
  induction ks generalizing bits with
  | nil => simp [join]
  | cons j rest ih =>
      have hstep : join bits (j :: rest) = join (bits ||| bit j) rest := rfl
      rw [hstep, ih, BitVec.getLsbD_or, getLsbD_bit, Bool.or_assoc]
      simp only [List.mem_cons, Bool.decide_or]

/-- Beyond the kinds no bit is set. -/
theorem getLsbD_beyond (s : KindSet) {i : Nat} (h : 9 ≤ i) :
    s.bits.getLsbD i = false := by
  rw [← BitVec.testBit_toNat]
  apply Nat.testBit_lt_two_pow
  exact Nat.lt_of_lt_of_le s.bits_lt (Nat.pow_le_pow_right (n := 2) (by decide) h)

/-- A kind is in a set if its bit is set. -/
theorem contains_eq_getLsbD (s : KindSet) (k : Kind) :
    s.contains k = s.bits.getLsbD k.index := by
  have hbit : bit k ≠ 0#16 := by
    intro hzero
    have hread := getLsbD_bit k k
    rw [hzero] at hread
    simp at hread
  rw [contains]
  rw [bit, ← BitVec.twoPow_eq] at hbit ⊢
  rw [BitVec.and_twoPow]
  cases s.bits.getLsbD k.index <;> simp [hbit]

@[simp] theorem contains_empty (k : Kind) :
    empty.contains k = false := by
  simp [contains_eq_getLsbD, empty]

@[simp] theorem contains_ofList (ks : List Kind) (k : Kind) :
    (ofList ks).contains k = decide (k ∈ ks) := by
  simp [contains_eq_getLsbD, ofList, getLsbD_join]

@[simp] theorem contains_full (k : Kind) :
    full.contains k = true := by
  simp [full, Kind.mem_all]

@[simp] theorem contains_insert (s : KindSet) (k j : Kind) :
    (s.insert k).contains j = (s.contains j || decide (j = k)) := by
  simp [contains_eq_getLsbD, insert, getLsbD_bit]

/-- Sets with the same kinds are equal. -/
theorem ext_contains {s t : KindSet} (h : ∀ k, s.contains k = t.contains k) :
    s = t := by
  apply KindSet.ext
  apply BitVec.eq_of_getLsbD_eq
  intro i hi
  by_cases hkind : i < 9
  · obtain ⟨k, rfl⟩ := Kind.exists_index hkind
    simpa only [contains_eq_getLsbD] using h k
  · have hbeyond : 9 ≤ i := Nat.le_of_not_lt hkind
    rw [s.getLsbD_beyond hbeyond, t.getLsbD_beyond hbeyond]

theorem mem_members {s : KindSet} {k : Kind} :
    k ∈ s.members ↔ s.contains k = true := by
  simp [members, Kind.mem_all]

/-- Kinds that are inserted into a set join it with their bits. -/
theorem bits_foldl_insert (s : KindSet) (ks : List Kind) :
    (ks.foldl insert s).bits = join s.bits ks := by
  induction ks generalizing s with
  | nil => rfl
  | cons k rest ih => exact ih (s.insert k)

theorem collect_eq_ofList (ks : List Kind) :
    collect ks = ofList ks :=
  KindSet.ext (bits_foldl_insert empty ks)

end KindSet
end Fault
end BoundedWait

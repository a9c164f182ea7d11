import BoundedWait.SortedMap
import Mathlib.Data.List.Perm.Basic

/-!
# Look-ups in sorted maps

Looking up a key finds the pair with this key, and there is at most one
(`find?_eq_some_iff`).  So a map is determined by its look-ups
(`ext_get?`), and of pairs that are inserted one after the other the last one
with a key counts (`get?_insertAll`): a map merged over another one is looked
into first (`get?_merge`), which makes merging a monoid of maps.
-/

namespace BoundedWait
namespace SortedMap

variable {κ α : Type} [Ord κ]

/-- A look-up is a search for a pair. -/
theorem find?_eq_map
    (j : κ) (l : List (κ × α)) :
    find? j l = (l.find? fun pair => compare j pair.1 = .eq).map Prod.snd := by
  induction l with
  | nil =>
      rfl
  | cons x rest ih =>
      simp only [find?, List.find?_cons]
      split <;> simp_all

/-- Keys in strictly increasing order. -/
def Increasing (l : List (κ × α)) : Prop :=
  l.Pairwise fun a b => compare a.1 b.1 = .lt

theorem get?_empty
    (k : κ) :
    (empty : SortedMap κ α).get? k = none :=
  rfl

theorem find?_append
    (j : κ) (l m : List (κ × α)) :
    find? j (l ++ m) = (find? j l).or (find? j m) := by
  induction l with
  | nil =>
      rfl
  | cons x rest ih =>
      simp only [List.cons_append, find?, ih]
      split <;> rfl

/-- The keys strictly increase. -/
theorem pairwise_keys
    (m : SortedMap κ α) :
    m.keys.Pairwise fun a b => compare a b = .lt :=
  List.pairwise_map.2 m.increasing

/-- A map is empty if it has no key. -/
theorem isEmpty_iff
    {m : SortedMap κ α} :
    m.isEmpty = true ↔ ∀ k, k ∉ m.keys := by
  rw [isEmpty, List.isEmpty_iff, ← List.eq_nil_iff_forall_not_mem, keys, List.map_eq_nil_iff]

variable [Std.LawfulEqOrd κ]

/-- A key is found in increasing pairs exactly where it stands. -/
theorem find?_eq_some_iff
    {l : List (κ × α)} (h : Increasing l) {j : κ} {v : α} :
    find? j l = some v ↔ (j, v) ∈ l := by
  induction l with
  | nil =>
      simp [find?]
  | cons x rest ih =>
      obtain ⟨k, u⟩ := x
      obtain ⟨hhead, htail⟩ := List.pairwise_cons.1 h
      simp only [find?, List.mem_cons, Prod.mk.injEq]
      by_cases hj : compare j k = .eq
      · obtain rfl := Std.LawfulEqOrd.eq_of_compare hj
        -- behind the first pair no key is as small as its own
        have hnot : (j, v) ∉ rest := fun hmem => by
          cases hj.symm.trans (hhead _ hmem)
        simp [hnot, eq_comm]
      · have hne : j ≠ k := by
          rintro rfl
          exact hj Std.ReflCmp.compare_self
        simp [hj, hne, ih htail]

/-- Increasing pairs are found in either direction. -/
theorem find?_reverse
    {l : List (κ × α)} (h : Increasing l) (j : κ) :
    find? j l.reverse = find? j l := by
  induction l with
  | nil =>
      rfl
  | cons x rest ih =>
      obtain ⟨k, u⟩ := x
      obtain ⟨hhead, htail⟩ := List.pairwise_cons.1 h
      rw [List.reverse_cons, find?_append, ih htail]
      simp only [find?]
      by_cases hj : compare j k = .eq
      · obtain rfl := Std.LawfulEqOrd.eq_of_compare hj
        have hnone : find? j rest = none := by
          rw [Option.eq_none_iff_forall_ne_some]
          intro v hv
          cases hj.symm.trans (hhead _ ((find?_eq_some_iff htail).1 hv))
        simp [hnone]
      · simp [hj]

/-- The keys are those that a look-up finds. -/
theorem mem_keys_iff
    {m : SortedMap κ α} {k : κ} :
    k ∈ m.keys ↔ m.get? k ≠ none := by
  simp only [keys, List.mem_map, Prod.exists, exists_and_right, exists_eq_right,
    ← find?_eq_some_iff m.increasing, Option.ne_none_iff_exists']
  rfl

variable [Std.TransOrd κ]

/-- Maps with the same look-ups are equal. -/
theorem ext_get?
    {a b : SortedMap κ α} (h : ∀ k, a.get? k = b.get? k) :
    a = b := by
  have hmem : ∀ x, x ∈ a.pairs ↔ x ∈ b.pairs := by
    rintro ⟨k, v⟩
    rw [← find?_eq_some_iff a.increasing, ← find?_eq_some_iff b.increasing]
    exact iff_of_eq (congrArg (· = some v) (h k))
  have hnodup : ∀ m : SortedMap κ α, m.pairs.Nodup := fun m =>
    m.increasing.imp fun hlt heq => by
      subst heq
      cases Std.ReflCmp.compare_self.symm.trans hlt
  have hperm := (List.perm_ext_iff_of_nodup (hnodup a) (hnodup b)).2 hmem
  refine SortedMap.ext (hperm.eq_of_pairwise ?_ a.increasing b.increasing)
  intro x y _ _ hxy hyx
  cases (Std.OrientedCmp.gt_iff_lt.2 hyx).symm.trans hxy

/-- Of inserted pairs the last one with a key counts. -/
theorem get?_insertAll
    (m : SortedMap κ α) (pairs : List (κ × α)) (j : κ) :
    (m.insertAll pairs).get? j = (find? j pairs.reverse).or (m.get? j) := by
  induction pairs generalizing m with
  | nil =>
      rfl
  | cons x rest ih =>
      have hstep : m.insertAll (x :: rest) = (m.insert x.1 x.2).insertAll rest := rfl
      rw [hstep, ih, get?_insert, List.reverse_cons, find?_append, Option.or_assoc]
      congr 1
      simp only [find?]
      split <;> rfl

theorem get?_ofList
    (pairs : List (κ × α)) (k : κ) :
    (ofList pairs).get? k =
      (pairs.reverse.find? fun pair => compare k pair.1 = .eq).map Prod.snd := by
  rw [ofList, get?_insertAll, get?_empty, Option.or_none, find?_eq_map]

/-- The map of a list of pairs has the value of the last pair with a key. -/
theorem get?_ofList_eq_some_iff
    {pairs : List (κ × α)} {k : κ} {v : α} :
    (ofList pairs).get? k = some v ↔
      ∃ before after, pairs = before ++ (k, v) :: after ∧ ∀ pair ∈ after, pair.1 ≠ k := by
  simp only [get?_ofList, Option.map_eq_some_iff, List.find?_eq_some_iff_append,
    Std.LawfulEqOrd.compare_eq_iff_eq, decide_eq_true_eq]
  constructor
  · rintro ⟨⟨k', v'⟩, ⟨rfl, after, before, hpairs, hafter⟩, rfl⟩
    refine ⟨before.reverse, after.reverse, ?_, ?_⟩
    · rw [List.reverse_eq_iff] at hpairs
      simpa using hpairs
    · intro pair hmem heq
      simpa [heq] using hafter pair (List.mem_reverse.1 hmem)
  · rintro ⟨before, after, rfl, hafter⟩
    refine ⟨(k, v), ⟨rfl, after.reverse, before.reverse, by simp, ?_⟩, rfl⟩
    intro pair hmem
    simpa using fun heq : k = pair.1 => hafter pair (List.mem_reverse.1 hmem) heq.symm

/-- The map of a list of pairs has the keys of the list. -/
theorem mem_keys_ofList
    {pairs : List (κ × α)} {k : κ} :
    k ∈ (ofList pairs).keys ↔ k ∈ pairs.map Prod.fst := by
  rw [mem_keys_iff, get?_ofList, ne_eq, Option.map_eq_none_iff, List.find?_eq_none]
  simp

/-- The map of a list of pairs is empty exactly if the list is. -/
theorem isEmpty_ofList
    (pairs : List (κ × α)) :
    (ofList pairs).isEmpty = pairs.isEmpty := by
  rw [Bool.eq_iff_iff, isEmpty_iff, List.isEmpty_iff, ← List.map_eq_nil_iff (f := Prod.fst),
    List.eq_nil_iff_forall_not_mem]
  exact forall_congr' fun k => not_congr mem_keys_ofList

/-- A map is the map of its pairs. -/
theorem ofList_pairs
    (m : SortedMap κ α) :
    ofList m.pairs = m :=
  ext_get? fun k => by
    rw [ofList, get?_insertAll, find?_reverse m.increasing, get?_empty, Option.or_none]
    rfl

/-- A merged map is looked into first in the map above. -/
theorem get?_merge
    (a b : SortedMap κ α) (j : κ) :
    (a.merge b).get? j = (b.get? j).or (a.get? j) := by
  rw [merge, get?_insertAll, find?_reverse b.increasing]
  rfl

theorem merge_assoc
    (a b c : SortedMap κ α) :
    (a.merge b).merge c = a.merge (b.merge c) :=
  ext_get? fun k => by simp only [get?_merge, Option.or_assoc]

theorem merge_empty
    (a : SortedMap κ α) :
    a.merge empty = a :=
  rfl

theorem empty_merge
    (a : SortedMap κ α) :
    empty.merge a = a :=
  ext_get? fun k => by rw [get?_merge, get?_empty, Option.or_none]

theorem merge_self
    (a : SortedMap κ α) :
    a.merge a = a :=
  ext_get? fun k => by rw [get?_merge, Option.or_self]

end SortedMap
end BoundedWait

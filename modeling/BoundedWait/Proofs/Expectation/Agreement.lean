import BoundedWait.Expectation
import BoundedWait.Plan.Preset
import BoundedWait.Proofs.SortedMap.Lookup
import BoundedWait.Proofs.Wait.Unfolding

/-!
# How expectations agree, and that they abort no wait

All operations treat the lack of items alike.  What one of them returns is read
off `allItems`, which fails exactly if there is nothing and the rule says that
nothing has arrived yet.  Only `requireFirst` and `expectEmpty` do not ask the
rule, and of these two always one succeeds.

Every fault of an operation says "not yet".  So does every fault of a probe that
is put together from operations (`Made`), and a classifier that goes by kinds
lets it pass: the wait tries again or times out, and never aborts.
-/

namespace BoundedWait
namespace Expectation

variable {α β κ : Type}

section Empty

variable {e : Expectation} {items : List α} {fault : Fault}

theorem allItems_eq_error_iff :
    e.allItems items = .error fault ↔
      items = [] ∧ e.onEmpty = .notReady ∧ fault = e.nothing := by
  simp only [allItems, List.isEmpty_iff]
  split
  · rename_i h
    simp [h, eq_comm]
  · rename_i h
    simp only [reduceCtorEq, false_iff]
    exact fun ⟨hnone, hrule, _⟩ => h ⟨hnone, hrule⟩

/-- The first item is the first of all items. -/
theorem first_eq_head?
    (e : Expectation) (items : List α) :
    e.first items = List.head? <$> e.allItems items := by
  cases items with
  | nil => cases hrule : e.onEmpty <;> simp [first, allItems, hrule]
  | cons item rest => simp [first, allItems]

/-- An item that there may be is the first of at most one. -/
theorem single_eq_first
    (e : Expectation) (item : Option α) :
    e.single item = e.first item.toList := by
  cases item <;> rfl

/-- A map is made of all items. -/
theorem aggregate_eq_ofList
    [Ord κ] [Std.TransOrd κ] [Std.LawfulEqOrd κ]
    (e : Expectation) (pairs : List (κ × α)) :
    e.aggregate pairs = SortedMap.ofList <$> e.allItems pairs := by
  simp only [aggregate, allItems, SortedMap.isEmpty_ofList]
  split <;> rfl

theorem eq_ofList_of_aggregate
    [Ord κ] [Std.TransOrd κ] [Std.LawfulEqOrd κ]
    {e : Expectation} {pairs : List (κ × α)} {map : SortedMap κ α}
    (h : e.aggregate pairs = .ok map) :
    map = SortedMap.ofList pairs := by
  simp only [aggregate] at h
  split at h <;> cases h
  rfl

/-- A result that is mapped fails as the result does. -/
theorem map_eq_error_iff
    {f : α → β} {probe : Probe α} :
    f <$> probe = .error fault ↔ probe = .error fault := by
  cases probe <;> simp

theorem first_eq_error_iff :
    e.first items = .error fault ↔
      items = [] ∧ e.onEmpty = .notReady ∧ fault = e.nothing := by
  rw [first_eq_head?, map_eq_error_iff, allItems_eq_error_iff]

theorem single_eq_error_iff
    {item : Option α} :
    e.single item = .error fault ↔
      item = none ∧ e.onEmpty = .notReady ∧ fault = e.nothing := by
  rw [single_eq_first, first_eq_error_iff, Option.toList_eq_nil_iff]

theorem aggregate_eq_error_iff
    [Ord κ] [Std.TransOrd κ] [Std.LawfulEqOrd κ]
    {pairs : List (κ × α)} :
    e.aggregate pairs = .error fault ↔
      pairs = [] ∧ e.onEmpty = .notReady ∧ fault = e.nothing := by
  rw [aggregate_eq_ofList, map_eq_error_iff, allItems_eq_error_iff]

theorem requireFirst_eq_error_iff :
    e.requireFirst items = .error fault ↔ items = [] ∧ fault = e.nothing := by
  cases items <;> simp [requireFirst, eq_comm]

/-- Either there is a first item, or nothing is left. -/
theorem requireFirst_eq_ok_iff :
    (∃ item, e.requireFirst items = .ok item) ↔ e.expectEmpty items ≠ .ok () := by
  cases items <;> simp [requireFirst, expectEmpty]

end Empty

section Made

/-- The probes that operations make, alone or one after the other. -/
inductive Made : {α : Type} → Probe α → Prop
  | value {α : Type} (v : α) :
      Made (.ok v)
  | allItems {α : Type} (e : Expectation) (items : List α) :
      Made (e.allItems items)
  | first {α : Type} (e : Expectation) (items : List α) :
      Made (e.first items)
  | requireFirst {α : Type} (e : Expectation) (items : List α) :
      Made (e.requireFirst items)
  | single {α : Type} (e : Expectation) (item : Option α) :
      Made (e.single item)
  | aggregate {α κ : Type} [Ord κ] [Std.TransOrd κ] [Std.LawfulEqOrd κ]
      (e : Expectation) (pairs : List (κ × α)) :
      Made (e.aggregate pairs)
  | expectEmpty {α : Type} (e : Expectation) (items : List α) :
      Made (e.expectEmpty items)
  | bind {α β : Type} {probe : Probe α} {next : α → Probe β}
      (hprobe : Made probe)
      (hnext : ∀ v, probe = .ok v → Made (next v)) :
      Made (probe >>= next)

/-- Operations fail with faults that say "not yet". -/
theorem Made.kind_eq
    {probe : Probe α} {fault : Fault}
    (h : Made probe)
    (heq : probe = .error fault) :
    fault.kind = .notYetReady := by
  induction h with
  | value v => cases heq
  | allItems e items =>
      obtain ⟨-, -, rfl⟩ := allItems_eq_error_iff.1 heq
      rfl
  | first e items =>
      obtain ⟨-, -, rfl⟩ := first_eq_error_iff.1 heq
      rfl
  | requireFirst e items =>
      obtain ⟨-, rfl⟩ := requireFirst_eq_error_iff.1 heq
      rfl
  | single e item =>
      obtain ⟨-, -, rfl⟩ := single_eq_error_iff.1 heq
      rfl
  | aggregate e pairs =>
      obtain ⟨-, -, rfl⟩ := aggregate_eq_error_iff.1 heq
      rfl
  | expectEmpty e items =>
      simp only [Expectation.expectEmpty] at heq
      split at heq <;> cases heq
      rfl
  | @bind _ _ probe next hprobe hnext ihprobe ihnext =>
      cases probe with
      | error inner =>
          cases heq
          exact ihprobe rfl
      | ok v => exact ihnext v rfl heq

/-- A classifier that goes by kinds lets pass what says "not yet". -/
theorem classify_of_kind
    {c : Classifier} {fault : Fault}
    (hclassifier : (∃ kinds, c = .ignoring kinds) ∨ c = .strict ∨ c = .ignoringAll)
    (hkind : fault.kind = .notYetReady) :
    c.classify fault = .soft := by
  have hnotReady : fault.isNotReady = true := by
    rw [Fault.isNotReady, hkind]
    rfl
  rw [Classifier.classify_eq_soft_iff]
  rcases hclassifier with ⟨kinds, rfl⟩ | rfl | rfl
  · simp [Classifier.isSoft, hnotReady]
  · exact hnotReady
  · rfl

/-- A wait for a condition that operations make is not aborted. -/
theorem outcome_ne_aborted
    {σ : Type} {w : Wait.World σ α} {p : Plan} {c : Classifier} {s : σ}
    (hmade : ∀ n s, Made (w.attempt n s).1.probe)
    (hclassifier : (∃ kinds, c = .ignoring kinds) ∨ c = .strict ∨ c = .ignoringAll)
    (fault : Fault) (attempts : Nat) (elapsed : Duration) :
    (Wait.run w p c s).outcome ≠ .aborted fault attempts elapsed := by
  obtain ⟨rounds, hrun⟩ := Wait.unfolds_run w p c s
  have hrounds := hrun.forall_answers (P := fun _ answer => Made answer.probe) hmade
  obtain ⟨earlier, last, event, rfl, -, hends, -⟩ := hrun.ending
  rw [hends.outcome_eq.1]
  intro haborted
  obtain ⟨hprobe, hfatal, -⟩ := (Wait.conclusion_eq_aborted_iff c _ _).1 haborted
  have hkind := (hrounds last (by simp)).kind_eq hprobe
  cases (classify_of_kind hclassifier hkind).symm.trans hfatal

end Made

/-- The operations agree on what it means that there are no items, they fail with
faults that say "not yet", and a condition made of them aborts no wait whose
classifier goes by kinds. -/
theorem operations_agree_and_never_abort
    [Ord κ] [Std.TransOrd κ] [Std.LawfulEqOrd κ]
    (e : Expectation) :
    (∀ items : List α, e.first items = List.head? <$> e.allItems items) ∧
    (∀ item : Option α, e.single item = e.first item.toList) ∧
    (∀ (items : List α) fault, e.allItems items = .error fault ↔
      items = [] ∧ e.onEmpty = .notReady ∧ fault = e.nothing) ∧
    (∀ (items : List α) fault, e.first items = .error fault ↔
      items = [] ∧ e.onEmpty = .notReady ∧ fault = e.nothing) ∧
    (∀ (item : Option α) fault, e.single item = .error fault ↔
      item = none ∧ e.onEmpty = .notReady ∧ fault = e.nothing) ∧
    (∀ (pairs : List (κ × α)) fault, e.aggregate pairs = .error fault ↔
      pairs = [] ∧ e.onEmpty = .notReady ∧ fault = e.nothing) ∧
    (∀ (items : List α) fault, e.requireFirst items = .error fault ↔
      items = [] ∧ fault = e.nothing) ∧
    (∀ items : List α,
      (∃ item, e.requireFirst items = .ok item) ↔ e.expectEmpty items ≠ .ok ()) ∧
    (∀ (pairs : List (κ × α)) map, e.aggregate pairs = .ok map →
      (map.keys.Pairwise fun a b => compare a b = .lt) ∧
      (∀ k, k ∈ map.keys ↔ k ∈ pairs.map Prod.fst) ∧
      ∀ k v, map.get? k = some v ↔ ∃ before after,
        pairs = before ++ (k, v) :: after ∧ ∀ pair ∈ after, pair.1 ≠ k) ∧
    (∀ (β : Type) (probe : Probe β) fault, Made probe → probe = .error fault →
      fault.kind = .notYetReady) ∧
    ∀ (σ β : Type) (w : Wait.World σ β) (p : Plan) (c : Classifier) (s : σ),
      (∀ n s, Made (w.attempt n s).1.probe) →
      ((∃ kinds, c = .ignoring kinds) ∨ c = .strict ∨ c = .ignoringAll) →
      ∀ fault attempts elapsed,
        (Wait.run w p c s).outcome ≠ .aborted fault attempts elapsed := by
  refine ⟨first_eq_head? e, single_eq_first e, fun _ _ => allItems_eq_error_iff,
    fun _ _ => first_eq_error_iff, fun _ _ => single_eq_error_iff,
    fun _ _ => aggregate_eq_error_iff, fun _ _ => requireFirst_eq_error_iff,
    fun _ => requireFirst_eq_ok_iff, ?_, fun _ _ _ h => h.kind_eq,
    fun _ _ _ _ _ _ hmade hclassifier => outcome_ne_aborted hmade hclassifier⟩
  intro pairs map hmap
  obtain rfl := eq_ofList_of_aggregate hmap
  exact ⟨SortedMap.pairwise_keys _, fun k => SortedMap.mem_keys_ofList,
    fun k v => SortedMap.get?_ofList_eq_some_iff⟩

/-- A queue from which an item is taken with each call, waited for until it is empty. -/
def draining : Wait.World Nat Unit where
  attempt _ left :=
    (⟨standard.expectEmpty (List.replicate left "item"), ⟨.zero, false⟩, 0⟩, left - 1)
  sleep _ _ left := (⟨.zero, false⟩, left)

/-- Of two pairs with a key the last one counts, and the wait for a queue to be
empty is not aborted, not even by a strict classifier. -/
theorem operations_agree_of_draining :
    (∃ map, standard.aggregate [(2, "first"), (1, "only"), (2, "last")] = .ok map ∧
      1 ∈ map.keys ∧ map.get? 2 = some "last") ∧
    ∀ fault attempts elapsed,
      (Wait.run draining Plan.standard .strict 5).outcome ≠ .aborted fault attempts elapsed := by
  obtain ⟨-, -, -, -, -, -, -, -, hmap, -, hwait⟩ :=
    operations_agree_and_never_abort (α := String) (κ := Nat) standard
  obtain ⟨-, hkeys, hlast⟩ := hmap [(2, "first"), (1, "only"), (2, "last")] _ rfl
  refine ⟨⟨_, rfl, (hkeys 1).2 (by decide), (hlast 2 "last").2 ?_⟩, ?_⟩
  · exact ⟨[(2, "first"), (1, "only")], [], rfl, nofun⟩
  · exact hwait Nat Unit draining Plan.standard .strict 5
      (fun n left => .expectEmpty standard _) (.inr (.inl rfl))

end Expectation
end BoundedWait

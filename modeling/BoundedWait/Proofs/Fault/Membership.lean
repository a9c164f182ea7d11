import BoundedWait.Classifier

/-!
# Sets of kinds and the lists they come from

A set that is made of a list holds the kinds of the list, whichever way it was
made: by joining the bits of the list, by inserting one kind after the other, or
by a classifier that is told to ignore one kind after the other.

* `KindSet.ofList_eq_ofList_iff`: order and repetitions leave no trace.
* `KindSet.collect_members`: a set is made again of its members, which are listed
  in the order of the kinds.
* `Classifier.classify_ignoring_eq_soft_iff`: so a classifier that goes by a set
  decides by what is in the list.
-/

namespace BoundedWait

namespace Fault

theorem Kind.pairwise_all :
    Kind.all.Pairwise fun j k => j.index < k.index := by
  rw [← List.pairwise_map, Kind.map_index_all]
  exact List.pairwise_lt_range

namespace KindSet

variable {s : KindSet} {ks ks' : List Kind}

theorem pairwise_members
    (s : KindSet) :
    s.members.Pairwise fun j k => j.index < k.index :=
  Kind.pairwise_all.filter _

theorem ofList_eq_ofList_iff :
    ofList ks = ofList ks' ↔ ∀ k, k ∈ ks ↔ k ∈ ks' := by
  constructor
  · intro h k
    have hcontains := congrArg (fun s => s.contains k) h
    simpa using hcontains
  · intro h
    apply ext_contains
    intro k
    rw [contains_ofList, contains_ofList, decide_eq_decide]
    exact h k

/-- Every set is made of its members. -/
theorem collect_members
    (s : KindSet) :
    collect s.members = s := by
  apply ext_contains
  intro k
  rw [collect_eq_ofList, contains_ofList, Bool.eq_iff_iff, decide_eq_true_eq]
  exact mem_members

theorem isEmpty_ofList_iff :
    (ofList ks).isEmpty = true ↔ ks = [] := by
  have hempty : (ofList ks).isEmpty = true ↔ ofList ks = ofList [] := by
    rw [isEmpty, beq_iff_eq, KindSet.ext_iff]
    rfl
  rw [hempty, ofList_eq_ofList_iff, List.eq_nil_iff_forall_not_mem]
  simp only [List.not_mem_nil, iff_false]

end KindSet
end Fault

namespace Classifier

open Fault (Kind KindSet)

/-- A classifier that goes by a set inserts into it what it is told to ignore. -/
theorem foldl_alsoIgnoring
    (kinds : KindSet) (ks : List Kind) :
    ks.foldl alsoIgnoring (ignoring kinds) = ignoring (ks.foldl KindSet.insert kinds) := by
  induction ks generalizing kinds with
  | nil => rfl
  | cons k rest ih => exact ih (kinds.insert k)

theorem classify_ignoring_eq_soft_iff
    {kinds : KindSet} {fault : Fault} :
    (ignoring kinds).classify fault = .soft ↔
      fault.kind = .notYetReady ∨ kinds.contains fault.kind = true := by
  rw [classify_eq_soft_iff, isSoft, Bool.or_eq_true, Fault.isNotReady, beq_iff_eq]

end Classifier

namespace Fault
namespace KindSet

/-- The kinds of a list make one set in four ways: by their bits, by collecting
them, by inserting them one by one, and by telling a classifier to ignore them
one by one.  The set holds what is in the list and nothing else, lists it in the
order of the kinds, is made again of what it lists, and equals the set of another
list with the same kinds only.  A classifier that goes by it lets pass the faults
of these kinds, and those that say "not yet". -/
theorem kind_set_holds_listed_kinds
    (ks : List Kind) :
    (collect ks = ofList ks ∧
      ks.foldl insert empty = ofList ks ∧
      (ks.foldl Classifier.alsoIgnoring .standard).ignorable? = some (ofList ks)) ∧
    (∀ k, (ofList ks).contains k = true ↔ k ∈ ks) ∧
    ((∀ k, k ∈ (ofList ks).members ↔ k ∈ ks) ∧
      (ofList ks).members.Pairwise (fun j k => j.index < k.index) ∧
      collect (ofList ks).members = ofList ks) ∧
    (∀ ks', ofList ks = ofList ks' ↔ ∀ k, k ∈ ks ↔ k ∈ ks') ∧
    ((ofList ks).isEmpty = true ↔ ks = []) ∧
    ∀ fault : Fault, (Classifier.ignoring (ofList ks)).classify fault = .soft ↔
      fault.kind = .notYetReady ∨ fault.kind ∈ ks := by
  have hcontains : ∀ k, (ofList ks).contains k = true ↔ k ∈ ks := by
    intro k
    rw [contains_ofList, decide_eq_true_eq]
  have hinsert : ks.foldl insert empty = ofList ks := collect_eq_ofList ks
  refine ⟨⟨hinsert, hinsert, ?_⟩, hcontains,
    ⟨fun k => mem_members.trans (hcontains k), pairwise_members _, collect_members _⟩,
    fun _ => ofList_eq_ofList_iff, isEmpty_ofList_iff, ?_⟩
  · rw [Classifier.standard, Classifier.foldl_alsoIgnoring, hinsert]
    rfl
  · intro fault
    rw [Classifier.classify_ignoring_eq_soft_iff, hcontains]

end KindSet
end Fault
end BoundedWait

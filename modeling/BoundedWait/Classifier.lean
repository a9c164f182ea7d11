import BoundedWait.Fault
import BoundedWait.Text.Search

/-!
# Classifying faults

A classifier decides whether a fault means "not yet, try again" or "this wait
cannot succeed".  `LessStrict` compares two classifiers by the faults that they
let pass.
-/

namespace BoundedWait

/-- What a fault means for the wait. -/
inductive Verdict
  | soft
  | fatal
deriving DecidableEq, Repr

/-- The rules by which faults are judged. -/
inductive Classifier
  /-- Soft are faults that only say "not yet", and the kinds of a set. -/
  | ignoring (kinds : Fault.KindSet)
  /-- Every fault is soft. -/
  | ignoringAll
  /-- Soft are only faults that say "not yet". -/
  | strict
  /-- Soft are the faults that pass a test. -/
  | judging (isSoft : Fault → Bool)

namespace Classifier

/-- The classifier of a wait that is given none. -/
def standard : Classifier :=
  ignoring Fault.KindSet.empty

/-- Faults whose reason holds a text are soft, all others fatal. -/
def softIfMentioned (text : String) : Classifier :=
  judging fun fault => Text.occursIn text.toList fault.reason.toList

/-- The kinds that a classifier ignores, if it goes by a set of kinds. -/
def ignorable? : Classifier → Option Fault.KindSet
  | ignoring kinds => some kinds
  | _ => none

/-- Adds a kind to those ignored, if the classifier goes by a set of kinds. -/
def alsoIgnoring : Classifier → Fault.Kind → Classifier
  | ignoring kinds, kind => ignoring (kinds.insert kind)
  | other, _ => other

/-- Whether a classifier lets a fault pass. -/
def isSoft : Classifier → Fault → Bool
  | ignoring kinds, fault => fault.isNotReady || kinds.contains fault.kind
  | ignoringAll, _ => true
  | strict, fault => fault.isNotReady
  | judging test, fault => test fault

/-- The verdict on a fault. -/
def classify (c : Classifier) (fault : Fault) : Verdict :=
  if c.isSoft fault then .soft else .fatal

theorem classify_eq_soft_iff (c : Classifier) (fault : Fault) :
    c.classify fault = .soft ↔ c.isSoft fault = true := by
  simp only [classify]
  split <;> simp_all

theorem classify_eq_fatal_iff (c : Classifier) (fault : Fault) :
    c.classify fault = .fatal ↔ c.isSoft fault = false := by
  simp only [classify]
  split <;> simp_all

/-- The test is whether the reason mentions the text, anywhere in it. -/
theorem classify_softIfMentioned_eq_soft_iff (text : String) (fault : Fault) :
    (softIfMentioned text).classify fault = .soft ↔
      ∃ before after, fault.reason.toList = before ++ text.toList ++ after := by
  rw [classify_eq_soft_iff]
  exact Text.occursIn_iff text.toList fault.reason.toList

/-- Every fault that the first classifier lets pass, the second does too. -/
def LessStrict (c d : Classifier) : Prop :=
  ∀ fault, c.isSoft fault = true → d.isSoft fault = true

end Classifier

/-- One evaluation of a condition, after its fault was judged. -/
inductive Attempt (α : Type)
  /-- The condition held. -/
  | ready (value : α)
  /-- The condition did not hold yet. -/
  | notYet (fault : Fault)
  /-- The condition cannot hold any more. -/
  | fatal (fault : Fault)
deriving Repr

namespace Attempt

variable {α : Type}

/-- The attempt that a probe amounts to. -/
def ofProbe (c : Classifier) : Probe α → Attempt α
  | .ok value => ready value
  | .error fault =>
    match c.classify fault with
    | .soft => notYet fault
    | .fatal => fatal fault

/-- Whether the condition held. -/
def isReady : Attempt α → Bool
  | ready _ => true
  | _ => false

end Attempt
end BoundedWait

import BoundedWait.Proofs.Wait.Deadline

/-!
# More lenient classifiers

A classifier is more lenient than another one if it lets pass every fault that
the other one does (`Classifier.LessStrict`).  Two waits in the same world that
differ in their classifiers alone do the same as long as both classifiers give
the same verdict, and a verdict that differs is a fault that is fatal for the
stricter classifier, whose wait ends there.

* `Attempt.ofProbe_eq_or_parts`: what a call is taken for is the same for both,
  unless they part over its fault.
* `Unfolds.of_lessStrict`: a wait unfolds in the same rounds by the more lenient
  classifier, or the two waits part in its last round.
* `laxer_classifier_changes_only_aborts`: so only an abort can change.
-/

namespace BoundedWait

namespace Classifier

/-- Two classifiers part over a fault that is fatal for the first one only. -/
structure PartOver (c d : Classifier) (fault : Fault) : Prop where
  fatal : c.classify fault = .fatal
  soft : d.classify fault = .soft

theorem lessStrict_strict_ignoring
    (kinds : Fault.KindSet) :
    strict.LessStrict (ignoring kinds) := by
  intro fault hsoft
  simp only [isSoft] at hsoft ⊢
  rw [hsoft, Bool.true_or]

theorem lessStrict_ignoring
    {kinds kinds' : Fault.KindSet}
    (hsubset : ∀ k, kinds.contains k = true → kinds'.contains k = true) :
    (ignoring kinds).LessStrict (ignoring kinds') := by
  intro fault hsoft
  simp only [isSoft, Bool.or_eq_true] at hsoft ⊢
  exact hsoft.imp_right (hsubset fault.kind)

theorem lessStrict_ignoringAll
    (c : Classifier) :
    c.LessStrict ignoringAll :=
  fun _ _ => rfl

/-- Over no kinds at all, a set of kinds decides as the strict classifier does. -/
theorem isSoft_ignoring_empty :
    (ignoring .empty).isSoft = strict.isSoft := by
  funext fault
  simp only [isSoft, Fault.KindSet.contains_empty, Bool.or_false]

/-- Over all kinds, a set of kinds lets every fault pass. -/
theorem isSoft_ignoring_full :
    (ignoring .full).isSoft = ignoringAll.isSoft := by
  funext fault
  simp only [isSoft, Fault.KindSet.contains_full, Bool.or_true]

end Classifier

namespace Attempt

variable {α : Type}

/-- What a call is taken for is the same by a more lenient classifier, unless the
two part over its fault. -/
theorem ofProbe_eq_or_parts
    {c d : Classifier}
    (hle : c.LessStrict d)
    (probe : Probe α) :
    ofProbe d probe = ofProbe c probe ∨
      ∃ fault, probe = .error fault ∧ c.PartOver d fault := by
  cases probe with
  | ok value =>
      exact Or.inl rfl
  | error fault =>
      cases hc : c.classify fault with
      | soft =>
          have hd : d.classify fault = .soft :=
            (d.classify_eq_soft_iff fault).2 (hle fault ((c.classify_eq_soft_iff fault).1 hc))
          simp only [ofProbe, hc, hd, true_or]
      | fatal =>
          cases hd : d.classify fault with
          | soft =>
              exact Or.inr ⟨fault, rfl, hc, hd⟩
          | fatal =>
              simp only [ofProbe, hc, hd, true_or]

end Attempt

namespace Wait

variable {σ α : Type}

section Lenient

variable {w : World σ α} {p : Plan} {c d : Classifier} {made : Nat} {s : σ}
  {rounds : List (Round α)} {r : Run σ α}

/-- The two waits part in the last round of the first one: its fault is fatal
there, and soft for the other wait, which has made the same rounds before. -/
structure Parts (w : World σ α) (p : Plan) (c d : Classifier) (made : Nat) (s : σ)
    (rounds : List (Round α)) (fault : Fault) : Prop where
  parted : c.PartOver d fault
  shared : ∃ earlier number answer nap later r', answer.probe = .error fault ∧
    rounds = earlier ++ [⟨number, answer, none⟩] ∧
    Unfolds w p d made s (earlier ++ ⟨number, answer, nap⟩ :: later) r'

/-- The first wait ends at call `n` with a fatal fault.  The second one makes the
same calls up to this one, and both report the same until the verdict on it. -/
def SameUntilVerdict (w : World σ α) (p : Plan) (c d : Classifier) (s : σ)
    (n : Nat) (fault : Fault) (elapsed : Duration) : Prop :=
  ∃ earlier answer nap later after,
    n = earlier.length + 1 ∧
    answer.probe = .error fault ∧
    Unfolds w p c 0 s (earlier ++ [⟨n, answer, none⟩]) (run w p c s) ∧
    Unfolds w p d 0 s (earlier ++ ⟨n, answer, nap⟩ :: later) (run w p d s) ∧
    (run w p c s).events =
      earlier.flatMap (Round.report p) ++ [.started n p.bound, .aborted n fault elapsed] ∧
    (run w p d s).events =
      earlier.flatMap (Round.report p) ++ .started n p.bound :: after

theorem judge_eq_or_parts
    (hle : c.LessStrict d)
    (n : Nat) (a : Answer α) :
    judge p d n a = judge p c n a ∨ ∃ fault, a.probe = .error fault ∧ c.PartOver d fault := by
  rcases Attempt.ofProbe_eq_or_parts hle a.probe with hsame | hparts
  · simp only [judge, hsame, true_or]
  · exact Or.inr hparts

/-- A pending answer is one for a more lenient classifier too. -/
theorem judge_eq_of_sleep
    (hle : c.LessStrict d)
    {n : Nat} {a : Answer α} {event : Event} {fault : Fault} {delay : Duration}
    (hjudged : judge p c n a = (event, .sleep fault delay)) :
    judge p d n a = (event, .sleep fault delay) := by
  obtain ⟨hpending, hrest⟩ := (judge_eq_sleep_iff n).1 hjudged
  have hsoft := hle fault ((c.classify_eq_soft_iff fault).1 hpending.soft)
  refine (judge_eq_sleep_iff n).2 ⟨?_, hrest⟩
  exact { hpending with soft := (d.classify_eq_soft_iff fault).2 hsoft }

/-- A wait unfolds in the same rounds by a more lenient classifier, or the two
waits part in its last round. -/
theorem Unfolds.of_lessStrict
    (h : Unfolds w p c made s rounds r)
    (hle : c.LessStrict d) :
    Unfolds w p d made s rounds r ∨ ∃ fault, Parts w p c d made s rounds fault := by
  induction h with
  | @settled made s s₁ answer event outcome called judged =>
      rcases judge_eq_or_parts (p := p) hle (nextAttempt made) answer with
        hsame | ⟨fault, hprobe, hover⟩
      · exact Or.inl (.settled called (hsame.trans judged))
      · -- the other wait makes this call as well, and goes on in some way
        obtain ⟨rounds', hunfolds⟩ := unfolds_runFrom w p d made s
        obtain ⟨nap, later, rfl⟩ := hunfolds.exists_cons
        rw [called] at hunfolds
        exact Or.inr ⟨fault, hover, [], _, answer, nap, later, _, hprobe, rfl, hunfolds⟩
  | stopped called judged slept resumed =>
      exact Or.inl (.stopped called (judge_eq_of_sleep hle judged) slept resumed)
  | continued called judged slept resumed rest ih =>
      have hjudged := judge_eq_of_sleep hle judged
      rcases ih with hsame | ⟨fault, hover, earlier, number, answer, nap, later, r', hprobe,
        rfl, hunfolds⟩
      · exact Or.inl (.continued called hjudged slept resumed hsame)
      · exact Or.inr ⟨fault, hover, _ :: earlier, number, answer, nap, later, _, hprobe, rfl,
          .continued called hjudged slept resumed hunfolds⟩

theorem Parts.sameUntilVerdict
    {fault : Fault}
    (h : Parts w p c d 0 s rounds fault)
    (hrun : Unfolds w p c 0 s rounds (run w p c s)) :
    ∃ n elapsed, (run w p c s).outcome = .aborted fault n elapsed ∧
      SameUntilVerdict w p c d s n fault elapsed := by
  obtain ⟨hover, earlier, n, answer, nap, later, r', hprobe, rfl, hunfolds⟩ := h
  obtain ⟨houtcome, hevents⟩ := hrun.closes
  rw [Round.outcome, hprobe, conclusion_fatal c _ _ hover.fatal] at houtcome
  rw [houtcome, Round.report_of_nap_eq_none rfl, List.append_assoc] at hevents
  obtain rfl := hunfolds.eq_run
  obtain ⟨-, -, event, -, -, -, hevents'⟩ := hunfolds.ending
  rw [List.flatMap_append, List.flatMap_cons, List.append_assoc] at hevents'
  exact ⟨n, answer.reading.elapsed, houtcome, earlier, answer, nap, later, _,
    hrun.number_of_split, hprobe, hrun, hunfolds, hevents, hevents'⟩

/-- By a more lenient classifier the wait is the same, or it is the same until the
verdict on a fault that only the stricter one calls fatal. -/
theorem run_eq_or_sameUntilVerdict
    (hle : c.LessStrict d)
    (w : World σ α) (p : Plan) (s : σ) :
    run w p d s = run w p c s ∨
      ∃ fault n elapsed, c.PartOver d fault ∧
        (run w p c s).outcome = .aborted fault n elapsed ∧
        SameUntilVerdict w p c d s n fault elapsed := by
  obtain ⟨rounds, hrun⟩ := unfolds_run w p c s
  rcases hrun.of_lessStrict hle with hsame | ⟨fault, hparts⟩
  · exact Or.inl hsame.eq_run.symm
  · obtain ⟨n, elapsed, habort, huntil⟩ := hparts.sameUntilVerdict hrun
    exact Or.inr ⟨fault, n, elapsed, hparts.parted, habort, huntil⟩

/-- Only a fault that was judged fatal aborts a wait. -/
theorem fatal_of_run_aborted
    {fault : Fault} {n : Nat} {elapsed : Duration}
    (habort : (run w p c s).outcome = .aborted fault n elapsed) :
    c.classify fault = .fatal := by
  obtain ⟨rounds, hrun⟩ := unfolds_run w p c s
  obtain ⟨earlier, last, event, rfl, -⟩ := hrun.ending
  exact ((conclusion_eq_aborted_iff c _ _).1 (hrun.closes.1.symm.trans habort)).2.1

/-- Classifiers that let the same faults pass drive every wait alike. -/
theorem run_eq_of_isSoft_eq
    (hsame : c.isSoft = d.isSoft)
    (w : World σ α) (p : Plan) (s : σ) :
    run w p c s = run w p d s := by
  have hle : d.LessStrict c := fun fault hsoft => by rwa [hsame]
  rcases run_eq_or_sameUntilVerdict hle w p s with heq | ⟨fault, -, -, hover, -⟩
  · exact heq
  · have hsoft := (c.classify_eq_soft_iff fault).1 hover.soft
    have hfatal := (d.classify_eq_fatal_iff fault).1 hover.fatal
    rw [hsame, hfatal] at hsoft
    cases hsoft

end Lenient

/-- Ignoring more faults changes nothing but aborts.  A wait that ends in success
or by a timeout is the same by a more lenient classifier.  One that is aborted
is the same if its fault is fatal for both, and otherwise the other wait does
the same until the verdict on this fault. -/
theorem laxer_classifier_changes_only_aborts :
    (∀ c d : Classifier, c.LessStrict d →
      ∀ {σ α : Type} (w : World σ α) (p : Plan) (s : σ),
        ((run w p c s).outcome.isAborted = false → run w p d s = run w p c s) ∧
        ∀ fault n elapsed, (run w p c s).outcome = .aborted fault n elapsed →
          (d.classify fault = .fatal → run w p d s = run w p c s) ∧
          (d.classify fault = .soft → SameUntilVerdict w p c d s n fault elapsed)) ∧
    (∀ kinds, Classifier.strict.LessStrict (.ignoring kinds)) ∧
    (∀ kinds kinds' : Fault.KindSet, (∀ k, kinds.contains k = true → kinds'.contains k = true) →
      (Classifier.ignoring kinds).LessStrict (.ignoring kinds')) ∧
    (∀ kinds, (Classifier.ignoring kinds).LessStrict .ignoringAll) ∧
    ∀ {σ α : Type} (w : World σ α) (p : Plan) (s : σ),
      run w p (.ignoring .empty) s = run w p .strict s ∧
      run w p (.ignoring .full) s = run w p .ignoringAll s := by
  refine ⟨?_, Classifier.lessStrict_strict_ignoring, fun _ _ => Classifier.lessStrict_ignoring,
    fun kinds => Classifier.lessStrict_ignoringAll _, fun w p s => ⟨?_, ?_⟩⟩
  · intro c d hle σ α w p s
    rcases run_eq_or_sameUntilVerdict hle w p s with
      heq | ⟨fault', n', elapsed', hover, habort', huntil⟩
    · refine ⟨fun _ => heq, fun fault n elapsed habort => ⟨fun _ => heq, fun hsoft => ?_⟩⟩
      rw [← heq] at habort
      cases hsoft.symm.trans (fatal_of_run_aborted habort)
    · refine ⟨fun hkept => ?_, fun fault n elapsed habort => ?_⟩
      · rw [habort'] at hkept
        cases hkept
      · cases habort'.symm.trans habort
        refine ⟨fun hfatal => ?_, fun _ => huntil⟩
        cases hover.soft.symm.trans hfatal
  · exact run_eq_of_isSoft_eq Classifier.isSoft_ignoring_empty w p s
  · exact run_eq_of_isSoft_eq Classifier.isSoft_ignoring_full w p s

/-- A condition whose second call is cut off. -/
def cutOffAtSecond (n : Nat) : Probe Unit :=
  if n = 2 then .error (.plain .transport "reset") else never n

/-- The second call aborts the strict wait, and the two waits part there. -/
theorem laxer_classifier_changes_only_aborts_at_second :
    Classifier.strict.LessStrict (.ignoring (.singleton .transport)) ∧
    (run (World.exact cutOffAtSecond id) threeInSeven .strict .zero).outcome =
      .aborted (.plain .transport "reset") 2 (.ofSeconds 3) ∧
    SameUntilVerdict (World.exact cutOffAtSecond id) threeInSeven .strict
      (.ignoring (.singleton .transport)) .zero 2 (.plain .transport "reset") (.ofSeconds 3) := by
  have hrun : Unfolds (World.exact cutOffAtSecond id) threeInSeven .strict 0 .zero _
      ⟨_, .aborted (.plain .transport "reset") 2 (.ofSeconds 3), _⟩ :=
    .continued rfl rfl rfl rfl (.settled rfl rfl)
  have habort := (congrArg Run.outcome hrun.eq_run).symm
  have hle := laxer_classifier_changes_only_aborts.2.1 (.singleton .transport)
  have hparts := (laxer_classifier_changes_only_aborts.1 _ _ hle
    (World.exact cutOffAtSecond id) threeInSeven .zero).2 _ _ _ habort
  exact ⟨hle, habort, hparts.2 (by decide)⟩

end Wait
end BoundedWait

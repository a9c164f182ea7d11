import BoundedWait.Plan.Draft
import BoundedWait.Proofs.LastGiven

/-!
# What a draft builds

* `Draft.ofChanges_eq`: whatever the order of the changes, each field of a draft
  is what its last change says, and standard if nothing changed it.
* `Draft.exists_build_iff`: a draft builds a plan if and only if it is valid.
* `Draft.build_eq_ok_iff`: the plan then has the values of the draft, with the
  timeout in place of a cap that was not given.
-/

namespace BoundedWait
namespace Plan

/-! ### What a change sets, if it sets the field -/

namespace Draft.Change

def poll? : Change → Option Duration
  | poll d => some d
  | _ => none

def timeout? : Change → Option Duration
  | timeout d => some d
  | _ => none

def growth? : Change → Option Growth
  | growth g => some g
  | _ => none

def multiplier? : Change → Option Float
  | multiplier x => some x
  | _ => none

def cap? : Change → Option Duration
  | cap d => some d
  | _ => none

def jitter? : Change → Option Bool
  | jitter on => some on
  | _ => none

end Draft.Change

namespace Draft

/-- The draft in which each field is what its last change says, and standard
where nothing changed it. -/
def ofLast (changes : List Change) : Draft where
  poll := (lastGiven Change.poll? changes).getD standard.poll
  timeout := (lastGiven Change.timeout? changes).getD standard.timeout
  growth := (lastGiven Change.growth? changes).getD standard.growth
  multiplier := (lastGiven Change.multiplier? changes).getD standard.multiplier
  cap := lastGiven Change.cap? changes
  jitter := (lastGiven Change.jitter? changes).getD standard.jitter

/-- The conditions under which a draft makes a plan. -/
structure Valid (d : Draft) : Prop where
  poll_pos : 0 < d.poll.nanos
  poll_le_timeout : d.poll ≤ d.timeout
  multiplier_finite : d.multiplier.isFinite = true
  one_le_multiplier : 1.0 ≤ d.multiplier
  poll_le_cap : d.poll ≤ d.effectiveCap

/-- A plan with the values of a draft. -/
structure Describes (d : Draft) (p : Plan) : Prop where
  poll_eq : p.poll = d.poll
  timeout_eq : p.timeout = d.timeout
  growth_eq : p.growth = d.growth
  multiplier_eq : p.multiplier = d.multiplier
  cap_eq : p.cap = d.effectiveCap
  jitter_eq : p.jitter = d.jitter

section LastChange

variable {β : Type}

theorem get_foldl_change
    (get : Draft → β) (pick : Change → Option β)
    (hget : ∀ d c, get (d.change c) = (pick c).getD (get d))
    (changes : List Change) (d : Draft) :
    get (changes.foldl change d) = (lastGiven pick changes).getD (get d) := by
  have hread : ∀ d c, some (get (change d c)) = (pick c).or (some (get d)) := by
    intro d c
    rw [hget, Option.or_some]
  -- a field with a value is one that may lack it, and never does
  have hlast := read_foldl (fun d => some (get d)) change pick hread changes d
  rw [Option.or_some] at hlast
  exact Option.some.inj hlast

/-- The order of changes of different fields does not matter, and of several
changes of one field only the last one does. -/
theorem ofChanges_eq
    (changes : List Change) :
    ofChanges changes = ofLast changes := by
  have hpoll := get_foldl_change Draft.poll Change.poll?
    (fun d c => by cases c <;> rfl) changes standard
  have htimeout := get_foldl_change Draft.timeout Change.timeout?
    (fun d c => by cases c <;> rfl) changes standard
  have hgrowth := get_foldl_change Draft.growth Change.growth?
    (fun d c => by cases c <;> rfl) changes standard
  have hmultiplier := get_foldl_change Draft.multiplier Change.multiplier?
    (fun d c => by cases c <;> rfl) changes standard
  have hcap : (changes.foldl change standard).cap =
      (lastGiven Change.cap? changes).or standard.cap :=
    read_foldl Draft.cap change Change.cap? (fun d c => by cases c <;> rfl) changes standard
  have hjitter := get_foldl_change Draft.jitter Change.jitter?
    (fun d c => by cases c <;> rfl) changes standard
  -- the cap alone has no standard value to fall back to
  have hstandard : standard.cap = none := rfl
  rw [hstandard, Option.or_none] at hcap
  simp only [ofChanges, ofLast, ← hpoll, ← htimeout, ← hgrowth, ← hmultiplier, ← hcap,
    ← hjitter]

end LastChange

section Build

variable {d : Draft} {p : Plan}

/-- The plan that a valid draft makes. -/
def Valid.toPlan (h : d.Valid) : Plan where
  poll := d.poll
  timeout := d.timeout
  growth := d.growth
  multiplier := d.multiplier
  cap := d.effectiveCap
  jitter := d.jitter
  poll_pos := h.poll_pos
  poll_le_timeout := h.poll_le_timeout
  multiplier_finite := h.multiplier_finite
  one_le_multiplier := h.one_le_multiplier
  poll_le_cap := h.poll_le_cap

theorem build_of_valid
    (h : d.Valid) :
    d.build = .ok h.toPlan := by
  simp only [build, dif_pos h.poll_pos, dif_pos h.poll_le_timeout,
    dif_pos (And.intro h.multiplier_finite h.one_le_multiplier), dif_pos h.poll_le_cap]
  rfl

theorem Describes.valid
    (h : d.Describes p) :
    d.Valid := by
  obtain ⟨hpoll, htimeout, -, hmultiplier, hcap, -⟩ := h
  exact
    { poll_pos := hpoll ▸ p.poll_pos
      poll_le_timeout := hpoll ▸ htimeout ▸ p.poll_le_timeout
      multiplier_finite := hmultiplier ▸ p.multiplier_finite
      one_le_multiplier := hmultiplier ▸ p.one_le_multiplier
      poll_le_cap := hpoll ▸ hcap ▸ p.poll_le_cap }

theorem Valid.describes
    (h : d.Valid) :
    d.Describes h.toPlan :=
  ⟨rfl, rfl, rfl, rfl, rfl, rfl⟩

theorem Describes.unique
    {q : Plan}
    (hp : d.Describes p)
    (hq : d.Describes q) :
    p = q := by
  apply Plan.ext
  · rw [hp.poll_eq, hq.poll_eq]
  · rw [hp.timeout_eq, hq.timeout_eq]
  · rw [hp.growth_eq, hq.growth_eq]
  · rw [hp.multiplier_eq, hq.multiplier_eq]
  · rw [hp.cap_eq, hq.cap_eq]
  · rw [hp.jitter_eq, hq.jitter_eq]

theorem valid_of_build
    (h : d.build = .ok p) :
    d.Valid := by
  simp only [build] at h
  split at h
  · rename_i hpoll
    split at h
    · rename_i htimeout
      split at h
      · rename_i hmultiplier
        split at h
        · rename_i hcap
          exact ⟨hpoll, htimeout, hmultiplier.1, hmultiplier.2, hcap⟩
        · cases h
      · cases h
    · cases h
  · cases h

/-- Building succeeds with a plan if and only if the draft describes it. -/
theorem build_eq_ok_iff :
    d.build = .ok p ↔ d.Describes p := by
  constructor
  · intro h
    have hvalid := valid_of_build h
    cases (build_of_valid hvalid).symm.trans h
    exact hvalid.describes
  · intro h
    rw [build_of_valid h.valid, h.valid.describes.unique h]

theorem exists_build_iff :
    (∃ p, d.build = .ok p) ↔ d.Valid := by
  constructor
  · rintro ⟨p, h⟩
    exact valid_of_build h
  · intro h
    exact ⟨h.toPlan, build_of_valid h⟩

theorem build_of_short_timeout
    (hpoll : 0 < d.poll.nanos)
    (h : ¬d.poll ≤ d.timeout) :
    d.build = .error (.shortTimeout d.timeout d.poll) := by
  rw [build, dif_pos hpoll, dif_neg h]

theorem build_of_short_cap
    (hpoll : 0 < d.poll.nanos)
    (htimeout : d.poll ≤ d.timeout)
    (hmultiplier : d.multiplier.isFinite = true ∧ 1.0 ≤ d.multiplier)
    (h : ¬d.poll ≤ d.effectiveCap) :
    d.build = .error (.shortCap d.effectiveCap d.poll) := by
  rw [build, dif_pos hpoll, dif_pos htimeout, dif_pos hmultiplier, dif_neg h]

end Build

end Draft
end Plan
end BoundedWait

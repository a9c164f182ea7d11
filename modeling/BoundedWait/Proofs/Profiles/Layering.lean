import BoundedWait.Profiles.Loading
import BoundedWait.Yaml.Effort
import BoundedWait.Proofs.Profiles.Variables
import BoundedWait.Proofs.SortedMap.Lookup

/-!
# The layers of loaded profiles

A load succeeds exactly when there is no file or a file that can be read
(`FileState.Holds`), and every variable of the environment that is set means
something.  The loaded profiles are then those of the file over those built in,
name by name, and the environment is over the default alone (`Layered`).
-/

namespace BoundedWait
namespace Profiles

/-- The profiles that a file adds to those built in: none if there is no file,
and those that its text describes if it has one. -/
inductive FileState.Holds (parse? : String → Option Profiles) : FileState → Profiles → Prop
  | missing : Holds parse? .missing empty
  | bytes {content : List UInt8} {text : String} {added : Profiles}
      (htext : Text.Utf8.decode? content = some text) (hparse : parse? text = some added) :
      Holds parse? (.bytes content) added

/-- The profiles `p` are `added` over those built in: settings under a name
are those added as a whole, if there are any, and the default is the one
added, if there is any, with the environment over it. -/
structure Layered (e : Environment) (added p : Profiles) : Prop where
  named : ∀ name, p.named.get? name = (added.named.get? name).or (builtin.named.get? name)
  default :
    ∃ below above, added.default.or builtin.default = some below ∧
      p.default = some above ∧ e.Overrides below above

theorem get?_empty
    (name : String) :
    empty.named.get? name = none :=
  SortedMap.get?_empty name

theorem merge_empty
    (p : Profiles) :
    p.merge empty = p :=
  Profiles.ext Option.none_or (SortedMap.merge_empty p.named)

theorem withEnvironment_eq_ok_iff
    (q p : Profiles) (e : Environment) :
    (q.withEnvironment e).result = .ok p ↔
      ∃ above, e.Overrides (q.default.getD (Settings.ofPlan Plan.standard)) above ∧
        { q with default := some above } = p := by
  simp only [withEnvironment, ← Environment.apply_eq_ok_iff]
  cases e.apply (q.default.getD (Settings.ofPlan Plan.standard)) with
  | error error =>
      simp
  | ok settings =>
      simp

theorem merge_withEnvironment_eq_ok_iff
    (added p : Profiles) (e : Environment) :
    ((builtin.merge added).withEnvironment e).result = .ok p ↔ Layered e added p := by
  have hbelow : added.default.or builtin.default =
      some ((builtin.merge added).default.getD (Settings.ofPlan Plan.standard)) := by
    cases hdefault : added.default <;> simp [merge, builtin, hdefault]
  rw [withEnvironment_eq_ok_iff]
  constructor
  · rintro ⟨above, habove, rfl⟩
    exact ⟨SortedMap.get?_merge _ _, _, above, hbelow, rfl, habove⟩
  · rintro ⟨hnamed, below, above, hsome, hdefault, habove⟩
    obtain rfl := Option.some.inj (hsome.symm.trans hbelow)
    refine ⟨above, habove, Profiles.ext hdefault.symm (SortedMap.ext_get? fun name => ?_)⟩
    exact (SortedMap.get?_merge _ _ name).trans (hnamed name).symm

section Files

variable (parse? : String → Option Profiles) (path : String) (file : FileState) (e : Environment)

theorem text_eq_ok_iff
    (text : String) :
    file.text path = .ok text ↔
      ∃ content, file = .bytes content ∧ Text.Utf8.decode? content = some text := by
  cases file with
  | missing =>
      simp [FileState.text]
  | directory =>
      simp [FileState.text]
  | refused error =>
      simp [FileState.text]
  | bytes content =>
      cases hdecode : Text.Utf8.decode? content <;> simp [FileState.text, hdecode]

theorem ofFile_eq_ok_iff
    (hexists : file.exists? = true) (added : Profiles) :
    ofFile parse? path file = .ok added ↔ file.Holds parse? added := by
  constructor
  · intro h
    obtain ⟨text, htext, hread⟩ := Error.bind_eq_ok_iff.1 h
    obtain ⟨content, rfl, hdecode⟩ := (text_eq_ok_iff path file text).1 htext
    split at hread
    · rename_i hparse
      cases hread
      exact .bytes hdecode hparse
    · cases hread
  · intro h
    cases h with
    | missing =>
        cases hexists
    | @bytes content text _ hdecode hparse =>
        refine Error.bind_eq_ok_iff.2 ⟨text, ?_, ?_⟩
        · exact (text_eq_ok_iff path _ text).2 ⟨content, rfl, hdecode⟩
        · simp only [hparse]

/-- With a file, the profiles of the file are merged over those built in, and
the environment is applied after it. -/
theorem load_of_exists
    (hexists : file.exists? = true) :
    (load parse? path file e).result =
      loadFile parse? path file >>= fun added =>
        ((builtin.merge added).withEnvironment e).result := by
  simp only [load, loadFile, hexists, if_true]
  cases ofFile parse? path file with
  | error error =>
      rfl
  | ok added =>
      rfl

theorem load_eq_ok_iff
    (p : Profiles) :
    (load parse? path file e).result = .ok p ↔
      ∃ added, file.Holds parse? added ∧ Layered e added p := by
  simp only [← merge_withEnvironment_eq_ok_iff]
  by_cases hexists : file.exists? = true
  · rw [load_of_exists parse? path file e hexists, Error.bind_eq_ok_iff]
    simp only [loadFile, hexists, if_true, ofFile_eq_ok_iff parse? path file hexists]
  · obtain rfl : file = .missing := by
      cases file <;> simp_all [FileState.exists?]
    constructor
    · intro h
      exact ⟨empty, .missing, (merge_empty builtin).symm ▸ h⟩
    · rintro ⟨_, ⟨⟩, h⟩
      rwa [merge_empty] at h

end Files

/-- Variables for a poll each quarter of a second, with jitter. -/
def hasty (name : String) : Option (List UInt8) :=
  if name = Environment.pollName then some "250".toUTF8.toList
  else if name = Environment.jitterName then some " Yes".toUTF8.toList
  else none

end Profiles
end BoundedWait

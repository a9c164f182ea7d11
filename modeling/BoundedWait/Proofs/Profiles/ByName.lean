import BoundedWait.Proofs.Profiles.Layering

/-!
# The name of the default profile

Every name is looked up among the named settings first, the name of the default
profile too.  No built-in settings are under this name, so it stands for the
default that was loaded unless the file gives settings under it, which then
count instead.
-/

namespace BoundedWait
namespace Profiles

theorem get?_builtin_defaultName :
    builtin.named.get? defaultName = none := by
  decide +kernel

theorem Layered.get_defaultName_eq
    {e : Environment} {added p : Profiles} (h : Layered e added p) {s : Settings}
    (hs : p.default = some s) :
    p.get defaultName = planOf ((added.named.get? defaultName).getD s) := by
  rw [get, h.named, get?_builtin_defaultName, Option.or_none]
  cases added.named.get? defaultName with
  | none =>
      simp [defaultPlan, hs]
  | some shadow =>
      rfl

/-- After a load the name of the default profile stands for the settings that
the file gives under this name, if it gives any.  The default of the file and
the environment over it count only if it gives none. -/
theorem default_name_after_load
    {parse? : String → Option Profiles} {path : String} {file : FileState}
    {value? : String → Option (List UInt8)} {p : Profiles}
    (hload : (load parse? path file (.ofVariables value?)).result = .ok p) :
    ∃ added below above,
      file.Holds parse? added ∧
      added.default.or builtin.default = some below ∧
      (Environment.ofVariables value?).Overrides below above ∧
      p.defaultPlan = planOf above ∧
      p.get defaultName = planOf ((added.named.get? defaultName).getD above) := by
  obtain ⟨added, hadded, hlayered⟩ := (load_eq_ok_iff parse? path file _ p).1 hload
  obtain ⟨below, above, hbelow, hdefault, habove⟩ := hlayered.default
  refine ⟨added, below, above, hadded, hbelow, habove, ?_, hlayered.get_defaultName_eq hdefault⟩
  rw [defaultPlan, hdefault]

/-- A file that gives settings under the name of the default profile. -/
def shadowingFile : FileState :=
  .bytes "profiles:\n  default:\n    poll-interval: 5\n    wait-timeout: 10\n".toUTF8.toList

theorem exists_load_shadowingFile :
    ∃ p, (load (Yaml.read? shape read?) fileName shadowingFile (.ofVariables hasty)).result =
      .ok p := by
  have hok :
      (load (Yaml.read? shape read?) fileName shadowingFile (.ofVariables hasty)).result.isOk := by
    decide +kernel
  generalize (load (Yaml.read? shape read?) fileName shadowingFile (.ofVariables hasty)).result =
    loaded at hok
  cases loaded with
  | error error =>
      cases hok
  | ok p =>
      exact ⟨p, rfl⟩

theorem default_name_after_load_of_shadow :
    ∃ p, (load (Yaml.read? shape read?) fileName shadowingFile (.ofVariables hasty)).result =
        .ok p ∧
      ∃ added below above,
        shadowingFile.Holds (Yaml.read? shape read?) added ∧
        added.default.or builtin.default = some below ∧
        (Environment.ofVariables hasty).Overrides below above ∧
        p.defaultPlan = planOf above ∧
        p.get defaultName = planOf ((added.named.get? defaultName).getD above) := by
  obtain ⟨p, hload⟩ := exists_load_shadowingFile
  exact ⟨p, hload, default_name_after_load hload⟩

/-- The name of the default profile then stands for a poll each five seconds,
although the environment asks for four in each second. -/
theorem default_name_shadowed_by_file :
    ∃ p, (load (Yaml.read? shape read?) fileName shadowingFile (.ofVariables hasty)).result =
        .ok p ∧
      (p.get defaultName).toOption.map (·.poll) = some (.ofSeconds 5) ∧
      p.defaultPlan.toOption.map (·.poll) = some (.ofNanos 250000000) ∧
      p.get defaultName ≠ p.defaultPlan := by
  have hpolls :
      (load (Yaml.read? shape read?) fileName shadowingFile (.ofVariables hasty)).result.toOption.map
        (fun p => ((p.get defaultName).toOption.map (·.poll), p.defaultPlan.toOption.map (·.poll))) =
      some (some (.ofSeconds 5), some (.ofNanos 250000000)) := by
    decide +kernel
  obtain ⟨p, hload⟩ := exists_load_shadowingFile
  rw [hload] at hpolls
  obtain ⟨hget, hdefault⟩ := Prod.mk.inj (Option.some.inj hpolls)
  refine ⟨p, hload, hget, hdefault, ?_⟩
  intro heq
  rw [heq, hdefault] at hget
  exact absurd hget (by decide)

end Profiles
end BoundedWait

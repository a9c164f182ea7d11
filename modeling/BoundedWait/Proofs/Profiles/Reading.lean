import BoundedWait.Profiles
import BoundedWait.Proofs.Settings.Reading
import BoundedWait.Proofs.SortedMap.Lookup

/-!
# Profiles read back

Profiles are read back as they were written, whatever the names are and whether
or not there is a default (`Profiles.read?_toTree`), since settings are and since
a map is the map of its pairs.
-/

namespace BoundedWait
namespace Profiles

theorem mapM_read?_toTree
    (pairs : List (String × Settings)) :
    (pairs.map fun pair => (pair.1, pair.2.toTree)).mapM
        (fun entry => (Settings.read? entry.2).map (entry.1, ·)) =
      some pairs := by
  induction pairs with
  | nil =>
      rfl
  | cons pair rest ih =>
      simp only [List.map_cons, List.mapM_cons, ih, Settings.read?_toTree]
      rfl

theorem readNamed?_pairs
    (named : SortedMap String Settings) :
    readNamed? (Tree.record (named.pairs.map fun pair => (pair.1, pair.2.toTree))) =
      some named := by
  have hentries : Readable.entries?
      (Tree.record (named.pairs.map fun pair => (pair.1, pair.2.toTree))) =
      some (named.pairs.map fun pair => (pair.1, pair.2.toTree)) := rfl
  simp only [readNamed?, hentries, Option.bind_eq_bind, Option.bind_some, mapM_read?_toTree,
    Option.pure_def, SortedMap.ofList_pairs]

theorem readDefault?_toTree
    (s : Settings) :
    Readable.optional? Settings.read? s.toTree = some (some s) := by
  have habsent : Readable.absent? s.toTree = some false := rfl
  simp only [Readable.optional?, habsent, Settings.read?_toTree, Option.map_some]

theorem read?_toTree
    (p : Profiles) :
    read? p.toTree = some p := by
  obtain ⟨default, named⟩ := p
  have hnamed := readNamed?_pairs named
  cases default with
  | none =>
      have hfields : Readable.fields? fieldNames (toTree ⟨none, named⟩) =
          some [("profiles", .record (named.pairs.map fun pair => (pair.1, pair.2.toTree)))] :=
        rfl
      simp [read?, hfields, Readable.field?, hnamed, empty]
  | some s =>
      have hfields : Readable.fields? fieldNames (toTree ⟨some s, named⟩) =
          some [("default", s.toTree),
            ("profiles", .record (named.pairs.map fun pair => (pair.1, pair.2.toTree)))] :=
        rfl
      simp [read?, hfields, Readable.field?, hnamed, readDefault?_toTree]

/-- However settings are written, they are read back as the settings that agree
on the fields that are there and are standard elsewhere: in particular when
fields are left out of their written form, moved, and mixed with unknown ones,
and with the short name of a unit.  A field that is there twice is refused.
Profiles are read back as they were written. -/
theorem written_values_read_back :
    (∀ (s : Settings) (fields : List (String × Tree)),
      (∀ f ∈ fields, s.Writes f.1 f.2) →
      (∀ name ∈ Settings.fieldNames, (fields.map Prod.fst).count name ≤ 1) →
        Settings.read? (Tree.record fields) = some (s.only (fields.map Prod.fst))) ∧
    (∀ (s : Settings) (given : List String) (extra fields : List (String × Tree)),
      (∀ f ∈ extra, f.1 ∉ Settings.fieldNames) →
      fields.Perm (s.toFields.filter (·.1 ∈ given) ++ extra) →
        Settings.read? (Tree.record fields) = some (s.only given)) ∧
    (∀ s : Settings,
      Settings.read? s.toTree = some s ∧ s.only Settings.fieldNames = s ∧
      s.only [] = Settings.standard) ∧
    (∀ (text : String) (u : TimeUnit),
      TimeUnit.ofName? text = some u ↔ text = u.name ∨ text ∈ u.aliases) ∧
    (∀ fields : List (String × Tree),
      (∃ name ∈ Settings.fieldNames, 2 ≤ (fields.map Prod.fst).count name) →
        Settings.read? (Tree.record fields) = none) ∧
    ∀ p : Profiles, read? p.toTree = some p := by
  refine ⟨fun _ _ => Settings.read?_of_writes, fun _ _ _ _ => Settings.read?_of_perm,
    fun s => ⟨Settings.read?_toTree s, s.only_fieldNames, s.only_nil⟩,
    fun _ _ => TimeUnit.ofName?_eq_some_iff, ?_, read?_toTree⟩
  rintro fields ⟨name, hname, htwice⟩
  cases hread : Settings.read? (Tree.record fields) with
  | none =>
      rfl
  | some t =>
      have honce := Settings.count_le_one_of_read? hread name hname
      omega

/-- Settings for rows that change quickly. -/
def brisk : Settings :=
  { Settings.standard with poll := 250, pollUnit := .milliseconds, jitter := true }

/-- Three fields are enough, in another order, with an unknown one between them
and a unit by its short name; but one of them given twice is refused. -/
theorem written_values_read_back_of_short_name :
    let fields : List (String × Tree) :=
      [("jitter", .truth true), ("comment", .null), ("poll-interval-unit", .text "ms"),
        ("poll-interval", .count 250)]
    Settings.read? (Tree.record fields) = some brisk ∧
    Settings.read? (Tree.record (("comment", .null) :: brisk.toFields.drop 6)) =
      some (brisk.only ["max-poll-interval", "max-poll-interval-unit", "jitter"]) ∧
    Settings.read? (Tree.record (("jitter", .truth true) :: fields)) = none := by
  obtain ⟨hwrites, hperm, -, -, htwice, -⟩ := written_values_read_back
  refine ⟨hwrites brisk _ ?_ (by decide), ?_, htwice _ ⟨"jitter", by decide, by decide⟩⟩
  · simp only [List.forall_mem_cons, List.not_mem_nil, false_imp_iff, implies_true, and_true]
    refine ⟨?_, ?_, ?_, ?_⟩
    all_goals constructor <;> simp [brisk, TimeUnit.WrittenAs, TimeUnit.Spells, TimeUnit.aliases]
  · refine hperm brisk _ [("comment", .null)] _ (by decide) ?_
    exact (List.perm_append_singleton _ _).symm

end Profiles
end BoundedWait

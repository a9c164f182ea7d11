import BoundedWait.Proofs.LastGiven
import BoundedWait.Proofs.Profiles.Layering

/-!
# Stacks of layers

Merging layers is associative, has the empty profiles on either side, and
laying profiles over themselves changes nothing.  So layers merged one after the
other make a stack (`ofLayers`), in which the last layer counts that has
something to say: for each name the last one with settings under this name
(`named_ofLayers`), and for the default the last one with a default
(`default_ofLayers`).

A look-up depends on nothing else, so that settings under one name, valid or
not, never reach a look-up of another one.
-/

namespace BoundedWait
namespace Profiles

/-- The profiles of layers, each over those before it. -/
def ofLayers (layers : List Profiles) : Profiles :=
  layers.foldl merge empty

/-- Profiles with settings put under a name. -/
def put (p : Profiles) (name : String) (s : Settings) : Profiles :=
  { p with named := p.named.insert name s }

section Monoid

variable (a b c : Profiles)

theorem merge_assoc :
    (a.merge b).merge c = a.merge (b.merge c) :=
  Profiles.ext Option.or_assoc.symm (SortedMap.merge_assoc _ _ _)

theorem empty_merge :
    empty.merge a = a :=
  Profiles.ext Option.or_none (SortedMap.empty_merge _)

theorem merge_self :
    a.merge a = a :=
  Profiles.ext Option.or_self (SortedMap.merge_self _)

end Monoid

section Layers

variable (layers : List Profiles)

theorem named_ofLayers
    (name : String) :
    (ofLayers layers).named.get? name = lastGiven (·.named.get? name) layers := by
  have hlast := read_foldl (·.named.get? name) merge (·.named.get? name)
    (fun below above => SortedMap.get?_merge below.named above.named name) layers empty
  rwa [get?_empty, Option.or_none] at hlast

theorem default_ofLayers :
    (ofLayers layers).default = lastGiven (·.default) layers := by
  have hlast := read_foldl (·.default) merge (·.default) (fun _ _ => rfl) layers empty
  have hnone : empty.default = none := rfl
  rwa [hnone, Option.or_none] at hlast

theorem get_ofLayers
    (name : String) :
    (ofLayers layers).get name =
      match lastGiven (·.named.get? name) layers with
      | some s => planOf s
      | none =>
        if name = defaultName then
          match lastGiven (·.default) layers with
          | some s => planOf s
          | none => .ok Plan.standard
        else .error (.unknownProfile name) := by
  rw [← named_ofLayers, ← default_ofLayers]
  rfl

theorem mem_names_ofLayers_iff
    (name : String) :
    name ∈ (ofLayers layers).names ↔ ∃ layer ∈ layers, name ∈ layer.names := by
  simp only [names, SortedMap.mem_keys_iff, named_ofLayers, ne_eq, lastGiven_eq_none_iff,
    Classical.not_forall, exists_prop]

end Layers

theorem names_increasing
    (p : Profiles) :
    p.names.Pairwise (· < ·) :=
  List.pairwise_map.2 (p.named.increasing.imp compareOfLessAndEq_eq_lt.1)

section OtherNames

variable {name other : String} (hother : other ≠ name) (s : Settings)
include hother

theorem get?_put_of_ne
    (p : Profiles) :
    (p.put name s).named.get? other = p.named.get? other := by
  have hcompare : compare other name ≠ .eq := fun heq =>
    hother (Std.LawfulEqOrd.eq_of_compare heq)
  rw [put, SortedMap.get?_insert, if_neg hcompare]

/-- What is put under one name in any layer does not change a look-up of
another one. -/
theorem get_put_of_ne
    (before after : List Profiles) (layer : Profiles) :
    (ofLayers (before ++ layer.put name s :: after)).get other =
      (ofLayers (before ++ layer :: after)).get other := by
  have hnamed : lastGiven (·.named.get? other) (before ++ layer.put name s :: after) =
      lastGiven (·.named.get? other) (before ++ layer :: after) := by
    simp only [lastGiven, List.filterMap_append, List.filterMap_cons, get?_put_of_ne hother]
  have hdefault : lastGiven (·.default) (before ++ layer.put name s :: after) =
      lastGiven (·.default) (before ++ layer :: after) := by
    simp only [lastGiven, List.filterMap_append, List.filterMap_cons, put]
  rw [get_ofLayers, get_ofLayers, hnamed, hdefault]

end OtherNames

/-- Merging layers is a monoid in which each layer absorbs itself.  In merged
layers a name stands for what the last layer has under it that has anything, and
only the name of the default profile falls back to the last default; the names
are those of all layers, in order; and settings under one name do not change
what another one stands for. -/
theorem last_layer_counts :
    (∀ a b c : Profiles, (a.merge b).merge c = a.merge (b.merge c)) ∧
    (∀ a : Profiles, empty.merge a = a ∧ a.merge empty = a ∧ a.merge a = a) ∧
    (∀ (layers : List Profiles) (name : String),
      (ofLayers layers).get name =
        match lastGiven (·.named.get? name) layers with
        | some s => planOf s
        | none =>
          if name = defaultName then
            match lastGiven (·.default) layers with
            | some s => planOf s
            | none => .ok Plan.standard
          else .error (.unknownProfile name)) ∧
    (∀ layers : List Profiles,
      (ofLayers layers).names.Pairwise (· < ·) ∧
      ∀ name, name ∈ (ofLayers layers).names ↔ ∃ layer ∈ layers, name ∈ layer.names) ∧
    ∀ (before after : List Profiles) (layer : Profiles) (name other : String) (s : Settings),
      other ≠ name →
        (ofLayers (before ++ layer.put name s :: after)).get other =
          (ofLayers (before ++ layer :: after)).get other := by
  refine ⟨merge_assoc, fun a => ⟨empty_merge a, merge_empty a, merge_self a⟩, get_ofLayers, ?_, ?_⟩
  · intro layers
    exact ⟨names_increasing _, mem_names_ofLayers_iff layers⟩
  · intro before after layer name other s hother
    exact get_put_of_ne hother s before after layer

/-- Settings that never poll. -/
def idle : Settings :=
  { Settings.standard with poll := 0 }

/-- Settings for rows with a timeout of seven minutes. -/
def patient : Settings :=
  { Settings.standard with timeout := 7 }

/-- Settings that make no plan, over built-in ones and beside others, are seen
under their own name only. -/
theorem last_layer_counts_beside_idle :
    let layers := [builtin, (empty.put "database-row" patient).put "queue-dequeue" idle]
    "database-row" ≠ "queue-dequeue" ∧
    (ofLayers layers).get "queue-dequeue" = .error (.ofDefect .zeroPoll) ∧
    (ofLayers layers).get "database-row" = planOf patient ∧
    (planOf patient).isOk = true ∧
    (ofLayers layers).get "database-row" =
      (ofLayers [builtin, empty.put "database-row" patient]).get "database-row" := by
  obtain ⟨-, -, hget, -, hother⟩ := last_layer_counts
  refine ⟨by decide, (hget _ _).trans ?_, (hget _ _).trans ?_, by decide +kernel, ?_⟩
  · rfl
  · rfl
  · exact hother [builtin] [] (empty.put "database-row" patient) _ _ idle (by decide)

end Profiles
end BoundedWait

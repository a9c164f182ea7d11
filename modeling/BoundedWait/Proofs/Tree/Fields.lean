import BoundedWait.Tree
import Mathlib.Data.List.Count

/-!
# Fields of a record

A field is read from the record if it is there once, and has its default if it
is not there at all (`Readable.field?_eq_some`); nothing is read from a record
that has it twice (`Readable.count_le_one_of_field?`).  Other fields, and the
order of the fields, do not matter.
-/

namespace BoundedWait
namespace Readable

theorem length_found
    {ν : Type} (fields : List (String × ν)) (key : String) :
    (fields.filter fun f => f.1 == key).length = (fields.map Prod.fst).count key := by
  rw [List.count, List.countP_map, List.countP_eq_length_filter]
  rfl

variable {ν β : Type}
variable {fields : List (String × ν)} {key : String} {read : ν → Option β} {default value : β}

theorem count_le_one_of_field?
    (h : field? fields key read default = some value) :
    (fields.map Prod.fst).count key ≤ 1 := by
  rw [← length_found]
  cases hfound : fields.filter fun f => f.1 == key with
  | nil =>
      exact Nat.zero_le 1
  | cons f rest =>
      cases rest with
      | nil =>
          exact Nat.le_refl 1
      | cons g rest =>
          simp only [field?, hfound] at h
          cases h

theorem field?_eq_some
    (honce : (fields.map Prod.fst).count key ≤ 1)
    (hread : ∀ f ∈ fields, f.1 = key → read f.2 = some value) :
    field? fields key read default =
      some (if key ∈ fields.map Prod.fst then value else default) := by
  have hlength := length_found fields key
  cases hfound : fields.filter fun f => f.1 == key with
  | nil =>
      rw [hfound] at hlength
      simp only [field?, hfound, if_neg (List.count_eq_zero.1 hlength.symm)]
  | cons f rest =>
      rw [hfound] at hlength
      obtain rfl : rest = [] := by
        refine List.length_eq_zero_iff.1 ?_
        rw [List.length_cons] at hlength
        omega
      have hf : f ∈ fields.filter fun f => f.1 == key := hfound ▸ List.mem_cons_self
      obtain ⟨hmem, hsame⟩ := List.mem_filter.1 hf
      have hkey : f.1 = key := eq_of_beq hsame
      have hpresent : key ∈ fields.map Prod.fst := List.mem_map.2 ⟨f, hmem, hkey⟩
      simp only [field?, hfound, if_pos hpresent]
      exact hread f hmem hkey

end Readable
end BoundedWait

/-!
# Sorted maps

A sorted map is a list of pairs whose keys strictly increase.  Inserting puts a
pair in its place or replaces the value that stands there, so the map of a list
of pairs holds the last value of each key.  Maps with the same look-ups are
equal.
-/

namespace BoundedWait

/-- Pairs in strictly increasing order of their keys. -/
@[ext] structure SortedMap (κ α : Type) [Ord κ] where
  pairs : List (κ × α)
  increasing : pairs.Pairwise fun a b => compare a.1 b.1 = .lt

namespace SortedMap

variable {κ α : Type} [Ord κ]

/-- Puts a pair in its place in a list. -/
def place (k : κ) (v : α) : List (κ × α) → List (κ × α)
  | [] => [(k, v)]
  | (k', v') :: rest =>
    match compare k k' with
    | .lt => (k, v) :: (k', v') :: rest
    | .eq => (k, v) :: rest
    | .gt => (k', v') :: place k v rest

/-- The value of a key in a list. -/
def find? (k : κ) : List (κ × α) → Option α
  | [] => none
  | (k', v') :: rest => if compare k k' = .eq then some v' else find? k rest

theorem mem_place {k : κ} {v : α} {x : κ × α} {l : List (κ × α)} (h : x ∈ place k v l) :
    x = (k, v) ∨ x ∈ l := by
  induction l with
  | nil =>
      simpa [place] using h
  | cons y rest ih =>
      obtain ⟨k', v'⟩ := y
      simp only [place] at h
      split at h
      · simpa using h
      · rcases List.mem_cons.1 h with h | h
        · exact Or.inl h
        · exact Or.inr (List.mem_cons_of_mem _ h)
      · rcases List.mem_cons.1 h with h | h
        · exact Or.inr (h ▸ List.mem_cons_self)
        · exact (ih h).imp id (List.mem_cons_of_mem _)

variable [Std.LawfulEqOrd κ]

theorem find?_place (k j : κ) (v : α) (l : List (κ × α)) :
    find? j (place k v l) = if compare j k = .eq then some v else find? j l := by
  induction l with
  | nil =>
      simp [place, find?]
  | cons y rest ih =>
      obtain ⟨k', v'⟩ := y
      simp only [place]
      split
      · simp [find?]
      · rename_i heq
        have hk : k = k' := Std.LawfulEqOrd.eq_of_compare heq
        subst hk
        simp only [find?]
        split <;> simp_all
      · rename_i hgt
        simp only [find?, ih]
        by_cases hj : compare j k = .eq
        · have hjk : j = k := Std.LawfulEqOrd.eq_of_compare hj
          subst hjk
          simp [hgt]
        · simp [hj]

variable [Std.TransOrd κ]

theorem increasing_place (k : κ) (v : α) {l : List (κ × α)}
    (h : l.Pairwise fun a b => compare a.1 b.1 = .lt) :
    (place k v l).Pairwise fun a b => compare a.1 b.1 = .lt := by
  induction l with
  | nil =>
      simp [place]
  | cons y rest ih =>
      obtain ⟨k', v'⟩ := y
      obtain ⟨hhead, htail⟩ := List.pairwise_cons.1 h
      simp only [place]
      split
      · rename_i hlt
        refine List.pairwise_cons.2 ⟨?_, h⟩
        intro x hx
        rcases List.mem_cons.1 hx with rfl | hx
        · exact hlt
        · exact Std.TransCmp.lt_trans hlt (hhead x hx)
      · rename_i heq
        have hk : k = k' := Std.LawfulEqOrd.eq_of_compare heq
        subst hk
        exact List.pairwise_cons.2 ⟨hhead, htail⟩
      · rename_i hgt
        refine List.pairwise_cons.2 ⟨?_, ih htail⟩
        intro x hx
        rcases mem_place hx with rfl | hx
        · exact Std.OrientedCmp.gt_iff_lt.1 hgt
        · exact hhead x hx

/-- The map without pairs. -/
def empty : SortedMap κ α := ⟨[], List.Pairwise.nil⟩

/-- The map with one pair added, or one value replaced. -/
def insert (m : SortedMap κ α) (k : κ) (v : α) : SortedMap κ α :=
  ⟨place k v m.pairs, increasing_place k v m.increasing⟩

/-- The value of a key. -/
def get? (m : SortedMap κ α) (k : κ) : Option α :=
  find? k m.pairs

/-- The keys, in increasing order. -/
def keys (m : SortedMap κ α) : List κ :=
  m.pairs.map Prod.fst

/-- There is no pair. -/
def isEmpty (m : SortedMap κ α) : Bool :=
  m.pairs.isEmpty

/-- Adds pairs one after the other. -/
def insertAll (m : SortedMap κ α) (pairs : List (κ × α)) : SortedMap κ α :=
  pairs.foldl (fun m pair => m.insert pair.1 pair.2) m

/-- The map of a list of pairs. -/
def ofList (pairs : List (κ × α)) : SortedMap κ α :=
  empty.insertAll pairs

/-- The pairs of both maps, where those of the second map replace others. -/
def merge (a b : SortedMap κ α) : SortedMap κ α :=
  a.insertAll b.pairs

/-- Looking up a key after an insertion. -/
theorem get?_insert (m : SortedMap κ α) (k j : κ) (v : α) :
    (m.insert k v).get? j = if compare j k = .eq then some v else m.get? j :=
  find?_place k j v m.pairs

end SortedMap
end BoundedWait

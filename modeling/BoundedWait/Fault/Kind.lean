/-!
# Kinds of faults

The closed list of reasons for which an attempt can fail, in a fixed order.
`index` numbers the kinds in that order, and `Kind.all` lists them in it.
-/

namespace BoundedWait
namespace Fault

/-- Why an attempt failed. -/
inductive Kind
  /-- The expected state has not been observed yet. -/
  | notYetReady
  /-- The awaited resource has not been set up yet. -/
  | notProvisioned
  /-- The service answered but is not serving. -/
  | unavailable
  /-- The connection was refused, reset or timed out. -/
  | transport
  /-- The request conflicts with the present state. -/
  | conflict
  /-- The addressed resource does not exist. -/
  | notFound
  /-- The credentials were rejected. -/
  | unauthorized
  /-- The answer could not be interpreted. -/
  | invalidResponse
  /-- Anything else. -/
  | other
deriving DecidableEq, Repr

namespace Kind

/-- Every kind, in order. -/
def all : List Kind :=
  [notYetReady, notProvisioned, unavailable, transport, conflict, notFound,
    unauthorized, invalidResponse, other]

theorem mem_all (k : Kind) :
    k ∈ all := by
  cases k <;> decide

/-- The position of a kind in the order. -/
def index : Kind → Nat
  | notYetReady => 0
  | notProvisioned => 1
  | unavailable => 2
  | transport => 3
  | conflict => 4
  | notFound => 5
  | unauthorized => 6
  | invalidResponse => 7
  | other => 8

theorem index_lt (k : Kind) :
    k.index < 9 := by
  cases k <;> decide

theorem index_injective {a b : Kind} (h : a.index = b.index) :
    a = b := by
  cases a <;> cases b <;> first | rfl | (exact absurd h (by decide))

/-- The kinds are listed in the order of their positions. -/
theorem map_index_all :
    all.map index = List.range 9 := rfl

theorem exists_index {i : Nat} (h : i < 9) :
    ∃ k : Kind, k.index = i := by
  have hmem : i ∈ all.map index := by
    rw [map_index_all]
    exact List.mem_range.2 h
  obtain ⟨k, -, hk⟩ := List.mem_map.1 hmem
  exact ⟨k, hk⟩

instance : Ord Kind := ⟨fun a b => compare a.index b.index⟩

/-- The name of a kind in messages and files. -/
def name : Kind → String
  | notYetReady => "not-yet-ready"
  | notProvisioned => "not-provisioned"
  | unavailable => "unavailable"
  | transport => "transport"
  | conflict => "conflict"
  | notFound => "not-found"
  | unauthorized => "unauthorized"
  | invalidResponse => "invalid-response"
  | other => "other"

/-- The name of a kind inside the text of a value. -/
def label : Kind → String
  | notYetReady => "NotYetReady"
  | notProvisioned => "NotProvisioned"
  | unavailable => "Unavailable"
  | transport => "Transport"
  | conflict => "Conflict"
  | notFound => "NotFound"
  | unauthorized => "Unauthorized"
  | invalidResponse => "InvalidResponse"
  | other => "Other"

/-- The kind of a name. -/
def ofName? (text : String) : Option Kind :=
  all.find? (·.name == text)

theorem ofName?_name (k : Kind) :
    ofName? k.name = some k := by
  cases k <;> decide +kernel

/-- The kind of fault that an HTTP status code reports; informational, success
and redirect codes report none. -/
def ofHttpStatus? (code : Nat) : Option Kind :=
  if 100 ≤ code ∧ code ≤ 399 then none
  else if code ∈ [401, 403] then some unauthorized
  else if code ∈ [404, 410] then some notFound
  else if code ∈ [409, 412, 423] then some conflict
  else if code ∈ [408, 425, 429, 502, 503, 504] then some unavailable
  else some other

end Kind
end Fault
end BoundedWait

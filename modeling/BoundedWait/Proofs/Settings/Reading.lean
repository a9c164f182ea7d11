import BoundedWait.Settings.Written
import BoundedWait.Proofs.Tree.Fields
import Mathlib.Data.List.Nodup

/-!
# Settings read back

Settings can be written in many ways: with fewer fields, in another order, with
other fields between them, and with any alias of a unit (`Settings.Writes`).  All
these ways are read back as the settings that agree on the fields that are there
and are standard elsewhere (`Settings.read?_of_writes`), but a field that is
there twice is refused (`Settings.count_le_one_of_read?`).
-/

namespace BoundedWait

namespace TimeUnit

/-- A text is the name of a unit, or an alias of it. -/
def Spells (text : String) (u : TimeUnit) : Prop :=
  text = u.name ∨ text ∈ u.aliases

/-- A value is a text for a unit. -/
def WrittenAs (u : TimeUnit) (v : Tree) : Prop :=
  ∃ text, v = .text text ∧ Spells text u

theorem ofName?_eq_some_iff
    {text : String} {u : TimeUnit} :
    ofName? text = some u ↔ Spells text u := by
  constructor
  · intro h
    have hspelled := List.find?_some h
    rw [Bool.or_eq_true, beq_iff_eq, List.contains_iff_mem] at hspelled
    exact hspelled.imp_left Eq.symm
  · -- No text is spelled for two units.
    have hall : ∀ text ∈ u.name :: u.aliases, ofName? text = some u := by
      cases u <;> decide +kernel
    exact fun h => hall text (List.mem_cons.2 h)

end TimeUnit

namespace Settings

/-- What may stand under a name where settings are written: anything, unless the
name is that of a field. -/
structure Writes (s : Settings) (name : String) (v : Tree) : Prop where
  poll : name = "poll-interval" → v = .count s.poll
  pollUnit : name = "poll-interval-unit" → s.pollUnit.WrittenAs v
  timeout : name = "wait-timeout" → v = .count s.timeout
  timeoutUnit : name = "wait-timeout-unit" → s.timeoutUnit.WrittenAs v
  growth : name = "strategy" → v = .text s.growth.name
  multiplier : name = "backoff-multiplier" → v = .real s.multiplier
  cap : name = "max-poll-interval" → v = (s.cap.map Tree.count).getD .null
  capUnit : name = "max-poll-interval-unit" → s.capUnit.WrittenAs v
  jitter : name = "jitter" → v = .truth s.jitter

/-- The settings that agree with others on the given fields and are standard
elsewhere. -/
def only (s : Settings) (given : List String) : Settings where
  poll := if "poll-interval" ∈ given then s.poll else standard.poll
  pollUnit := if "poll-interval-unit" ∈ given then s.pollUnit else standard.pollUnit
  timeout := if "wait-timeout" ∈ given then s.timeout else standard.timeout
  timeoutUnit := if "wait-timeout-unit" ∈ given then s.timeoutUnit else standard.timeoutUnit
  growth := if "strategy" ∈ given then s.growth else standard.growth
  multiplier := if "backoff-multiplier" ∈ given then s.multiplier else standard.multiplier
  cap := if "max-poll-interval" ∈ given then s.cap else standard.cap
  capUnit := if "max-poll-interval-unit" ∈ given then s.capUnit else standard.capUnit
  jitter := if "jitter" ∈ given then s.jitter else standard.jitter

section Values

variable {v : Tree}

theorem readUnit?_of_writtenAs
    {u : TimeUnit}
    (h : u.WrittenAs v) :
    readUnit? v = some u := by
  obtain ⟨text, rfl, hspells⟩ := h
  exact TimeUnit.ofName?_eq_some_iff.2 hspells

theorem readGrowth?_name
    (g : Growth) :
    readGrowth? (Tree.text g.name) = some g :=
  Growth.ofName?_name g

theorem optional?_count
    (cap : Option UInt64) :
    Readable.optional? Readable.count? ((cap.map Tree.count).getD .null) = some cap := by
  cases cap <;> rfl

end Values

/-- The values that are read where nothing is written are those of the standard
settings. -/
theorem unwritten_eq_standard :
    unwritten = standard :=
  rfl

/-- Every field is read on its own, and is standard if it is not there. -/
theorem ofFields?_eq_some_iff
    {ν : Type} [Readable ν]
    {fields : List (String × ν)} {t : Settings} :
    ofFields? fields = some t ↔
      Readable.field? fields "poll-interval" Readable.count? standard.poll = some t.poll ∧
      Readable.field? fields "poll-interval-unit" readUnit? standard.pollUnit =
        some t.pollUnit ∧
      Readable.field? fields "wait-timeout" Readable.count? standard.timeout = some t.timeout ∧
      Readable.field? fields "wait-timeout-unit" readUnit? standard.timeoutUnit =
        some t.timeoutUnit ∧
      Readable.field? fields "strategy" readGrowth? standard.growth = some t.growth ∧
      Readable.field? fields "backoff-multiplier" Readable.real? standard.multiplier =
        some t.multiplier ∧
      Readable.field? fields "max-poll-interval" (Readable.optional? Readable.count?)
        standard.cap = some t.cap ∧
      Readable.field? fields "max-poll-interval-unit" readUnit? standard.capUnit =
        some t.capUnit ∧
      Readable.field? fields "jitter" Readable.truth? standard.jitter = some t.jitter := by
  simp only [ofFields?, unwritten_eq_standard, Option.bind_eq_bind, Option.bind_eq_some_iff,
    Option.pure_def, Option.some.injEq]
  constructor
  · rintro ⟨_, hpoll, _, hpollUnit, _, htimeout, _, htimeoutUnit, _, hgrowth, _, hmultiplier,
      _, hcap, _, hcapUnit, _, hjitter, rfl⟩
    exact ⟨hpoll, hpollUnit, htimeout, htimeoutUnit, hgrowth, hmultiplier, hcap, hcapUnit,
      hjitter⟩
  · rintro ⟨hpoll, hpollUnit, htimeout, htimeoutUnit, hgrowth, hmultiplier, hcap, hcapUnit,
      hjitter⟩
    exact ⟨_, hpoll, _, hpollUnit, _, htimeout, _, htimeoutUnit, _, hgrowth, _, hmultiplier,
      _, hcap, _, hcapUnit, _, hjitter, rfl⟩

/-- What is read agrees with the settings on the fields that are there. -/
theorem read?_of_writes
    {s : Settings} {fields : List (String × Tree)}
    (hwrites : ∀ f ∈ fields, s.Writes f.1 f.2)
    (honce : ∀ name ∈ fieldNames, (fields.map Prod.fst).count name ≤ 1) :
    read? (Tree.record fields) = some (s.only (fields.map Prod.fst)) := by
  -- all fields are read alike, each with its own reader
  have hfield : ∀ {β : Type} {name : String} {read : Tree → Option β} {default value : β},
      name ∈ fieldNames → (∀ v, s.Writes name v → read v = some value) →
      Readable.field? fields name read default =
        some (if name ∈ fields.map Prod.fst then value else default) := by
    intro β name read default value hname hread
    refine Readable.field?_eq_some (honce name hname) fun f hf hkey => hread f.2 ?_
    rw [← hkey]
    exact hwrites f hf
  refine ofFields?_eq_some_iff.2 ⟨?_, ?_, ?_, ?_, ?_, ?_, ?_, ?_, ?_⟩
  · exact hfield (by decide) fun v h => by rw [h.poll rfl]; rfl
  · exact hfield (by decide) fun v h => readUnit?_of_writtenAs (h.pollUnit rfl)
  · exact hfield (by decide) fun v h => by rw [h.timeout rfl]; rfl
  · exact hfield (by decide) fun v h => readUnit?_of_writtenAs (h.timeoutUnit rfl)
  · exact hfield (by decide) fun v h => by rw [h.growth rfl]; exact readGrowth?_name s.growth
  · exact hfield (by decide) fun v h => by rw [h.multiplier rfl]; rfl
  · exact hfield (by decide) fun v h => by rw [h.cap rfl]; exact optional?_count s.cap
  · exact hfield (by decide) fun v h => readUnit?_of_writtenAs (h.capUnit rfl)
  · exact hfield (by decide) fun v h => by rw [h.jitter rfl]; rfl

theorem count_le_one_of_read?
    {fields : List (String × Tree)} {t : Settings}
    (h : read? (Tree.record fields) = some t) :
    ∀ name ∈ fieldNames, (fields.map Prod.fst).count name ≤ 1 := by
  obtain ⟨hpoll, hpollUnit, htimeout, htimeoutUnit, hgrowth, hmultiplier, hcap, hcapUnit,
    hjitter⟩ := ofFields?_eq_some_iff.1 h
  simp only [fieldNames, List.forall_mem_cons, List.not_mem_nil, false_imp_iff, implies_true,
    and_true]
  exact ⟨Readable.count_le_one_of_field? hpoll, Readable.count_le_one_of_field? hpollUnit,
    Readable.count_le_one_of_field? htimeout, Readable.count_le_one_of_field? htimeoutUnit,
    Readable.count_le_one_of_field? hgrowth, Readable.count_le_one_of_field? hmultiplier,
    Readable.count_le_one_of_field? hcap, Readable.count_le_one_of_field? hcapUnit,
    Readable.count_le_one_of_field? hjitter⟩

section Fields

variable (s : Settings)

theorem map_fst_toFields :
    s.toFields.map Prod.fst = fieldNames :=
  rfl

theorem writes_toFields :
    ∀ f ∈ s.toFields, s.Writes f.1 f.2 := by
  have hspells : ∀ u : TimeUnit, u.WrittenAs (.text u.name) := fun u => ⟨u.name, rfl, Or.inl rfl⟩
  simp only [toFields, List.forall_mem_cons, List.not_mem_nil, false_imp_iff, implies_true,
    and_true]
  refine ⟨?_, ?_, ?_, ?_, ?_, ?_, ?_, ?_, ?_⟩
  all_goals constructor <;> simp [hspells]

theorem writes_of_not_mem
    {name : String}
    (h : name ∉ fieldNames) (v : Tree) :
    s.Writes name v := by
  have hne : ∀ field ∈ fieldNames, name ≠ field := fun field hfield heq => h (heq ▸ hfield)
  simp only [fieldNames, List.forall_mem_cons] at hne
  obtain ⟨hpoll, hpollUnit, htimeout, htimeoutUnit, hgrowth, hmultiplier, hcap, hcapUnit,
    hjitter, -⟩ := hne
  constructor <;> intro heq <;> contradiction

theorem only_congr
    {given given' : List String}
    (h : ∀ name ∈ fieldNames, name ∈ given ↔ name ∈ given') :
    s.only given = s.only given' := by
  simp only [fieldNames, List.forall_mem_cons] at h
  obtain ⟨hpoll, hpollUnit, htimeout, htimeoutUnit, hgrowth, hmultiplier, hcap, hcapUnit,
    hjitter, -⟩ := h
  simp only [only, hpoll, hpollUnit, htimeout, htimeoutUnit, hgrowth, hmultiplier, hcap,
    hcapUnit, hjitter]

theorem only_fieldNames :
    s.only fieldNames = s := by
  simp [only, fieldNames]

theorem only_nil :
    s.only [] = standard := by
  simp [only]

end Fields

theorem read?_toTree
    (s : Settings) :
    read? s.toTree = some s := by
  have honce : ∀ name ∈ fieldNames, (s.toFields.map Prod.fst).count name ≤ 1 := by
    rw [map_fst_toFields]
    decide
  have hread := read?_of_writes s.writes_toFields honce
  rwa [map_fst_toFields, only_fieldNames] at hread

/-- Written settings may lose fields, be put into another order and get unknown
fields. -/
theorem read?_of_perm
    {s : Settings} {given : List String} {extra fields : List (String × Tree)}
    (hextra : ∀ f ∈ extra, f.1 ∉ fieldNames)
    (hperm : fields.Perm (s.toFields.filter (·.1 ∈ given) ++ extra)) :
    read? (Tree.record fields) = some (s.only given) := by
  -- under a field's name there is what was written, and nothing else
  have hnone : ∀ name ∈ fieldNames, name ∉ extra.map Prod.fst := by
    intro name hname hmem
    obtain ⟨f, hf, rfl⟩ := List.mem_map.1 hmem
    exact hextra f hf hname
  have hkept : (s.toFields.filter (·.1 ∈ given)).map Prod.fst = fieldNames.filter (· ∈ given) := by
    rw [← s.map_fst_toFields, List.filter_map]
    rfl
  have hnames := hperm.map Prod.fst
  rw [List.map_append, hkept] at hnames
  have hwrites : ∀ f ∈ fields, s.Writes f.1 f.2 := by
    intro f hf
    rcases List.mem_append.1 (hperm.mem_iff.1 hf) with hkept | hextra'
    · exact s.writes_toFields f (List.mem_filter.1 hkept).1
    · exact s.writes_of_not_mem (hextra f hextra') f.2
  have honce : ∀ name ∈ fieldNames, (fields.map Prod.fst).count name ≤ 1 := by
    intro name hname
    rw [hnames.count_eq, List.count_append, List.count_eq_zero.2 (hnone name hname)]
    exact List.nodup_iff_count.1 (List.Nodup.filter _ (by decide)) name
  have hgiven : ∀ name ∈ fieldNames, name ∈ fields.map Prod.fst ↔ name ∈ given := by
    intro name hname
    simp [hnames.mem_iff, hname, hnone name hname]
  rw [read?_of_writes hwrites honce, s.only_congr hgiven]

end Settings
end BoundedWait

import BoundedWait.Profiles.Environment
import Mathlib.Data.List.Induction
import Mathlib.Data.List.TakeWhile
import Mathlib.Data.Nat.Digits.Defs

/-!
# What the variables mean

A variable for a time means a number of milliseconds, written in decimal digits
(`Numeral`), and the one for the jitter a truth value, said by one of eight
words (`Says`).

The environment can be applied exactly when each variable that is set means
something, and then it replaces what these variables are about and keeps the
rest: `Environment.apply_eq_ok_iff` and `Environment.exists_overrides_iff`.
-/

namespace BoundedWait

namespace Error

theorem bind_eq_ok_iff
    {α β : Type} {x : Except Error α} {f : α → Except Error β} {b : β} :
    (x >>= f) = .ok b ↔ ∃ a, x = .ok a ∧ f a = .ok b := by
  cases x with
  | error error =>
      exact iff_of_false nofun nofun
  | ok a =>
      exact ⟨fun h => ⟨a, rfl, h⟩, fun ⟨_, ha, h⟩ => by cases ha; exact h⟩

end Error

namespace Text

theorem exists_eq_trimBlank (text : List Char) :
    ∃ before after,
      text = before ++ trimBlank text ++ after ∧
      (∀ c ∈ before, isBlank c) ∧ ∀ c ∈ after, isBlank c := by
  set rest := text.dropWhile isBlank with hrest
  refine ⟨text.takeWhile isBlank, (rest.reverse.takeWhile isBlank).reverse, ?_, ?_, ?_⟩
  · have hback : trimBlank text ++ (rest.reverse.takeWhile isBlank).reverse = rest := by
      rw [trimBlank, ← hrest, ← List.reverse_append, List.takeWhile_append_dropWhile,
        List.reverse_reverse]
    rw [List.append_assoc, hback, hrest, List.takeWhile_append_dropWhile]
  · intro c hc
    exact List.mem_takeWhile_imp hc
  · intro c hc
    exact List.mem_takeWhile_imp (List.mem_reverse.1 hc)

/-- Blanks are dropped up to a word, which begins without one. -/
theorem dropWhile_isBlank_append
    {before word : List Char} (hbefore : ∀ c ∈ before, isBlank c)
    (hne : word ≠ []) (hword : ∀ c ∈ word, ¬isBlank c) (after : List Char) :
    (before ++ (word ++ after)).dropWhile isBlank = word ++ after := by
  rw [List.dropWhile_append_of_pos hbefore]
  cases word with
  | nil =>
      exact absurd rfl hne
  | cons c rest =>
      exact List.dropWhile_cons_of_neg (hword c List.mem_cons_self)

theorem trimBlank_append
    {before word after : List Char}
    (hbefore : ∀ c ∈ before, isBlank c) (hafter : ∀ c ∈ after, isBlank c)
    (hne : word ≠ []) (hword : ∀ c ∈ word, ¬isBlank c) :
    trimBlank (before ++ word ++ after) = word := by
  have hback : (after.reverse ++ (word.reverse ++ [])).dropWhile isBlank = word.reverse ++ [] :=
    dropWhile_isBlank_append (by simpa using hafter) (by simpa using hne) (by simpa using hword) []
  rw [trimBlank, List.append_assoc, dropWhile_isBlank_append hbefore hne hword,
    List.reverse_append]
  simpa using congrArg List.reverse hback

theorem toLower_eq_of_isBlank
    {c : Char} (h : isBlank c) :
    c.toLower = c := by
  refine dif_neg ?_
  rintro ⟨hlow, hhigh⟩
  -- no capital letter is blank
  have hnone : ∀ n < 91, 65 ≤ n → isBlank (Char.ofNat n) = false := by
    decide +kernel
  have hcapital := hnone c.toNat (Nat.lt_succ_of_le (UInt32.le_iff_toNat_le.1 hhigh))
    (UInt32.le_iff_toNat_le.1 hlow)
  rw [Char.ofNat_toNat, h] at hcapital
  cases hcapital

end Text

namespace Environment

/-- A text is a numeral for a number: its decimal digits, with or without a
plus sign. -/
def Numeral (text : String) (n : UInt64) : Prop :=
  ∃ digits : List Nat, digits ≠ [] ∧ (∀ d ∈ digits, d < 10) ∧
    Nat.ofDigits 10 digits.reverse = n.toNat ∧
    (text.toList = digits.map Nat.digitChar ∨ text.toList = '+' :: digits.map Nat.digitChar)

/-- The words for a truth value. -/
def flagWords : Bool → List String
  | true => ["true", "1", "yes", "on"]
  | false => ["false", "0", "no", "off"]

/-- A text says a truth value: one of the words for it, in small letters or
capitals, with blanks around it. -/
def Says (text : String) (on : Bool) : Prop :=
  ∃ before word after : List Char,
    text.toList = before ++ word ++ after ∧
    (∀ c ∈ before, Text.isBlank c) ∧ (∀ c ∈ after, Text.isBlank c) ∧
    String.ofList (Text.lowerAscii word) ∈ flagWords on

theorem digitChar_of_isDigit
    {c : Char} (h : c.isDigit) :
    c.toNat - 48 < 10 ∧ Nat.digitChar (c.toNat - 48) = c := by
  have hdigit : ∀ n < 58, 48 ≤ n → n - 48 < 10 ∧ Nat.digitChar (n - 48) = Char.ofNat n := by
    decide
  obtain ⟨hlow, hhigh⟩ := Char.isDigit_iff_toNat.1 h
  simpa using hdigit c.toNat (Nat.lt_succ_of_le hhigh) hlow

theorem exists_digits_iff
    (text : List Char) :
    (∃ digits : List Nat, (∀ d ∈ digits, d < 10) ∧ text = digits.map Nat.digitChar) ↔
      ∀ c ∈ text, c.isDigit := by
  constructor
  · rintro ⟨digits, hdigits, rfl⟩ c hc
    obtain ⟨d, hd, rfl⟩ := List.mem_map.1 hc
    simpa [Nat.isDigit_digitChar] using hdigits d hd
  · intro h
    refine ⟨text.map fun c => c.toNat - 48, ?_, ?_⟩
    · intro d hd
      obtain ⟨c, hc, rfl⟩ := List.mem_map.1 hd
      exact (digitChar_of_isDigit (h c hc)).1
    · rw [List.map_map]
      refine (List.map_id text).symm.trans (List.map_congr_left fun c hc => ?_)
      exact (digitChar_of_isDigit (h c hc)).2.symm

theorem ofDigitChars_digits
    {digits : List Nat} (h : ∀ d ∈ digits, d < 10) :
    Nat.ofDigitChars 10 (digits.map Nat.digitChar) 0 = Nat.ofDigits 10 digits.reverse := by
  induction digits using List.reverseRecOn with
  | nil =>
      rfl
  | append_singleton rest d ih =>
      have hd : d < 10 := h d (by simp)
      have hrest : ∀ d ∈ rest, d < 10 := fun d hmem => h d (by simp [hmem])
      rw [List.map_append, Nat.ofDigitChars_append, ih hrest, List.reverse_append]
      simp [Nat.ofDigits_cons, Nat.ofDigitChars_cons_digitChar_of_lt_ten hd, Nat.add_comm]

/-- A text without a plus sign at its beginning. -/
def unsigned : List Char → List Char
  | '+' :: rest => rest
  | rest => rest

theorem unsigned_eq_iff
    {text chars : List Char} (h : ∀ c ∈ chars, c.isDigit) :
    unsigned text = chars ↔ text = chars ∨ text = '+' :: chars := by
  unfold unsigned
  split
  · constructor
    · rintro rfl
      exact Or.inr rfl
    · rintro (hplus | hplus)
      · exact absurd (h '+' (hplus ▸ List.mem_cons_self)) (by decide)
      · exact List.tail_eq_of_cons_eq hplus
  · rename_i hnoplus
    constructor
    · exact Or.inl
    · rintro (heq | hplus)
      · exact heq
      · exact absurd hplus (hnoplus chars)

theorem number?_eq_some_iff_unsigned
    (text : String) (n : UInt64) :
    number? text = some n ↔
      unsigned text.toList ≠ [] ∧ (∀ c ∈ unsigned text.toList, c.isDigit) ∧
        Nat.ofDigitChars 10 (unsigned text.toList) 0 = n.toNat := by
  have hnumber : number? text =
      if (unsigned text.toList).isEmpty || !(unsigned text.toList).all Char.isDigit then none
      else if Nat.ofDigitChars 10 (unsigned text.toList) 0 < UInt64.size then
        some (UInt64.ofNat (Nat.ofDigitChars 10 (unsigned text.toList) 0))
      else none := rfl
  rw [hnumber]
  generalize unsigned text.toList = chars
  generalize Nat.ofDigitChars 10 chars 0 = value
  by_cases hchars : chars ≠ [] ∧ ∀ c ∈ chars, c.isDigit
  · have hwritten : (chars.isEmpty || !chars.all Char.isDigit) = false := by
      simpa using hchars
    rw [if_neg (by simp [hwritten]), and_iff_right hchars.1, and_iff_right hchars.2]
    split
    · rename_i hsize
      rw [Option.some.injEq, ← UInt64.toNat_inj, UInt64.toNat_ofNat_of_lt' hsize]
    · rename_i hsize
      constructor
      · nofun
      · rintro rfl
        exact absurd n.toNat_lt hsize
  · have hwritten : (chars.isEmpty || !chars.all Char.isDigit) = true := by
      rw [← Bool.not_eq_false]
      simpa using hchars
    rw [if_pos hwritten]
    constructor
    · nofun
    · rintro ⟨hne, hall, -⟩
      exact absurd ⟨hne, hall⟩ hchars

theorem number?_eq_some_iff
    (text : String) (n : UInt64) :
    number? text = some n ↔ Numeral text n := by
  rw [number?_eq_some_iff_unsigned]
  constructor
  · rintro ⟨hne, hall, hn⟩
    obtain ⟨digits, hdigits, hchars⟩ := (exists_digits_iff _).2 hall
    refine ⟨digits, ?_, hdigits, ?_, ?_⟩
    · rintro rfl
      exact hne hchars
    · rw [← ofDigitChars_digits hdigits, ← hchars, hn]
    · rw [← hchars]
      exact (unsigned_eq_iff hall).1 rfl
  · rintro ⟨digits, hne, hdigits, hn, htext⟩
    have hall := (exists_digits_iff _).1 ⟨digits, hdigits, rfl⟩
    rw [(unsigned_eq_iff hall).2 htext, ofDigitChars_digits hdigits]
    exact ⟨by simpa using hne, hall, hn⟩

theorem flag?_eq_some_iff_mem
    (text : String) (on : Bool) :
    flag? text = some on ↔
      String.ofList (Text.lowerAscii (Text.trimBlank text.toList)) ∈ flagWords on := by
  generalize hword : String.ofList (Text.lowerAscii (Text.trimBlank text.toList)) = word
  have hdisjoint : ∀ w ∈ flagWords false, w ∉ flagWords true := by
    decide
  have hflag : flag? text =
      if word ∈ flagWords true then some true
      else if word ∈ flagWords false then some false
      else none := by
    rw [← hword]
    rfl
  rw [hflag]
  cases on with
  | true =>
      by_cases htrue : word ∈ flagWords true <;> simp [htrue]
  | false =>
      by_cases hfalse : word ∈ flagWords false
      · simp [hfalse, hdisjoint word hfalse]
      · simp [hfalse]

/-- A word for a truth value has letters, and no blanks. -/
theorem flagWords_solid
    {word : List Char} {on : Bool} (h : String.ofList (Text.lowerAscii word) ∈ flagWords on) :
    word ≠ [] ∧ ∀ c ∈ word, ¬Text.isBlank c := by
  have hsolid : ∀ on, ∀ w ∈ flagWords on, w ≠ "" ∧ w.toList.all fun c => !Text.isBlank c := by
    decide +kernel
  obtain ⟨hne, hblank⟩ := hsolid on _ h
  constructor
  · rintro rfl
    exact hne rfl
  · intro c hc hcblank
    rw [String.toList_ofList, List.all_eq_true] at hblank
    have hlower := hblank _ (List.mem_map_of_mem hc)
    simp [Text.toLower_eq_of_isBlank hcblank, hcblank] at hlower

theorem flag?_eq_some_iff
    (text : String) (on : Bool) :
    flag? text = some on ↔ Says text on := by
  rw [flag?_eq_some_iff_mem]
  constructor
  · intro h
    obtain ⟨before, after, htext, hbefore, hafter⟩ := Text.exists_eq_trimBlank text.toList
    exact ⟨before, _, after, htext, hbefore, hafter, h⟩
  · rintro ⟨before, word, after, htext, hbefore, hafter, hword⟩
    obtain ⟨hne, hsolid⟩ := flagWords_solid hword
    rwa [htext, Text.trimBlank_append hbefore hafter hne hsolid]

/-- A value before and after a variable: it stays as it is if the variable is
not set, and is one that the text of the variable means otherwise. -/
def Overridden {γ : Type} (means : String → γ → Prop) : Option String → γ → γ → Prop
  | none, old, new => new = old
  | some text, _, new => means text new

/-- A text means a time of some milliseconds. -/
def Millis (text : String) (time : UInt64 × TimeUnit) : Prop :=
  Numeral text time.1 ∧ time.2 = .milliseconds

/-- The settings `t` are `s` with what the variables mean, and nothing else,
replaced. -/
structure Overrides (e : Environment) (s t : Settings) : Prop where
  poll : Overridden Millis e.poll (s.poll, s.pollUnit) (t.poll, t.pollUnit)
  timeout : Overridden Millis e.timeout (s.timeout, s.timeoutUnit) (t.timeout, t.timeoutUnit)
  jitter : Overridden Says e.jitter s.jitter t.jitter
  kept :
    t = { s with
      poll := t.poll
      pollUnit := t.pollUnit
      timeout := t.timeout
      timeoutUnit := t.timeoutUnit
      jitter := t.jitter }

section Application

variable {β γ : Type} {given : Option String} {read? : String → Option β} {complaint : Complaint}
variable {change : Settings → β → Settings} {s t : Settings}

/-- A variable that is read as it is meant overrides what it changes. -/
theorem override_eq_ok_iff
    {means : String → γ → Prop} {value : β → γ} {put : γ → Settings} {old : γ}
    (hmeans : ∀ text new, means text new ↔ ∃ b, read? text = some b ∧ value b = new)
    (hold : put old = s) (hchange : ∀ b, change s b = put (value b)) :
    override given read? complaint change s = .ok t ↔
      ∃ new, Overridden means given old new ∧ put new = t := by
  cases given with
  | none =>
      simp [override, Overridden, hold]
  | some text =>
      simp only [override, Overridden, hmeans]
      constructor
      · intro h
        split at h
        · rename_i b hread
          cases h
          exact ⟨value b, ⟨b, hread, rfl⟩, (hchange b).symm⟩
        · cases h
      · rintro ⟨_, ⟨b, hread, rfl⟩, rfl⟩
        simp [hread, hchange]

end Application

theorem millis_iff
    (text : String) (time : UInt64 × TimeUnit) :
    Millis text time ↔ ∃ n, number? text = some n ∧ (n, TimeUnit.milliseconds) = time := by
  simp only [Millis, number?_eq_some_iff]
  constructor
  · rintro ⟨hn, hunit⟩
    exact ⟨time.1, hn, Prod.ext rfl hunit.symm⟩
  · rintro ⟨n, hn, rfl⟩
    exact ⟨hn, rfl⟩

theorem applyPoll_eq_ok_iff
    (e : Environment) (s t : Settings) :
    e.applyPoll s = .ok t ↔
      ∃ time, Overridden Millis e.poll (s.poll, s.pollUnit) time ∧
        { s with poll := time.1, pollUnit := time.2 } = t :=
  override_eq_ok_iff millis_iff rfl fun _ => rfl

theorem applyTimeout_eq_ok_iff
    (e : Environment) (s t : Settings) :
    e.applyTimeout s = .ok t ↔
      ∃ time, Overridden Millis e.timeout (s.timeout, s.timeoutUnit) time ∧
        { s with timeout := time.1, timeoutUnit := time.2 } = t :=
  override_eq_ok_iff millis_iff rfl fun _ => rfl

theorem applyJitter_eq_ok_iff
    (e : Environment) (s t : Settings) :
    e.applyJitter s = .ok t ↔
      ∃ on, Overridden Says e.jitter s.jitter on ∧ { s with jitter := on } = t := by
  have hmeans : ∀ text on, Says text on ↔ ∃ b, flag? text = some b ∧ id b = on := by
    simp [flag?_eq_some_iff]
  exact override_eq_ok_iff hmeans rfl fun _ => rfl

theorem apply_eq_ok_iff
    (e : Environment) (s t : Settings) :
    e.apply s = .ok t ↔ e.Overrides s t := by
  simp only [apply, Error.bind_eq_ok_iff, applyPoll_eq_ok_iff, applyTimeout_eq_ok_iff,
    applyJitter_eq_ok_iff]
  constructor
  · rintro ⟨_, ⟨poll, hpoll, rfl⟩, _, ⟨timeout, htimeout, rfl⟩, on, hon, rfl⟩
    exact ⟨hpoll, htimeout, hon, rfl⟩
  · rintro ⟨hpoll, htimeout, hon, hkept⟩
    exact ⟨_, ⟨_, hpoll, rfl⟩, _, ⟨_, htimeout, rfl⟩, _, hon, hkept.symm⟩

end Environment
end BoundedWait

/-!
# Searching texts

Whether one text occurs inside another.
-/

namespace BoundedWait
namespace Text

/-- Whether `needle` stands somewhere in a text. -/
def occursIn (needle : List Char) : List Char → Bool
  | [] => needle.isEmpty
  | c :: rest => needle.isPrefixOf (c :: rest) || occursIn needle rest

theorem occursIn_iff (needle text : List Char) :
    occursIn needle text = true ↔ ∃ before after, text = before ++ needle ++ after := by
  induction text with
  | nil =>
      simp [occursIn]
  | cons c rest ih =>
      simp only [occursIn, Bool.or_eq_true, ih, List.isPrefixOf_iff_prefix]
      constructor
      · rintro (⟨after, h⟩ | ⟨before, after, h⟩)
        · exact ⟨[], after, by simp [h]⟩
        · exact ⟨c :: before, after, by simp [h]⟩
      · rintro ⟨before, after, h⟩
        cases before with
        | nil =>
            exact Or.inl ⟨after, by simp [h]⟩
        | cons b before =>
            simp only [List.cons_append, List.cons.injEq] at h
            exact Or.inr ⟨before, after, h.2⟩

end Text
end BoundedWait

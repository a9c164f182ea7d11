/-!
# Bytes as text

Bytes are read as UTF-8, either strictly, where one malformed sequence refuses
the whole text, or leniently, where each longest beginning of a well-formed
sequence that is then broken off is shown as one U+FFFD.
-/

namespace BoundedWait
namespace Text
namespace Utf8

/-- One step of reading: the character, or none for a malformed sequence, and
how many bytes after the first it took. -/
structure Piece where
  char : Option Char
  further : Nat

/-- The lead byte's payload, the number of bytes that must follow it, and the
range allowed for the first of those. -/
def lead? (b : Nat) : Option (Nat × Nat × Nat × Nat) :=
  if 0xc2 ≤ b ∧ b ≤ 0xdf then some (b - 0xc0, 1, 0x80, 0xbf)
  else if b = 0xe0 then some (0, 2, 0xa0, 0xbf)
  else if b = 0xed then some (0xd, 2, 0x80, 0x9f)
  else if 0xe1 ≤ b ∧ b ≤ 0xef then some (b - 0xe0, 2, 0x80, 0xbf)
  else if b = 0xf0 then some (0, 3, 0x90, 0xbf)
  else if 0xf1 ≤ b ∧ b ≤ 0xf3 then some (b - 0xf0, 3, 0x80, 0xbf)
  else if b = 0xf4 then some (4, 3, 0x80, 0x8f)
  else none

/-- Reads `count` continuation bytes, the first within the given range. -/
def continue? (value : Nat) (low high : Nat) : Nat → Nat → List UInt8 → Piece
  | taken, 0, _ => ⟨some (Char.ofNat value), taken⟩
  | taken, count + 1, bytes =>
    match bytes with
    | [] => ⟨none, taken⟩
    | b :: rest =>
      if low ≤ b.toNat ∧ b.toNat ≤ high then
        continue? (value * 64 + (b.toNat - 0x80)) 0x80 0xbf (taken + 1) count rest
      else ⟨none, taken⟩

/-- The piece that begins with a byte. -/
def piece (b : UInt8) (rest : List UInt8) : Piece :=
  if b.toNat < 0x80 then ⟨some (Char.ofNat b.toNat), 0⟩
  else
    match lead? b.toNat with
    | none => ⟨none, 0⟩
    | some (value, count, low, high) => continue? value low high 0 count rest

/-- The pieces of a list of bytes, from left to right. -/
def pieces : List UInt8 → List (Option Char)
  | [] => []
  | b :: rest =>
    let p := piece b rest
    p.char :: pieces (rest.drop p.further)
termination_by bytes => bytes.length
decreasing_by
  simp only [List.length_drop, List.length_cons]
  omega

/-- The text of well-formed bytes. -/
def decode? (bytes : List UInt8) : Option String :=
  ((pieces bytes).mapM id).map String.ofList

/-- The text of any bytes, with U+FFFD for each malformed sequence. -/
def decodeLossy (bytes : List UInt8) : String :=
  String.ofList ((pieces bytes).map (·.getD '\uFFFD'))

example : decodeLossy [0xc3, 0x28] = "\uFFFD(" := by cbv

end Utf8
end Text
end BoundedWait

import MessageContract.Text.Utf8

/-!
Ranges of characters as sequences of byte ranges. A sequence stands for the
UTF-8 forms whose bytes lie, one by one, in its ranges; a range of characters is
cut until each piece has such a sequence.
-/

namespace MessageContract.Utf8

/-- The code points whose forms have one, two, three and four bytes; those of
three bytes lie on both sides of the surrogates. -/
def lengthClasses : List (Nat × Nat) :=
  [(0, 0x7F), (0x80, 0x7FF), (0x800, 0xD7FF), (0xE000, 0xFFFF), (0x10000, 0x10FFFF)]

/-- Cuts a range at the blocks of each size, from the smallest on, so that a
piece lies within one block or is made of whole ones. -/
def cutAtBlocks : (sizes : List Nat) → (low high : Nat) → List (Nat × Nat)
  | [], low, high => [(low, high)]
  | size :: sizes, low, high =>
      if low / size == high / size then [(low, high)]
      else
        let next := low - low % size + size
        let whole := low % size == 0
        let head := if whole then [] else [(low, next - 1)]
        let low := if whole then low else next
        let cut := low / size != high / size && high % size != size - 1
        let last := high - high % size
        let tail := if cut then [(last, high)] else []
        head ++ cutAtBlocks sizes low (if cut then last - 1 else high) ++ tail

/-- The byte ranges of a piece, from its first and last form. -/
def byteRanges (low high : Nat) : List (Nat × Nat) :=
  (encodeChar (Char.ofNat low)).zipWith (fun a b => (a.toNat, b.toNat))
    (encodeChar (Char.ofNat high))

/-- The sequences for a range of code points, in order. -/
def rangeSequences (range : Nat × Nat) : List (List (Nat × Nat)) :=
  lengthClasses.flatMap fun (first, last) =>
    let low := max range.1 first
    let high := min range.2 last
    if high < low then []
    else if high < 0x80 then [[(low, high)]]
    else (cutAtBlocks [0x40, 0x1000, 0x40000] low high).map fun (a, b) => byteRanges a b

end MessageContract.Utf8

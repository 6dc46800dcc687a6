/-! Byte strings as lists of bytes: fixed-size pieces, big-endian numbers and bitwise exclusive or. -/

namespace ViewEngine

/-- A byte string. -/
abbrev Bytes := List UInt8

namespace Bytes

/-- The pieces of `size` items each, the last one possibly shorter; no piece is empty. -/
def chunks (size : Nat) (xs : List α) : List (List α) :=
  if size = 0 ∨ xs.length ≤ size then
    if xs.isEmpty then [] else [xs]
  else xs.take size :: chunks size (xs.drop size)
termination_by xs.length
decreasing_by
  -- A piece of positive size is taken off a longer list.
  simp only [List.length_drop]
  omega

/-- The number that bytes spell, most significant byte first. -/
def toNat (bs : Bytes) : Nat := bs.foldl (fun n b => n * 256 + b.toNat) 0

/-- The `width` bytes of a number modulo `256 ^ width`, most significant first. -/
def ofNat (width n : Nat) : Bytes :=
  (List.range width).reverse.map (fun i => (n / Nat.pow 256 i % 256).toUInt8)

/-- Bytewise exclusive or, as long as the shorter of the two. -/
def xor (a b : Bytes) : Bytes := List.zipWith (fun x y => x ^^^ y) a b

/-- `n` zero bytes. -/
def zeros (n : Nat) : Bytes := List.replicate n 0

@[simp] theorem length_ofNat (width n : Nat) : (ofNat width n).length = width := by
  -- One byte is written for each position.
  simp [ofNat]

@[simp] theorem length_xor (a b : Bytes) : (xor a b).length = min a.length b.length := by
  -- Pairing stops at the shorter list.
  simp [xor]

end Bytes

end ViewEngine

import Stencil.Digest.Sha256

/-! # Name hashes

Directories list their names in the order of a hash: the MD4 digest with half of
its rounds, over blocks of 32 bytes.

* `blockWords` — the eight words of a block, padded with the length;
* `mixBlock` — one block mixed into the state;
* `nameHash` — the hash of a name, with a second word that settles ties.
-/

namespace Stencil.Digest

/-- The four words that a name hash is computed in. -/
structure MixState where
  a : UInt32
  b : UInt32
  c : UInt32
  d : UInt32
  deriving DecidableEq, Repr

/-- The state before the first block. -/
def MixState.start : MixState := ⟨0x67452301, 0xefcdab89, 0x98badcfe, 0x10325476⟩

/-- Rotates a word to the left. -/
def rotateLeft (word : UInt32) (count : UInt32) : UInt32 := rotateRight word (32 - count)

/-- A byte as a word; bytes from 128 on count as negative numbers. -/
def signedWord (byte : UInt8) : UInt32 :=
  if byte < 128 then byte.toUInt32 else byte.toUInt32 - 256

/-- The words of up to 32 bytes, four bytes each, latest byte lowest.  Where bytes
    are missing, the length stands in for them. -/
def blockWords (length : Nat) (block : List UInt8) : List UInt32 :=
  let low := UInt32.ofNat (length ||| (length <<< 8))
  let padding := low ||| (low <<< 16)
  (List.range 8).map fun index =>
    ((block.drop (4 * index)).take 4).foldl
      (fun word byte => signedWord byte + (word <<< 8)) padding

/-- One step of a round: mixes a word into the first register and moves the
    registers on. -/
def mixStep (choose : UInt32 → UInt32 → UInt32 → UInt32) (state : MixState)
    (word shift : UInt32) : MixState :=
  let mixed := rotateLeft (state.a + choose state.b state.c state.d + word) shift
  ⟨state.d, mixed, state.b, state.c⟩

/-- A round: eight steps with words in an order, and four shifts used twice. -/
def mixRound (choose : UInt32 → UInt32 → UInt32 → UInt32) (constant : UInt32)
    (order : List Nat) (shifts : List UInt32) (words : List UInt32) (state : MixState) : MixState :=
  (order.zip (shifts ++ shifts)).foldl
    (fun state (index, shift) => mixStep choose state (words.getD index 0 + constant) shift) state

/-- Mixes a block into the state. -/
def mixBlock (state : MixState) (words : List UInt32) : MixState :=
  let first := mixRound (fun x y z => z ^^^ (x &&& (y ^^^ z))) 0 [0, 1, 2, 3, 4, 5, 6, 7]
    [3, 7, 11, 19] words state
  let second := mixRound (fun x y z => (x &&& y) + ((x ^^^ y) &&& z)) 0x5A827999
    [1, 3, 5, 7, 0, 2, 4, 6] [3, 5, 9, 13] words first
  let third := mixRound (fun x y z => x ^^^ y ^^^ z) 0x6ED9EBA1 [3, 7, 2, 6, 1, 5, 0, 4]
    [3, 9, 11, 15] words second
  ⟨state.a + third.a, state.b + third.b, state.c + third.c, state.d + third.d⟩

/-- Mixes all blocks of a name into the state; an empty name has one block. -/
def mixName (state : MixState) (name : List UInt8) : MixState :=
  let mixed := mixBlock state (blockWords name.length (name.take 32))
  if name.length ≤ 32 then mixed else mixName mixed (name.drop 32)
termination_by name.length
decreasing_by
  simp only [List.length_drop]
  omega

/-- The hash of a name. -/
def nameHash (name : List UInt8) : Nat × Nat :=
  let state := mixName .start name
  ((state.b &&& ~~~1).toNat, state.c.toNat)

end Stencil.Digest

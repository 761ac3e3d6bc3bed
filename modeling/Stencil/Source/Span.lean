/-! # Spans

A span marks a stretch of a source by its first byte and its length.  Both are
32-bit words, so spans over longer sources saturate instead of wrapping.

* `Span.ofBounds` — the span between two byte positions;
* `Span.first` / `Span.stop` — the positions a span covers, as plain numbers.
-/

namespace Stencil.Source

/-- The largest value of a 32-bit word. -/
def wordMax : Nat := 4294967295

/-- The 32-bit word nearest to a number. -/
def saturate (n : Nat) : UInt32 := UInt32.ofNat (min n wordMax)

/-- A stretch of a source: its first byte and its length in bytes. -/
structure Span where
  start : UInt32
  length : UInt32
  deriving DecidableEq, Repr, Inhabited

/-- The position of the span's first byte. -/
def Span.first (span : Span) : Nat := span.start.toNat

/-- The position just after the span, at most the largest word. -/
def Span.stop (span : Span) : Nat := min (span.start.toNat + span.length.toNat) wordMax

/-- The span from byte `start` up to byte `stop`; it is empty when the bounds
    are reversed.  A length beyond the largest word is cut to what is left
    after the start. -/
def Span.ofBounds (start stop : Nat) : Span :=
  let length := stop - start
  { start := saturate start
    length := if length ≤ wordMax then UInt32.ofNat length
              else UInt32.ofNat (wordMax - (saturate start).toNat) }

/-! ## Laws -/

theorem toNat_saturate (n : Nat) : (saturate n).toNat = min n wordMax :=
  UInt32.toNat_ofNat_of_lt' (Nat.lt_of_le_of_lt (Nat.min_le_right n wordMax) (by decide))

theorem Span.first_ofBounds_eq_min (start stop : Nat) :
    (Span.ofBounds start stop).first = min start wordMax :=
  toNat_saturate start

/-- Cutting the start and the length apart comes to cutting the later bound. -/
theorem Span.stop_ofBounds_eq_min (start stop : Nat) :
    (Span.ofBounds start stop).stop = min (max start stop) wordMax := by
  have word : wordMax < 2 ^ 32 := by decide
  by_cases short : stop - start ≤ wordMax
  · have length : (UInt32.ofNat (stop - start)).toNat = stop - start :=
      UInt32.toNat_ofNat_of_lt' (Nat.lt_of_le_of_lt short word)
    simp only [Span.stop, Span.ofBounds, if_pos short, toNat_saturate, length]
    omega
  · -- What is left after the start fills the word.
    have length : (UInt32.ofNat (wordMax - min start wordMax)).toNat =
        wordMax - min start wordMax :=
      UInt32.toNat_ofNat_of_lt' (Nat.lt_of_le_of_lt (Nat.sub_le wordMax _) word)
    simp only [Span.stop, Span.ofBounds, if_neg short, toNat_saturate, length]
    omega

end Stencil.Source

import Mathlib.Data.List.Basic
import Stencil.Json.Reader
import Stencil.Settings.Basic

/-! # What tells settings apart

Settings that differ in anything are written as different records, so their
checksums differ unless the digest itself collides.

* `readString?_quoted` — a string literal is read as the text it was written for;
* `compactMembers_inj` — records of texts and switches can be told apart;
* `NoCollisions` — a digest that tells some messages apart;
* `checksum_injective` — the checksums of settings, if it does.
-/

namespace Stencil.Json

/-! ## String literals -/

theorem hexUnit?_hexDigit {n : Nat} (small : n < 32) :
    hexUnit? '0' '0' (hexDigit (n / 16)) (hexDigit (n % 16)) = some n := by
  have all : ∀ n < 32, hexUnit? '0' '0' (hexDigit (n / 16)) (hexDigit (n % 16)) = some n := by
    decide
  exact all n small

/-- Every character is read as it was written. -/
theorem readString?_escapeChar (c : Char) (rest : List Char) :
    readString? (escapeChar c ++ rest) =
      (readString? rest).map fun (text, after) => (c :: text, after) := by
  have short {letter : Char} (other : letter ≠ 'u') (means : simpleEscape? letter = some c) :
      readString? ('\\' :: letter :: rest) =
        (readString? rest).map fun (text, after) => (c :: text, after) := by
    rw [readString?]
    · cases readString? rest <;> simp [means]
    · simp [other]
  unfold escapeChar
  split
  case isTrue quote => exact short (by decide) (by rw [quote]; rfl)
  split
  case isTrue backslash => exact short (by decide) (by rw [backslash]; rfl)
  split
  case isTrue backspace => exact short (by decide) (by rw [backspace]; rfl)
  split
  case isTrue formFeed => exact short (by decide) (by rw [formFeed]; rfl)
  split
  case isTrue newline => exact short (by decide) (by rw [newline]; rfl)
  split
  case isTrue carriageReturn => exact short (by decide) (by rw [carriageReturn]; rfl)
  split
  case isTrue tab => exact short (by decide) (by rw [tab]; rfl)
  split
  case isTrue control =>
    have isChar : c.toNat.isValidChar := by
      unfold Nat.isValidChar
      omega
    cases read : readString? rest <;>
      simp [readString?, hexUnit?_hexDigit control, isChar, read]
  case isFalse notBackslash _ _ _ _ _ notControl =>
    cases read : readString? rest <;> simp [readString?, notBackslash, notControl, read]

theorem readString?_quoted (text rest : List Char) :
    readString? (text.flatMap escapeChar ++ '"' :: rest) = some (text, rest) := by
  induction text with
  | nil => simp [readString?]
  | cons c text ih =>
    rw [List.flatMap_cons, List.append_assoc, readString?_escapeChar, ih]
    rfl

/-- Where a string literal ends can be told from its text. -/
theorem quote_append_inj {left right more more' : List Char}
    (same : quote left ++ more = quote right ++ more') : left = right ∧ more = more' := by
  have inner : left.flatMap escapeChar ++ '"' :: more = right.flatMap escapeChar ++ '"' :: more' := by
    simpa [quote] using same
  have read := congrArg readString? inner
  rw [readString?_quoted, readString?_quoted] at read
  exact Prod.mk.inj (Option.some.inj read)

/-! ## Records -/

/-- A value that is a text or a switch. -/
def IsPlain : Json → Prop
  | .string _ | .bool _ => True
  | _ => False

theorem compact_append_inj {left right : Json} {more more' : List Char} (leftPlain : left.IsPlain)
    (rightPlain : right.IsPlain) (same : compact left ++ more = compact right ++ more') :
    left = right ∧ more = more' := by
  cases left with
  | string text =>
    cases right with
    | string other =>
      obtain ⟨rfl, rest⟩ := quote_append_inj (by simpa [compact] using same)
      exact ⟨rfl, rest⟩
    | bool other => cases other <;> simp [compact, quote] at same
    | _ => cases rightPlain
  | bool value =>
    cases right with
    | string other => cases value <;> simp [compact, quote] at same
    | bool other => cases value <;> cases other <;> simp_all [compact]
    | _ => cases rightPlain
  | _ => cases leftPlain

/-- Records with the same names and plain values can be told apart. -/
theorem compactMembers_inj {left right : List (List Char × Json)} {more more' : List Char}
    (names : left.map Prod.fst = right.map Prod.fst) (leftPlain : ∀ m ∈ left, m.2.IsPlain)
    (rightPlain : ∀ m ∈ right, m.2.IsPlain)
    (same : compactMembers left ++ more = compactMembers right ++ more') : left = right := by
  induction left generalizing right with
  | nil => exact (List.map_eq_nil_iff.1 names.symm).symm
  | cons member left ih =>
    obtain ⟨⟨name, value⟩, others, rfl, rfl, tails⟩ := List.map_eq_cons_iff.1 names.symm
    obtain ⟨name, mine⟩ := member
    simp only [compactMembers, List.cons_append, List.append_assoc, List.cons.injEq, true_and,
      List.append_cancel_left_eq, List.nil_append] at same
    obtain ⟨rfl, rest⟩ := compact_append_inj (leftPlain _ (.head _)) (rightPlain _ (.head _)) same
    rw [ih tails.symm (fun m listed => leftPlain m (.tail _ listed))
      (fun m listed => rightPlain m (.tail _ listed)) rest]

theorem compact_object_inj {left right : List (List Char × Json)}
    (names : left.map Prod.fst = right.map Prod.fst) (leftPlain : ∀ m ∈ left, m.2.IsPlain)
    (rightPlain : ∀ m ∈ right, m.2.IsPlain)
    (same : compact (.object left) = compact (.object right)) : left = right := by
  -- But for its first character an object is its members and a brace.
  have members : compactMembers left ++ ['}'] = compactMembers right ++ ['}'] := by
    cases left with
    | nil => rw [List.map_eq_nil_iff.1 names.symm]
    | cons member left =>
      obtain ⟨other, others, rfl, -, -⟩ := List.map_eq_cons_iff.1 names.symm
      simpa [compact, compactMembers] using same
  exact compactMembers_inj names leftPlain rightPlain members

end Stencil.Json

namespace Stencil

open Stencil.Digest (sha256Hex)
open Stencil.Text (bytes bytes_injective)

/-! ## Checksums -/

/-- Whether a digest tells messages apart. -/
def NoCollisions (digest : List UInt8 → List Char) (messages : List (List UInt8)) : Prop :=
  ∀ one ∈ messages, ∀ other ∈ messages, digest one = digest other → one = other

instance (digest : List UInt8 → List Char) (messages : List (List UInt8)) :
    Decidable (NoCollisions digest messages) :=
  inferInstanceAs (Decidable (∀ one ∈ messages, ∀ other ∈ messages, _ → _))

/-- Two messages whose digests differ are told apart. -/
theorem noCollisions_pair {digest : List UInt8 → List Char} {message message' : List UInt8}
    (apart : digest message ≠ digest message') : NoCollisions digest [message, message'] := by
  intro left leftListed right rightListed same
  simp only [List.mem_cons, List.not_mem_nil, or_false] at leftListed rightListed
  rcases leftListed with rfl | rfl <;> rcases rightListed with rfl | rfl
  · rfl
  · exact absurd same apart
  · exact absurd same.symm apart
  · rfl

namespace Settings

theorem compact_toJson_injective {left right : Settings}
    (same : left.toJson.compact = right.toJson.compact) : left = right := by
  have plain (settings : Settings) :
      ∃ members, settings.toJson = .object members ∧ ∀ m ∈ members, m.2.IsPlain :=
    ⟨_, rfl, by simp [Json.IsPlain]⟩
  obtain ⟨members, left_eq, leftPlain⟩ := plain left
  obtain ⟨others, right_eq, rightPlain⟩ := plain right
  have names : members.map Prod.fst = others.map Prod.fst := by
    cases left_eq
    cases right_eq
    rfl
  rw [left_eq, right_eq] at same
  have records : left.toJson = right.toJson := by
    rw [left_eq, right_eq, Json.compact_object_inj names leftPlain rightPlain same]
  cases left
  cases right
  simpa [toJson, and_assoc] using records

/-- The message of which the checksum of settings is the digest. -/
def message (settings : Settings) : List UInt8 := bytes settings.toJson.compact

theorem checksum_injective {known : List Settings}
    (noCollisions : NoCollisions sha256Hex (known.map message)) {left right : Settings}
    (leftKnown : left ∈ known) (rightKnown : right ∈ known)
    (same : left.checksum = right.checksum) : left = right := by
  have messages := noCollisions _ (List.mem_map_of_mem leftKnown) _ (List.mem_map_of_mem rightKnown)
    same
  exact compact_toJson_injective (bytes_injective messages)

end Settings

end Stencil

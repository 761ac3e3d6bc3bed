/-! # Text and its UTF-8 form

Text is a list of characters.  Positions inside a text are counted in bytes of
its UTF-8 form, which is what spans and diagnostics show.

* `byteLength` — the measure itself, with its additivity;
* `takeBytes` / `dropBytes` — cutting a text at a byte position;
* `bytes` / `encode` — the bytes of a text;
* `decode?` — the text of valid bytes.
-/

namespace Stencil.Text

/-! ## The byte measure -/

/-- Number of bytes `text` takes in UTF-8. -/
def byteLength : List Char → Nat
  | [] => 0
  | c :: rest => c.utf8Size + byteLength rest

@[simp] theorem byteLength_nil : byteLength [] = 0 := rfl

@[simp] theorem byteLength_cons (c : Char) (rest : List Char) :
    byteLength (c :: rest) = c.utf8Size + byteLength rest := rfl

@[simp] theorem byteLength_append (left right : List Char) :
    byteLength (left ++ right) = byteLength left + byteLength right := by
  induction left with
  | nil => simp
  | cons c left ih => simp [ih, Nat.add_assoc]

/-- Every character takes at least one byte, so only the empty text is empty. -/
theorem length_le_byteLength (text : List Char) : text.length ≤ byteLength text := by
  induction text with
  | nil => simp
  | cons c rest ih =>
    have := c.utf8Size_pos
    simp only [List.length_cons, byteLength_cons]
    omega

/-! ## Cutting at byte positions -/

/-- The longest run of whole characters that fits into the first `count` bytes. -/
def takeBytes : Nat → List Char → List Char
  | _, [] => []
  | count, c :: rest =>
    if c.utf8Size ≤ count then c :: takeBytes (count - c.utf8Size) rest else []

/-- What `takeBytes` leaves behind. -/
def dropBytes : Nat → List Char → List Char
  | _, [] => []
  | count, c :: rest =>
    if c.utf8Size ≤ count then dropBytes (count - c.utf8Size) rest else c :: rest

theorem takeBytes_append_dropBytes (count : Nat) (text : List Char) :
    takeBytes count text ++ dropBytes count text = text := by
  induction text generalizing count with
  | nil => simp [takeBytes, dropBytes]
  | cons c rest ih =>
    simp only [takeBytes, dropBytes]
    split
    · simp [ih]
    · simp

/-! ## Bytes -/

/-- The UTF-8 bytes of a text, one after another. -/
def bytes (text : List Char) : List UInt8 := text.flatMap String.utf8EncodeChar

theorem length_bytes (text : List Char) : (bytes text).length = byteLength text := by
  induction text with
  | nil => rfl
  | cons c rest ih => simp_all [bytes]

theorem bytes_append (left right : List Char) : bytes (left ++ right) = bytes left ++ bytes right :=
  List.flatMap_append

/-- Different texts have different bytes. -/
theorem bytes_injective {left right : List Char} (same : bytes left = bytes right) :
    left = right := by
  have encoded : left.utf8Encode = right.utf8Encode := by
    unfold List.utf8Encode
    exact congrArg List.toByteArray same
  have strings : String.ofList left = String.ofList right := by
    apply String.toByteArray_inj.1
    simpa using encoded
  exact String.ofList_injective strings

/-- The contents of a file that holds a text. -/
def encode (text : List Char) : ByteArray := (String.ofList text).toUTF8

/-- The text that the contents of a file hold, if they are valid UTF-8. -/
def decode? (contents : ByteArray) : Option (List Char) :=
  (String.fromUTF8? contents).map String.toList

/-- The decimal digits of a number. -/
def decimal (n : Nat) : List Char := Nat.toDigits 10 n

end Stencil.Text

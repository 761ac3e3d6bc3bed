/-! # Line endings

Templates are compiled with a line feed at the end of each line; a carriage
return directly before a line feed is dropped.
-/

namespace Stencil.Template

/-- Writes every carriage return and line feed pair as a line feed. -/
def normalizeLineEndings : List Char → List Char
  | '\r' :: '\n' :: rest => '\n' :: normalizeLineEndings rest
  | c :: rest => c :: normalizeLineEndings rest
  | [] => []

/-- Whether the text holds no carriage return directly before a line feed. -/
def hasPlainLineEndings : List Char → Bool
  | '\r' :: '\n' :: _ => false
  | _ :: rest => hasPlainLineEndings rest
  | [] => true

/-- A text without such pairs stays as it is. -/
theorem normalizeLineEndings_of_plain {text : List Char}
    (plain : hasPlainLineEndings text = true) : normalizeLineEndings text = text := by
  fun_induction hasPlainLineEndings text with
  | case1 => simp at plain
  | case2 c rest nopair ih =>
    rw [normalizeLineEndings, ih plain]
    exact nopair
  | case3 => rfl

end Stencil.Template

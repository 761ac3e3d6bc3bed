import Stencil.Command.Check
import Stencil.Program.Artifact
import Stencil.Proofs.PlainText

/-! # Line endings do not matter

The lines of a template may end in a line feed or in a carriage return and a line
feed, each line in its own way.  Compiling and reporting drop the carriage returns
on their own, so both see the same text.

* `withPairs` — a text with some of its line feeds written as pairs;
* `normalizeLineEndings_eq_iff` — the texts that are brought to a given one;
* `compile_lineEndings` — they are compiled and reported alike.
-/

namespace Stencil.Template

variable {text other : List Char}

/-- The text with the chosen ones of its line feeds, which are counted from zero,
    written as carriage return and line feed. -/
def withPairs (chosen : Nat → Bool) : List Char → List Char
  | [] => []
  | c :: rest =>
    if c = '\n' then
      (if chosen 0 then ['\r', '\n'] else ['\n']) ++ withPairs (fun n => chosen (n + 1)) rest
    else c :: withPairs chosen rest

theorem normalizeLineEndings_cons {c : Char} (single : c ≠ '\r') :
    normalizeLineEndings (c :: text) = c :: normalizeLineEndings text := by
  apply normalizeLineEndings.eq_2
  rintro rest rfl -
  exact single rfl

theorem normalizeLineEndings_withPairs (chosen : Nat → Bool) (plain : '\r' ∉ text) :
    normalizeLineEndings (withPairs chosen text) = text := by
  induction text generalizing chosen with
  | nil => rfl
  | cons c rest ih =>
    have single : c ≠ '\r' := by
      rintro rfl
      exact plain (.head _)
    have later : '\r' ∉ rest := fun inside => plain (.tail _ inside)
    by_cases feed : c = '\n'
    · subst feed
      have tail := ih (fun n => chosen (n + 1)) later
      -- Written as a pair or alone, the line feed comes back as one character.
      cases pair : chosen 0 with
      | true => simp [withPairs, pair, normalizeLineEndings, tail]
      | false => simp [withPairs, pair, normalizeLineEndings_cons, tail]
    · simp [withPairs, feed, normalizeLineEndings_cons single, ih chosen later]

/-- Of all texts only those with some line feeds written as pairs come to a text
    without carriage returns. -/
theorem normalizeLineEndings_eq_iff (plain : '\r' ∉ text) :
    normalizeLineEndings other = text ↔ ∃ chosen, other = withPairs chosen text := by
  constructor
  · intro same
    subst same
    fun_induction normalizeLineEndings other with
    | case1 rest ih =>
      obtain ⟨chosen, later⟩ := ih fun inside => plain (.tail _ inside)
      refine ⟨fun n => n.casesOn true chosen, ?_⟩
      simp [withPairs, ← later]
    | case2 c rest noPair ih =>
      obtain ⟨chosen, later⟩ := ih fun inside => plain (.tail _ inside)
      by_cases feed : c = '\n'
      · refine ⟨fun n => n.casesOn false chosen, ?_⟩
        simp [withPairs, feed, ← later]
      · refine ⟨chosen, ?_⟩
        simp [withPairs, feed, ← later]
    | case3 => exact ⟨fun _ => false, rfl⟩
  · rintro ⟨chosen, rfl⟩
    exact normalizeLineEndings_withPairs chosen plain

end Stencil.Template

namespace Stencil

open Stencil.Command (checkSource report)
open Stencil.Program (Compiler Format)
open Stencil.Template

variable {source other : List Char}

/-- Compiling looks at a source only after its line endings are brought into form. -/
theorem compile_normalizeLineEndings (compiler : Compiler) (origin : Origin)
    (same : normalizeLineEndings other = normalizeLineEndings source) :
    compiler.compile other origin = compiler.compile source origin := by
  simp only [Compiler.compile, same]

/-- So does reporting an error, which has the source from elsewhere. -/
theorem report_normalizeLineEndings (path : List Char) (error : TemplateError)
    (same : normalizeLineEndings other = normalizeLineEndings source) :
    report path other error = report path source error := by
  simp only [report, same]

/-- A template whose lines end in line feeds may have any of them written as carriage
    return and line feed: it is compiled to the same program or rejected with the same
    error, its artifact is the same, and so is what is reported about it. -/
theorem compile_lineEndings (source : List Char) (chosen : Nat → Bool) (plain : '\r' ∉ source)
    (compiler : Compiler) (origin : Origin) :
    compiler.compile (withPairs chosen source) origin = compiler.compile source origin ∧
    (∀ format : Format, compiler.build format (withPairs chosen source) origin =
      compiler.build format source origin) ∧
    ∀ path, checkSource compiler path (withPairs chosen source) = checkSource compiler path source := by
  have same : normalizeLineEndings (withPairs chosen source) = normalizeLineEndings source := by
    rw [(normalizeLineEndings_eq_iff plain).2 ⟨chosen, rfl⟩, normalizeLineEndings_eq plain]
  have compiled := fun origin => compile_normalizeLineEndings compiler origin same
  refine ⟨compiled origin, ?_, ?_⟩
  · intro format
    simp only [Compiler.build, compiled]
  · intro path
    simp only [checkSource, compiled, report_normalizeLineEndings path _ same]

/-- Pairs in a tag, in a string and in the text of a loop that is not closed. -/
theorem compile_lineEndings_mixed :
    let source := "a\n\x7bloop=\"$a\n\"\x7d\n\x7bif=\"f('\n')\"\x7d\n".toList
    let pairs := "a\r\n\x7bloop=\"$a\n\"\x7d\r\n\x7bif=\"f('\r\n')\"\x7d\n".toList
    '\r' ∉ source ∧ withPairs (fun n => n != 1 && n != 4) source = pairs ∧
      (∃ error, (Compiler.compile ⟨{}, .empty⟩ source (.file [] [])).result = .error error) ∧
      Compiler.compile ⟨{}, .empty⟩ pairs (.file [] []) =
        Compiler.compile ⟨{}, .empty⟩ source (.file [] []) ∧
      checkSource ⟨{}, .empty⟩ "page.html".toList pairs =
        checkSource ⟨{}, .empty⟩ "page.html".toList source := by
  intro source pairs
  have plain : '\r' ∉ source := by decide
  have written : withPairs (fun n => n != 1 && n != 4) source = pairs := by decide
  obtain ⟨compiled, -, checked⟩ :=
    compile_lineEndings source (fun n => n != 1 && n != 4) plain ⟨{}, .empty⟩ (.file [] [])
  rw [written] at compiled checked
  refine ⟨plain, written, ⟨.unclosed .conditional (.file [] []) ⟨15, 13⟩, ?_⟩, compiled,
    checked _⟩
  decide +kernel

end Stencil

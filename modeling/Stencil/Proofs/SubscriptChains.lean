import Stencil.Proofs.SubscriptMoves

/-! # Chains of subscripts

A variable is followed by a chain of dotted and bracketed keys and of properties, in
any order and of any length.  The rewriter brings every chain into one form, in which
all keys are quoted and all properties stay as they are.

* `ChainSegment` — one part of a chain, with both of its forms;
* `output_segments` — a chain in front of text that goes on with neither a word nor a
  string;
* `quoteSubscripts_chain` — a chain behind a variable.
-/

namespace Stencil.Expr

open Stencil.Template (isQuote)
open Stencil.Text (isNameChar)

/-- One part of the chain behind a variable. -/
inductive ChainSegment where
  | dotted (key : List Char)
  | bracketed (key : List Char)
  | property (name : List Char)

namespace ChainSegment

/-- As templates write it. -/
def written : ChainSegment → List Char
  | dotted key => '.' :: key
  | bracketed key => '[' :: (key ++ [']'])
  | property name => '-' :: '>' :: name

/-- As host code has it. -/
def canonical : ChainSegment → List Char
  | dotted key | bracketed key => quotedKey key
  | property name => '-' :: '>' :: name

/-- Whether its key is a key and its name is a name. -/
def IsProper : ChainSegment → Prop
  | dotted key | bracketed key => IsKey key
  | property name => IsIdentifier name

instance : (segment : ChainSegment) → Decidable segment.IsProper
  | dotted key | bracketed key => inferInstanceAs (Decidable (IsKey key))
  | property name => inferInstanceAs (Decidable (IsIdentifier name))

end ChainSegment

section Chains

variable {brackets : List Bool} {rest key name : List Char} {segment : ChainSegment}
  {segments : List ChainSegment}

/-- Neither a word nor a string stands at the start of a text. -/
def EndsKey (text : List Char) : Prop := ∀ c ∈ text.head?, isNameChar c = false ∧ isQuote c = false

theorem EndsKey.endsWord (ends : EndsKey rest) : EndsWord rest := fun c first => (ends c first).1

theorem endsKey_written (segment : ChainSegment) (rest : List Char) :
    EndsKey (segment.written ++ rest) := by
  cases segment <;> rintro c ⟨⟩ <;> exact ⟨rfl, rfl⟩

theorem endsKey_segments (segments : List ChainSegment) (ends : EndsKey rest) :
    EndsKey (segments.flatMap ChainSegment.written ++ rest) := by
  cases segments with
  | nil => exact ends
  | cons segment segments =>
    rw [List.flatMap_cons, List.append_assoc]
    exact endsKey_written segment _

theorem takeSubscript?_dotted (isKey : IsKey key) (ends : EndsKey rest) :
    takeSubscript? '.' (key ++ rest) = some (key, rest) := by
  have segment := takeSegment?_eq_some_iff.2 ⟨isKey, ends.endsWord, rfl⟩
  refine takeSubscript?_eq_some_iff.2 ⟨rest, segment, ?_⟩
  rw [if_neg (by decide)]
  exact ⟨rfl, fun c first => (ends c first).2⟩

theorem takeSubscript?_bracketed (isKey : IsKey key) (rest : List Char) :
    takeSubscript? '[' (key ++ ']' :: rest) = some (key, rest) := by
  have ends : EndsWord (']' :: rest) := by
    rintro c ⟨⟩
    rfl
  have segment := takeSegment?_eq_some_iff.2 ⟨isKey, ends, rfl⟩
  exact takeSubscript?_eq_some_iff.2 ⟨_, segment, by rw [if_pos rfl]⟩

theorem output_segment (proper : segment.IsProper) (ends : EndsKey rest) :
    (Reading.mk true brackets (segment.written ++ rest)).output =
      segment.canonical ++ (Reading.mk true brackets rest).output := by
  cases segment with
  | dotted key => exact (Move.subscript (.inr rfl) (takeSubscript?_dotted proper ends)).output_eq
  | bracketed key =>
    have found := takeSubscript?_bracketed proper rest
    rw [ChainSegment.written, List.cons_append, List.append_assoc, List.singleton_append]
    exact (Move.subscript (.inl rfl) found).output_eq
  | property name => exact (Move.property proper ends.endsWord).output_eq

theorem output_segments (proper : ∀ segment ∈ segments, segment.IsProper) (ends : EndsKey rest) :
    (Reading.mk true brackets (segments.flatMap ChainSegment.written ++ rest)).output =
      segments.flatMap ChainSegment.canonical ++ (Reading.mk true brackets rest).output := by
  induction segments with
  | nil => rfl
  | cons segment segments ih =>
    have later := ih fun other inside => proper other (.tail _ inside)
    rw [List.flatMap_cons, List.append_assoc,
      output_segment (proper segment (.head _)) (endsKey_segments segments ends), later,
      List.flatMap_cons, List.append_assoc]

/-- A variable with its chain, outside of any other one. -/
theorem output_chain (identifier : IsIdentifier name)
    (proper : ∀ segment ∈ segments, segment.IsProper) (ends : EndsKey rest) (brackets : List Bool) :
    (Reading.mk false brackets
        ('$' :: (name ++ segments.flatMap ChainSegment.written ++ rest))).output =
      '$' :: (name ++ segments.flatMap ChainSegment.canonical ++
        (Reading.mk true brackets rest).output) := by
  have stops := (endsKey_segments segments ends).endsWord
  rw [List.append_assoc, (Move.name identifier stops).output_eq, output_segments proper ends]
  simp

/-- Every chain behind a variable is brought into the form of host code, whatever
    follows it behind a space. -/
theorem quoteSubscripts_chain (identifier : IsIdentifier name)
    (proper : ∀ segment ∈ segments, segment.IsProper) :
    quoteSubscripts ('$' :: (name ++ segments.flatMap ChainSegment.written)) =
        '$' :: (name ++ segments.flatMap ChainSegment.canonical) ∧
      ∀ rest, quoteSubscripts
          ('$' :: (name ++ segments.flatMap ChainSegment.written ++ ' ' :: rest)) =
        '$' :: (name ++ segments.flatMap ChainSegment.canonical ++ ' ' :: quoteSubscripts rest) := by
  constructor
  · have nothing : EndsKey [] := by simp [EndsKey]
    have whole := output_chain identifier proper nothing []
    rw [output_nil, List.append_nil, List.append_nil] at whole
    exact whole
  · intro rest
    have space : EndsKey (' ' :: rest) := by
      rintro c ⟨⟩
      exact ⟨rfl, rfl⟩
    have inert : IsInert true ' ' rest :=
      ⟨rfl, by simp, by decide, by decide, by simp, by simp⟩
    have whole := output_chain identifier proper space []
    rw [(Move.inert inert).output_eq] at whole
    exact whole

/-- Dotted and bracketed keys and a property, in front of another variable. -/
theorem quoteSubscripts_chain_mixed :
    let segments : List ChainSegment :=
      [.dotted "info".toList, .bracketed "$i".toList, .property "items".toList, .dotted "0".toList]
    IsIdentifier "user".toList ∧ (∀ segment ∈ segments, segment.IsProper) ∧
      quoteSubscripts "$user.info[$i]->items.0".toList =
        "$user[\"info\"][\"$i\"]->items[\"0\"]".toList ∧
      quoteSubscripts "$user.info[$i]->items.0 $a.b".toList =
        "$user[\"info\"][\"$i\"]->items[\"0\"] ".toList ++ quoteSubscripts "$a.b".toList := by
  intro segments
  have identifier : IsIdentifier "user".toList := by decide
  have proper : ∀ segment ∈ segments, segment.IsProper := by decide
  obtain ⟨alone, followed⟩ := quoteSubscripts_chain identifier proper
  exact ⟨identifier, proper, alone, followed "$a.b".toList⟩

end Chains

end Stencil.Expr

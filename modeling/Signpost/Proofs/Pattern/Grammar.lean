import Signpost.Pattern.Source
import Signpost.Proofs.Pattern.Block

/-!
# The grammar of patterns

A pattern is grammatical if it consists of characters other than an opening bracket and of whole
blocks.  The scanner takes more than that at a time: a separator or a question mark beside a block
goes with it.  It accepts the grammatical patterns all the same, since neither is a bracket, and of
the others it reports the first bracket that starts no block, where whole blocks are passed over
(`Pattern.tokens_accepts_the_grammar`).
-/

namespace Signpost

open Placeholder (IsKey bracketed)

namespace Pattern

/-- A block of the grammar: brackets around a type, and perhaps a colon and a name. -/
inductive Block : Text → Prop
  | unnamed (key : Text) (isKey : IsKey key) : Block ('[' :: key ++ [']'])
  | named (key name : Text) (isKey : IsKey key) (isName : IsKey name) :
      Block ('[' :: key ++ ':' :: name ++ [']'])

/-- What a grammatical pattern consists of. -/
inductive Piece : Text → Prop
  | char (c : Char) (other : c ≠ '[') : Piece [c]
  | block {text : Text} (block : Block text) : Piece text

/-- A concatenation of characters other than an opening bracket and of blocks. -/
def Grammatical (text : Text) : Prop :=
  ∃ pieces : List Text, (∀ piece ∈ pieces, Piece piece) ∧ text = pieces.flatten

/-- The first bad bracket of a pattern, read from the left with whole blocks passed over. -/
structure StrayAt (pattern : Text) (offset : Nat) : Prop where
  before : Grammatical (pattern.take offset)
  bracket : pattern[offset]? = some '['
  noBlock : ∀ text, Block text → ¬ text <+: pattern.drop offset

theorem block_iff {text : Text} :
    Block text ↔ ∃ key label, IsKey key ∧ (∀ name ∈ label, IsKey name) ∧
      text = '[' :: bracketed key label := by
  constructor
  · rintro (⟨key, isKey⟩ | ⟨key, name, isKey, isName⟩)
    · exact ⟨key, none, isKey, nofun, by simp [bracketed]⟩
    · exact ⟨key, some name, isKey, by simpa using isName, by simp [bracketed]⟩
  · rintro ⟨key, label, isKey, isLabel, rfl⟩
    cases label with
    | none => simpa [bracketed] using Block.unnamed key isKey
    | some name => simpa [bracketed] using Block.named key name isKey (isLabel name rfl)

/-- Where the grammar has a block, the scanner finds the placeholder of that block. -/
theorem Block.atStart? {text : Text} (block : Block text) (rest : Text) :
    ∃ p : Placeholder, Placeholder.atStart? (text ++ rest) = some p ∧
      p.block = text ++ p.questionMark := by
  obtain ⟨key, label, isKey, isLabel, rfl⟩ := block_iff.mp block
  refine ⟨.ofParts none key label rest, ?_, ?_⟩
  · exact Placeholder.ofBracket?_bracketed isKey isLabel none rest
  · rw [Placeholder.block_eq, Placeholder.key_ofParts]
    rfl

/-- At a bracket, the scanner finds a placeholder only where the grammar has a block. -/
theorem exists_block_of_atStart? {rest : Text} {p : Placeholder}
    (found : Placeholder.atStart? ('[' :: rest) = some p) :
    ∃ text, Block text ∧ text <+: '[' :: rest := by
  obtain ⟨key, label, after, isKey, isLabel, rfl, _⟩ :=
    Placeholder.exists_parts_of_ofBracket? found
  exact ⟨'[' :: bracketed key label, block_iff.mpr ⟨key, label, isKey, isLabel, rfl⟩, after, rfl⟩

namespace Grammatical

theorem nil : Grammatical [] :=
  ⟨[], nofun, rfl⟩

theorem cons {piece text : Text} (isPiece : Piece piece) (grammatical : Grammatical text) :
    Grammatical (piece ++ text) := by
  obtain ⟨pieces, all, rfl⟩ := grammatical
  exact ⟨piece :: pieces, List.forall_mem_cons.mpr ⟨isPiece, all⟩, rfl⟩

end Grammatical

/-- A bracket that is stray in the rest of a text is stray in the whole. -/
theorem StrayAt.cons {piece text : Text} {offset : Nat} (isPiece : Piece piece)
    (stray : StrayAt text offset) : StrayAt (piece ++ text) (piece.length + offset) where
  before := by
    rw [List.take_length_add_append]
    exact .cons isPiece stray.before
  bracket := by
    rw [List.getElem?_append_right (Nat.le_add_right _ _), Nat.add_sub_cancel_left]
    exact stray.bracket
  noBlock := by
    rw [List.drop_length_add_append]
    exact stray.noBlock

/-- A pattern is grammatical or has a stray bracket. -/
theorem grammatical_or_strayAt (pattern : Text) :
    Grammatical pattern ∨ ∃ offset, StrayAt pattern offset := by
  -- A block is passed over at once, so the induction is on the length.
  induction length : pattern.length using Nat.strong_induction_on generalizing pattern with
  | h length ih =>
      subst length
      have onward {piece rest : Text} (isPiece : Piece piece) (nonempty : piece ≠ []) :
          pattern = piece ++ rest → Grammatical pattern ∨ ∃ offset, StrayAt pattern offset := by
        rintro rfl
        have shorter : rest.length < (piece ++ rest).length := by
          have := List.length_pos_iff.mpr nonempty
          rw [List.length_append]
          omega
        rcases ih rest.length shorter rest rfl with grammatical | ⟨offset, stray⟩
        · exact .inl (.cons isPiece grammatical)
        · exact .inr ⟨_, stray.cons isPiece⟩
      cases pattern with
      | nil => exact .inl .nil
      | cons c rest =>
          by_cases bracket : c = '['
          · subst bracket
            by_cases starts : ∃ text, Block text ∧ text <+: '[' :: rest
            · obtain ⟨text, block, after, whole⟩ := starts
              have nonempty : text ≠ [] := by cases block <;> exact List.cons_ne_nil _ _
              exact onward (.block block) nonempty whole.symm
            · exact .inr ⟨0, .nil, rfl, fun text block starting => starts ⟨text, block, starting⟩⟩
          · exact onward (.char c bracket) (List.cons_ne_nil _ _) rfl

end Pattern

namespace Token

/-- The offset at which scanning fails, if it does. -/
def flaw? (offset : Nat) (text : Text) : Option Nat :=
  match scan offset 0 text with
  | .ok _ => none
  | .error flaw => some flaw

theorem flaw?_block {p : Placeholder} {rest : Text} (wellFormed : p.WellFormed)
    (ends : p.EndsBefore rest) (offset : Nat) :
    flaw? offset (p.block ++ rest) = flaw? (offset + p.block.length) rest := by
  rw [flaw?, flaw?, scan_block wellFormed ends]
  cases scan (offset + p.block.length) 0 rest <;> rfl

/-- A character is passed over, even if it is taken with the block after it. -/
theorem flaw?_char {c : Char} (other : c ≠ '[') (offset : Nat) (rest : Text) :
    flaw? offset (c :: rest) = flaw? (offset + 1) rest := by
  cases start : Placeholder.atStart? (c :: rest) with
  | none =>
      rw [flaw?, flaw?, scan_char other start]
      cases scan (offset + 1) 0 rest <;> rfl
  | some p =>
      obtain ⟨wellFormed, tail, whole, ends⟩ := Placeholder.atStart?_eq_some_iff.mp start
      have parted : p.block = Separator.textOf p.lead ++ (p.withLead none).block :=
        Placeholder.block_withLead p.lead p
      cases lead : p.lead with
      | none =>
          rw [Placeholder.block_eq, lead] at whole
          exact absurd (List.cons.inj whole).1 other
      | some separator =>
          rw [lead] at parted
          have after : rest = (p.withLead none).block ++ tail := by
            rw [parted] at whole
            exact (List.cons.inj whole).2
          rw [whole, flaw?_block wellFormed ends, after,
            flaw?_block (wellFormed.withLead none) ends, parted, List.length_append, Nat.add_assoc]
          rfl

/-- A block is passed over, with the question mark after it or without. -/
theorem flaw?_grammarBlock {text : Text} (block : Pattern.Block text) (offset : Nat) (rest : Text) :
    flaw? offset (text ++ rest) = flaw? (offset + text.length) rest := by
  obtain ⟨p, start, parted⟩ := block.atStart? rest
  obtain ⟨wellFormed, tail, whole, ends⟩ := Placeholder.atStart?_eq_some_iff.mp start
  have after : rest = p.questionMark ++ tail := by
    rwa [parted, List.append_assoc, List.append_cancel_left_eq] at whole
  rw [whole, flaw?_block wellFormed ends, parted, after]
  cases marked : p.marked with
  | false => simp [Placeholder.questionMark, marked]
  | true =>
      have question : flaw? (offset + text.length) ('?' :: tail) =
          flaw? (offset + text.length + 1) tail := flaw?_char (by decide) _ tail
      simp [Placeholder.questionMark, marked, question, Nat.add_assoc]

theorem flaw?_piece {piece : Text} (isPiece : Pattern.Piece piece) (offset : Nat) (rest : Text) :
    flaw? offset (piece ++ rest) = flaw? (offset + piece.length) rest := by
  cases isPiece with
  | char c other => exact flaw?_char other offset rest
  | block block => exact flaw?_grammarBlock block offset rest

/-- **Grammatical text is passed over.** -/
theorem flaw?_grammatical {front : Text} (grammatical : Pattern.Grammatical front) (offset : Nat)
    (rest : Text) : flaw? offset (front ++ rest) = flaw? (offset + front.length) rest := by
  obtain ⟨pieces, all, rfl⟩ := grammatical
  induction pieces generalizing offset with
  | nil => rfl
  | cons piece others ih =>
      rw [List.forall_mem_cons] at all
      rw [List.flatten_cons, List.append_assoc, flaw?_piece all.1, ih _ all.2, List.length_append,
        Nat.add_assoc]

end Token

namespace Pattern

theorem flaw?_eq_none_of_grammatical {pattern : Text} (grammatical : Grammatical pattern) :
    Token.flaw? 0 pattern = none := by
  have passed := Token.flaw?_grammatical grammatical 0 []
  rwa [List.append_nil] at passed

theorem StrayAt.flaw? {pattern : Text} {offset : Nat} (stray : StrayAt pattern offset) :
    Token.flaw? 0 pattern = some offset := by
  obtain ⟨inside, bracket⟩ := List.getElem?_eq_some_iff.mp stray.bracket
  have parted := (List.take_append_drop offset pattern).symm
  rw [List.drop_eq_getElem_cons inside, bracket] at parted
  have noBlock := stray.noBlock
  rw [List.drop_eq_getElem_cons inside, bracket] at noBlock
  have fails : Placeholder.atStart? ('[' :: pattern.drop (offset + 1)) = none := by
    rw [Option.eq_none_iff_forall_ne_some]
    intro p found
    obtain ⟨text, block, starts⟩ := exists_block_of_atStart? found
    exact noBlock text block starts
  rw [parted, Token.flaw?_grammatical stray.before, List.length_take_of_le inside.le,
    Nat.zero_add, Token.flaw?, Token.scan_stray fails]

/-- What scanning answers, in terms of the grammar. -/
theorem tokens_eq_error_iff {pattern : Text} {offset : Nat} :
    tokens pattern = .error offset ↔ StrayAt pattern offset := by
  have asFlaw : tokens pattern = .error offset ↔ Token.flaw? 0 pattern = some offset := by
    rw [tokens, Token.flaw?]
    cases Token.scan 0 0 pattern <;> simp
  rw [asFlaw]
  refine ⟨fun flaw => ?_, StrayAt.flaw?⟩
  rcases grammatical_or_strayAt pattern with grammatical | ⟨other, stray⟩
  · rw [flaw?_eq_none_of_grammatical grammatical] at flaw
    cases flaw
  · rw [stray.flaw?] at flaw
    obtain rfl := Option.some.inj flaw
    exact stray

theorem exists_tokens_iff {pattern : Text} :
    (∃ parts, tokens pattern = .ok parts) ↔ Grammatical pattern := by
  have asFlaw : (∃ parts, tokens pattern = .ok parts) ↔ Token.flaw? 0 pattern = none := by
    rw [tokens, Token.flaw?]
    cases Token.scan 0 0 pattern <;> simp
  rw [asFlaw]
  refine ⟨fun noFlaw => ?_, flaw?_eq_none_of_grammatical⟩
  rcases grammatical_or_strayAt pattern with grammatical | ⟨offset, stray⟩
  · exact grammatical
  · rw [stray.flaw?] at noFlaw
    cases noFlaw

/-- **The scanner accepts its grammar and reports the first bad bracket.** A pattern has tokens if
and only if it is a concatenation of characters other than an opening bracket and of blocks.  A
pattern that is none has exactly one stray bracket, and the fault of the pattern is the one of that
bracket. -/
theorem tokens_accepts_the_grammar (pattern : Text) :
    ((∃ parts, tokensOrFault pattern = .ok parts) ↔ Grammatical pattern) ∧
      (¬ Grammatical pattern ↔ ∃! offset, StrayAt pattern offset) ∧
      ∀ fault, tokensOrFault pattern = .error fault ↔
        ∃ offset, StrayAt pattern offset ∧
          fault = .invalidPattern pattern (.strayBracket offset) := by
  have answers : (∃ parts, tokensOrFault pattern = .ok parts) ↔ Grammatical pattern := by
    rw [← exists_tokens_iff, tokensOrFault]
    cases tokens pattern <;> simp [Except.mapError]
  have only {offset other : Nat} (stray : StrayAt pattern offset) (too : StrayAt pattern other) :
      other = offset :=
    Option.some.inj (too.flaw?.symm.trans stray.flaw?)
  refine ⟨answers, ⟨fun ungrammatical => ?_, fun ⟨offset, stray, _⟩ grammatical => ?_⟩, ?_⟩
  · obtain ⟨offset, stray⟩ := (grammatical_or_strayAt pattern).resolve_left ungrammatical
    exact ⟨offset, stray, fun _ too => only stray too⟩
  · have flaw := stray.flaw?
    rw [flaw?_eq_none_of_grammatical grammatical] at flaw
    cases flaw
  · intro fault
    simp only [← tokens_eq_error_iff, tokensOrFault]
    cases tokens pattern with
    | ok parts => simp [Except.mapError]
    | error offset => simp [Except.mapError, eq_comm]

/-- A bracket inside a block is no bad one; the one before two colons is. -/
example : tokens "/a[x[:n]/[b:c:d]".toList = .error 9 := by decide

end Pattern

end Signpost

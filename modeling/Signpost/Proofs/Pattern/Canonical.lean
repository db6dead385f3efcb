import Signpost.Proofs.Pattern.Block

/-!
# Canonical tokens

The texts of the tokens of a pattern make up the pattern, and its tokens fit together: no literal
text is empty, holds a bracket or stands beside another one, and no separator or question mark is
left in the text beside a block that could have taken it (`Token.Canonical`).  A pattern has only
one such list of tokens, so the two conditions say what scanning answers
(`Token.tokens_eq_ok_iff`).
-/

namespace Signpost

namespace Token

/-- Whether a token may stand before others. -/
def Fits : Token → List Token → Prop
  | literal text, after =>
      text ≠ [] ∧ '[' ∉ text ∧ (∀ other, after.head? ≠ some (literal other)) ∧
        ∀ p, after.head? = some (placeholder p) → p.lead = none →
          ∀ c ∈ text.getLast?, Separator.ofChar? c = none
  | placeholder p, after => p.WellFormed ∧ p.EndsBefore (after.flatMap text)

/-- Tokens each of which fits what comes after it. -/
def Canonical : List Token → Prop
  | [] => True
  | token :: after => token.Fits after ∧ Canonical after

theorem Canonical.of_append {before after : List Token} (canonical : Canonical (before ++ after)) :
    Canonical after := by
  induction before with
  | nil => exact canonical
  | cons _ _ ih => exact ih canonical.2

theorem Canonical.fits {before after : List Token} {token : Token}
    (canonical : Canonical (before ++ token :: after)) : token.Fits after :=
  canonical.of_append.1

theorem flatMap_prepend (c : Char) (parts : List Token) :
    (prepend c parts).flatMap text = c :: parts.flatMap text := by
  match parts with
  | [] | literal _ :: _ | placeholder _ :: _ => rfl

/-- A character before canonical tokens joins the literal text there, or becomes one, unless it is
the separator of a block. -/
theorem Canonical.prepend {c : Char} {parts : List Token} (canonical : Canonical parts)
    (other : c ≠ '[') (fails : Placeholder.atStart? (c :: parts.flatMap text) = none) :
    Canonical (prepend c parts) := by
  match parts with
  | [] => exact ⟨⟨List.cons_ne_nil _ _, by simpa using other.symm, nofun, nofun⟩, trivial⟩
  | literal text :: after =>
      obtain ⟨⟨nonempty, free, alone, last⟩, canonical⟩ := canonical
      refine ⟨⟨List.cons_ne_nil _ _, ?_, alone, ?_⟩, canonical⟩
      · simpa using ⟨other.symm, free⟩
      · obtain ⟨d, others, rfl⟩ := List.exists_cons_of_ne_nil nonempty
        exact last
  | placeholder p :: after =>
      obtain ⟨wellFormed, ends⟩ := canonical.1
      refine ⟨⟨List.cons_ne_nil _ _, by simpa using other.symm, nofun, ?_⟩, canonical⟩
      rintro _ ⟨⟩ bare _ ⟨⟩
      exact Placeholder.no_separator_before (wellFormed.atStart?_block ends) bare fails

/-- Scanning loses nothing, and its tokens are canonical. -/
theorem canonical_of_scan {pattern : Text} {offset : Nat} {parts : List Token}
    (read : scan offset 0 pattern = .ok parts) :
    parts.flatMap text = pattern ∧ Canonical parts := by
  induction pattern using scan_induction generalizing offset parts with
  | nil =>
      obtain rfl := Except.ok.inj read
      exact ⟨rfl, trivial⟩
  | block p rest wellFormed ends ih =>
      rw [scan_block wellFormed ends] at read
      obtain ⟨others, done, rfl⟩ := map_eq_ok read
      obtain ⟨rfl, canonical⟩ := ih done
      exact ⟨rfl, ⟨wellFormed, ends⟩, canonical⟩
  | char c rest other fails ih =>
      rw [scan_char other fails] at read
      obtain ⟨others, done, rfl⟩ := map_eq_ok read
      obtain ⟨rfl, canonical⟩ := ih done
      exact ⟨flatMap_prepend c others, canonical.prepend other fails⟩
  | stray rest fails =>
      rw [scan_stray fails] at read
      cases read

/-- Literal text is taken character by character, where no block takes its last one. -/
theorem scan_literal {text rest : Text} (free : '[' ∉ text)
    (apart : rest.head? = some '[' → ∀ c ∈ text.getLast?, Separator.ofChar? c = none)
    (offset : Nat) :
    scan offset 0 (text ++ rest) =
      (scan (offset + text.length) 0 rest).map (text.foldr prepend ·) := by
  induction text generalizing offset with
  | nil =>
      rw [List.nil_append, List.length_nil, Nat.add_zero]
      cases scan offset 0 rest <;> rfl
  | cons c others ih =>
      rw [List.mem_cons, not_or] at free
      have fails : Placeholder.atStart? (c :: (others ++ rest)) = none := by
        refine Placeholder.atStart?_eq_none (Ne.symm free.1) fun bracket => ?_
        cases others with
        | nil => exact apart bracket c rfl
        | cons d _ =>
            obtain rfl := Option.some.inj bracket
            exact absurd List.mem_cons_self free.2
      have apartToo : rest.head? = some '[' →
          ∀ d ∈ others.getLast?, Separator.ofChar? d = none := by
        intro bracket d last
        cases others with
        | nil => cases last
        | cons _ _ => exact apart bracket d last
      rw [List.cons_append, scan_char (Ne.symm free.1) fails, ih free.2 apartToo,
        List.length_cons, Nat.add_assoc, Nat.add_comm 1]
      cases scan (offset + (others.length + 1)) 0 rest <;> rfl

theorem foldr_prepend {text : Text} {after : List Token} (nonempty : text ≠ [])
    (alone : ∀ other, after.head? ≠ some (literal other)) :
    text.foldr prepend after = literal text :: after := by
  obtain ⟨c, others, rfl⟩ := List.exists_cons_of_ne_nil nonempty
  clear nonempty
  induction others generalizing c with
  | nil =>
      match after with
      | [] | placeholder _ :: _ => rfl
      | literal other :: _ => exact absurd rfl (alone other)
  | cons d others ih =>
      rw [List.foldr_cons, ih d]
      rfl

/-- Tokens before others.  Literal texts that meet become one. -/
def join (front back : List Token) : List Token :=
  front.foldr (fun token after => match token with
    | literal text => text.foldr prepend after
    | placeholder p => placeholder p :: after) back

theorem join_literal (text : Text) (front back : List Token) :
    join (literal text :: front) back = text.foldr prepend (join front back) := rfl

theorem join_placeholder (p : Placeholder) (front back : List Token) :
    join (placeholder p :: front) back = placeholder p :: join front back := rfl

/-- Canonical tokens stay as they are before anything but literal text. -/
theorem Canonical.join_eq_append {front back : List Token} (canonical : Canonical front)
    (apart : ∀ other, back.head? ≠ some (literal other)) : join front back = front ++ back := by
  induction front with
  | nil => rfl
  | cons token after ih =>
      obtain ⟨fits, canonical⟩ := canonical
      cases token with
      | placeholder p => rw [join_placeholder, ih canonical, List.cons_append]
      | literal text =>
          obtain ⟨nonempty, _, alone, _⟩ := fits
          have aloneToo : ∀ other, (after ++ back).head? ≠ some (literal other) := by
            cases after with
            | nil => exact apart
            | cons next others => exact alone
          rw [join_literal, ih canonical, foldr_prepend nonempty aloneToo, List.cons_append]

/-- **Scanning goes through canonical tokens and on to the rest.** The rest must not begin with a
bracket after a separator, which the block there would take, nor with a question mark, which the
last block would take. -/
theorem scan_join {front : List Token} (canonical : Canonical front) {rest : Text}
    (apart : rest.head? = some '[' →
      ∀ c ∈ (front.flatMap text).getLast?, Separator.ofChar? c = none)
    (unmarked : rest.head? ≠ some '?') (offset : Nat) :
    scan offset 0 (front.flatMap text ++ rest) =
      (scan (offset + (front.flatMap text).length) 0 rest).map (join front) := by
  induction front generalizing offset with
  | nil =>
      rw [List.flatMap_nil, List.nil_append, List.length_nil, Nat.add_zero]
      cases scan offset 0 rest <;> rfl
  | cons token after ih =>
      obtain ⟨fits, canonical⟩ := canonical
      have later := ih canonical fun bracket c last =>
        apart bracket c (List.mem_getLast?_append_of_mem_getLast? last)
      cases token with
      | placeholder p =>
          obtain ⟨wellFormed, ends⟩ := fits
          have endsToo : p.EndsBefore (after.flatMap text ++ rest) := by
            intro bare
            cases written : after.flatMap text with
            | nil => exact unmarked
            | cons c others =>
                have first := ends bare
                rwa [written] at first
          rw [List.flatMap_cons, Token.text, List.append_assoc, scan_block wellFormed endsToo,
            later, List.length_append, Nat.add_assoc]
          cases scan (offset + (p.block.length + (after.flatMap text).length)) 0 rest <;> rfl
      | literal text =>
          obtain ⟨nonempty, free, alone, last⟩ := fits
          have apartHere : (after.flatMap Token.text ++ rest).head? = some '[' →
              ∀ c ∈ text.getLast?, Separator.ofChar? c = none := by
            intro bracket
            match after with
            | [] => simpa [Token.text] using apart bracket
            | literal other :: _ => exact absurd rfl (alone other)
            | placeholder p :: others =>
                refine last p rfl ?_
                cases lead : p.lead with
                | none => rfl
                | some separator =>
                    rw [List.flatMap_cons, Token.text, Placeholder.block_eq, lead] at bracket
                    cases separator <;> cases bracket
          rw [List.flatMap_cons, Token.text, List.append_assoc, scan_literal free apartHere, later,
            List.length_append, Nat.add_assoc]
          cases scan (offset + (text.length + (after.flatMap Token.text).length)) 0 rest <;> rfl

/-- Canonical tokens are what scanning reads from their text. -/
theorem scan_of_canonical {parts : List Token} (canonical : Canonical parts) (offset : Nat) :
    scan offset 0 (parts.flatMap text) = .ok parts := by
  have whole := @scan_join parts canonical [] nofun nofun offset
  have same : join parts [] = parts ++ [] := canonical.join_eq_append nofun
  rw [List.append_nil] at whole same
  rw [whole]
  exact congrArg Except.ok same

/-- **A pattern has the canonical tokens that it is the text of.** -/
theorem tokens_eq_ok_iff {pattern : Text} {parts : List Token} :
    tokens pattern = .ok parts ↔ parts.flatMap text = pattern ∧ Canonical parts := by
  refine ⟨canonical_of_scan, ?_⟩
  rintro ⟨rfl, canonical⟩
  exact scan_of_canonical canonical 0

/-- **A pattern after another has the tokens of the two, joined**, unless the second one begins with
something that belongs to the end of the first one. -/
theorem tokens_append {first second : Text} {front back : List Token}
    (readFirst : tokens first = .ok front) (readSecond : tokens second = .ok back)
    (apart : second.head? = some '[' → ∀ c ∈ first.getLast?, Separator.ofChar? c = none)
    (unmarked : second.head? ≠ some '?') : tokens (first ++ second) = .ok (join front back) := by
  obtain ⟨rfl, canonical⟩ := tokens_eq_ok_iff.mp readFirst
  obtain ⟨rfl, canonicalToo⟩ := tokens_eq_ok_iff.mp readSecond
  rw [tokens, scan_join canonical apart unmarked, scan_of_canonical canonicalToo]
  rfl

/-- **A block between two patterns stays a block**, and the tokens of the patterns stay as they are,
unless the block takes a separator before it or a question mark after it. -/
theorem tokens_around {before after : Text} {front back : List Token} {p : Placeholder}
    (readBefore : tokens before = .ok front) (readAfter : tokens after = .ok back)
    (wellFormed : p.WellFormed) (ends : p.EndsBefore after)
    (apart : p.lead = none → ∀ c ∈ before.getLast?, Separator.ofChar? c = none) :
    tokens (before ++ (p.block ++ after)) = .ok (front ++ placeholder p :: back) := by
  obtain ⟨rfl, canonicalAfter⟩ := tokens_eq_ok_iff.mp readAfter
  have readBlock : tokens (p.block ++ back.flatMap text) = .ok (placeholder p :: back) :=
    tokens_eq_ok_iff.mpr ⟨rfl, ⟨wellFormed, ends⟩, canonicalAfter⟩
  have first := p.head?_block (back.flatMap text)
  have whole : tokens (before ++ (p.block ++ back.flatMap text)) =
      .ok (join front (placeholder p :: back)) := by
    apply tokens_append readBefore readBlock
    · intro bracket
      apply apart
      rw [first] at bracket
      cases lead : p.lead with
      | none => rfl
      | some separator =>
          rw [lead] at bracket
          cases separator <;> cases bracket
    · rw [first]
      rcases p.lead with _ | _ | _ <;> decide
  rw [whole, (tokens_eq_ok_iff.mp readBefore).2.join_eq_append (by simp)]

/-- Tokens hold a placeholder if and only if their text holds an opening bracket. -/
theorem Canonical.bracket_mem_iff {parts : List Token} (canonical : Canonical parts) :
    '[' ∈ parts.flatMap text ↔ ∃ p, placeholder p ∈ parts := by
  rw [List.mem_flatMap]
  constructor
  · rintro ⟨token, member, bracket⟩
    obtain ⟨before, after, rfl⟩ := List.append_of_mem member
    cases token with
    | literal text => exact absurd bracket canonical.fits.2.1
    | placeholder p => exact ⟨p, member⟩
  · rintro ⟨p, member⟩
    exact ⟨placeholder p, member, p.bracket_mem_block⟩

end Token

namespace Placeholder

/-- The shape of a block, in terms of what its placeholder reports. -/
structure Shaped (p : Placeholder) : Prop where
  /-- Between the type and the closing bracket stands a colon with the name.  If the name is empty,
  there may also be nothing. -/
  block : ∃ label mark : Text,
    p.block = Separator.textOf p.lead ++ ['['] ++ Separator.textOf p.inner ++ p.typeKey ++ label ++
      [']'] ++ mark ∧
    (label = ':' :: p.name ∨ p.name = [] ∧ label = []) ∧ (mark = ['?'] ∨ mark = []) ∧
    (p.optional = true ↔ mark = ['?'] ∨ Separator.textOf p.inner ≠ [])
  lead : Separator.textOf p.lead ∈ [[], ['/'], ['.']]
  inner : Separator.textOf p.inner ∈ [[], ['/'], ['.']]
  typeKey : ':' ∉ p.typeKey ∧ ']' ∉ p.typeKey
  name : ':' ∉ p.name ∧ ']' ∉ p.name
  /-- A separator at the start of the type is the inner one. -/
  bare : Separator.textOf p.inner = [] → ∀ c ∈ p.typeKey.head?, c ≠ '/' ∧ c ≠ '.'

theorem WellFormed.shaped {p : Placeholder} (wellFormed : p.WellFormed) : p.Shaped where
  block := by
    refine ⟨p.label.elim [] (':' :: ·), p.questionMark, ?_, ?_, ?_, ?_⟩
    · rw [block_eq]
      simp [bracketed, Placeholder.key]
    · cases label : p.label <;> simp [Placeholder.name, label]
    · cases marked : p.marked <;> simp [questionMark, marked]
    · cases marked : p.marked <;> cases inner : p.inner <;>
        simp [questionMark, optional, marked, inner, Separator.textOf]
  lead := Separator.textOf_mem p.lead
  inner := Separator.textOf_mem p.inner
  typeKey := wellFormed.key
  name := by
    cases label : p.label with
    | none => simp [Placeholder.name, label]
    | some name =>
        have isKey : IsKey name := wellFormed.label name label
        rwa [Placeholder.name, label, Option.getD_some]
  bare := by
    intro empty c first
    refine Separator.ofChar?_eq_none.mp (wellFormed.inner ?_ c first)
    cases inner : p.inner with
    | none => rfl
    | some separator =>
        rw [inner] at empty
        cases empty

/-- A block by itself is read as its placeholder. -/
theorem WellFormed.tokens_block {p : Placeholder} (wellFormed : p.WellFormed) :
    tokens p.block = .ok [.placeholder p] :=
  Token.tokens_eq_ok_iff.mpr ⟨List.append_nil _, ⟨wellFormed, nofun⟩, trivial⟩

end Placeholder

/-- **Scanning a pattern is lossless and canonical.** The texts of the tokens make up the pattern.
A literal text is not empty, holds no opening bracket and does not stand beside another one.  Each
block has the shape that its placeholder reports, and is read as that placeholder by itself.  No
separator is left before a block that has none, and no question mark after one that has none.  The
pattern has a bracket if and only if one of the tokens is a placeholder. -/
theorem tokens_lossless_and_canonical (pattern : Text) (parts : List Token)
    (read : tokens pattern = .ok parts) :
    parts.flatMap Token.text = pattern ∧
      (∀ text, .literal text ∈ parts → text ≠ [] ∧ '[' ∉ text) ∧
      (∀ before text other after,
        parts ≠ before ++ .literal text :: .literal other :: after) ∧
      (∀ p, .placeholder p ∈ parts → p.Shaped ∧ tokens p.block = .ok [.placeholder p]) ∧
      (∀ before text p after, parts = before ++ .literal text :: .placeholder p :: after →
        Separator.textOf p.lead = [] → text.getLast? ≠ some '/' ∧ text.getLast? ≠ some '.') ∧
      (∀ before p after, parts = before ++ .placeholder p :: after →
        p.block.getLast? ≠ some '?' → (after.flatMap Token.text).head? ≠ some '?') ∧
      (hasPlaceholders pattern = true ↔ ∃ p, .placeholder p ∈ parts) := by
  obtain ⟨rfl, canonical⟩ := Token.tokens_eq_ok_iff.mp read
  refine ⟨rfl, ?_, ?_, ?_, ?_, ?_, ?_⟩
  · intro text member
    obtain ⟨before, after, rfl⟩ := List.append_of_mem member
    exact ⟨canonical.fits.1, canonical.fits.2.1⟩
  · rintro before text other after rfl
    exact canonical.fits.2.2.1 other rfl
  · intro p member
    obtain ⟨before, after, rfl⟩ := List.append_of_mem member
    exact ⟨canonical.fits.1.shaped, canonical.fits.1.tokens_block⟩
  · rintro before text p after rfl noLead
    have bare : p.lead = none := by
      cases lead : p.lead with
      | none => rfl
      | some separator =>
          rw [lead] at noLead
          cases noLead
    have last := canonical.fits.2.2.2 p rfl bare
    constructor
    all_goals
      intro isLast
      cases last _ isLast
  · rintro before p after rfl noMark
    refine canonical.fits.2 ?_
    rw [Placeholder.getLast?_block] at noMark
    cases marked : p.marked with
    | false => rfl
    | true => simp [marked] at noMark
  · rw [hasPlaceholders, List.contains_iff_mem, canonical.bracket_mem_iff]

/-- A pattern with both separators, a mark, a separator inside the bracket, and a block after
text. -/
theorem tokens_lossless_and_canonical_mixed :
    ∃ parts, tokens "/v.[i:id]?[/s]x[*]".toList = .ok parts ∧ parts.length = 5 ∧
      parts.flatMap Token.text = "/v.[i:id]?[/s]x[*]".toList ∧
      ∀ p, .placeholder p ∈ parts → p.Shaped ∧ tokens p.block = .ok [.placeholder p] := by
  have read : tokens "/v.[i:id]?[/s]x[*]".toList = .ok
      [.literal "/v".toList, .placeholder ⟨some .point, none, ['i'], some "id".toList, true⟩,
        .placeholder ⟨none, some .slash, ['s'], none, false⟩, .literal ['x'],
        .placeholder ⟨none, none, ['*'], none, false⟩] := by
    decide
  obtain ⟨lossless, _, _, blocks, _⟩ := tokens_lossless_and_canonical _ _ read
  exact ⟨_, read, rfl, lossless, blocks⟩

end Signpost

import Signpost.Pattern.Token
import Signpost.Proofs.Outcome
import Signpost.Proofs.Text.Parting
import Mathlib.Data.List.TakeWhile

/-!
# Blocks

A text starts with a block if it is the block of a well-formed placeholder followed by anything that
does not start with the question mark that the block could have had
(`Placeholder.atStart?_eq_some_iff`).  The scanner takes the whole block and goes on after it
(`Token.scan_block`).
-/

namespace Signpost

theorem Separator.ofChar?_eq_some {c : Char} {separator : Separator} :
    ofChar? c = some separator ↔ c = separator.char := by
  constructor
  · intro found
    unfold ofChar? at found
    split at found <;> cases found <;> rfl
  · rintro rfl
    cases separator <;> rfl

theorem Separator.ofChar?_eq_none {c : Char} : ofChar? c = none ↔ c ≠ '/' ∧ c ≠ '.' := by
  unfold ofChar?
  split <;> simp_all

theorem Separator.textOf_mem (separator : Option Separator) :
    textOf separator ∈ [[], ['/'], ['.']] := by
  rcases separator with _ | _ | _ <;> decide

namespace Placeholder

/-- A text that may stand before or after the colon of a block. -/
def IsKey (text : Text) : Prop :=
  ':' ∉ text ∧ ']' ∉ text

instance (text : Text) : Decidable (IsKey text) :=
  inferInstanceAs (Decidable (':' ∉ text ∧ ']' ∉ text))

theorem isKey_iff {text : Text} : IsKey text ↔ ∀ c ∈ text, isKeyChar c = true := by
  simp only [IsKey, isKeyChar, Bool.and_eq_true, bne_iff_ne]
  constructor
  · rintro ⟨noColon, noBracket⟩ c inside
    exact ⟨fun same => noColon (same ▸ inside), fun same => noBracket (same ▸ inside)⟩
  · intro free
    exact ⟨fun inside => (free _ inside).1 rfl, fun inside => (free _ inside).2 rfl⟩

/-- The text of a block after its opening bracket and up to its closing one. -/
def bracketed (key : Text) (label : Option Text) : Text :=
  key ++ (label.elim [] (':' :: ·)) ++ [']']

/-- The text between the opening bracket and the colon. -/
def key (p : Placeholder) : Text :=
  Separator.textOf p.inner ++ p.typeKey

/-- The question mark after the block, if there is one. -/
def questionMark (p : Placeholder) : Text :=
  if p.marked then ['?'] else []

/-- A placeholder whose block can be read again. -/
structure WellFormed (p : Placeholder) : Prop where
  key : IsKey p.typeKey
  label : ∀ label ∈ p.label, IsKey label
  /-- A separator at the start of the type is the inner one. -/
  inner : p.inner = none → ∀ c ∈ p.typeKey.head?, Separator.ofChar? c = none

/-- Whether the block of a placeholder can be followed by a text: a question mark belongs to the
block. -/
def EndsBefore (p : Placeholder) (rest : Text) : Prop :=
  p.marked = false → rest.head? ≠ some '?'

theorem block_eq (p : Placeholder) :
    p.block = Separator.textOf p.lead ++ '[' :: bracketed p.key p.label ++ p.questionMark := by
  cases label : p.label <;> simp [block, bracketed, key, questionMark, label]

@[simp] theorem lead_ofParts (lead : Option Separator) (key : Text) (label : Option Text)
    (rest : Text) : (ofParts lead key label rest).lead = lead := rfl

@[simp] theorem label_ofParts (lead : Option Separator) (key : Text) (label : Option Text)
    (rest : Text) : (ofParts lead key label rest).label = label := rfl

@[simp] theorem key_ofParts (lead : Option Separator) (key : Text) (label : Option Text)
    (rest : Text) : (ofParts lead key label rest).key = key := by
  cases key with
  | nil => rfl
  | cons c others =>
      cases isSeparator : Separator.ofChar? c with
      | none => simp [Placeholder.key, ofParts, isSeparator, Separator.textOf]
      | some separator =>
          obtain rfl := Separator.ofChar?_eq_some.mp isSeparator
          simp [Placeholder.key, ofParts, isSeparator, Separator.textOf]

theorem IsKey.wellFormed {key : Text} {label : Option Text} (isKey : IsKey key)
    (isLabel : ∀ text ∈ label, IsKey text) (lead : Option Separator) (rest : Text) :
    (ofParts lead key label rest).WellFormed where
  key := by
    change IsKey (if _ then key.drop 1 else key)
    split
    · exact ⟨fun inside => isKey.1 (List.mem_of_mem_drop inside), fun inside =>
        isKey.2 (List.mem_of_mem_drop inside)⟩
    · exact isKey
  label := isLabel
  inner := by
    intro bare c first
    simp only [ofParts] at bare first
    simp only [bare, Option.isSome_none, Bool.false_eq_true, ↓reduceIte] at first
    rwa [Option.mem_def.mp first] at bare

theorem WellFormed.isKey_key {p : Placeholder} (wellFormed : p.WellFormed) : IsKey p.key := by
  rw [isKey_iff, Placeholder.key, List.forall_mem_append]
  refine ⟨?_, isKey_iff.mp wellFormed.key⟩
  intro c inside
  cases inner : p.inner with
  | none =>
      rw [inner] at inside
      cases inside
  | some separator =>
      rw [inner] at inside
      obtain rfl := List.mem_singleton.mp inside
      cases separator <;> rfl

/-- A well-formed placeholder is what its parts are read as. -/
theorem WellFormed.ofParts_key {p : Placeholder} (wellFormed : p.WellFormed) {rest : Text}
    (ends : p.EndsBefore rest) : ofParts p.lead p.key p.label (p.questionMark ++ rest) = p := by
  have marked : ((p.questionMark ++ rest).head? == some '?') = p.marked := by
    cases isMarked : p.marked with
    | true => simp [questionMark, isMarked]
    | false => simpa [questionMark, isMarked] using ends isMarked
  have inner : p.key.head?.bind Separator.ofChar? = p.inner := by
    cases isInner : p.inner with
    | none =>
        cases first : p.typeKey.head? with
        | none => simp [Placeholder.key, isInner, Separator.textOf, first]
        | some c => simpa [Placeholder.key, isInner, Separator.textOf, first] using
            wellFormed.inner isInner c first
    | some separator =>
        simpa [Placeholder.key, isInner, Separator.textOf] using Separator.ofChar?_eq_some.mpr rfl
  have typeKey : (if p.inner.isSome then p.key.drop 1 else p.key) = p.typeKey := by
    cases isInner : p.inner <;> simp [Placeholder.key, isInner, Separator.textOf]
  simp only [ofParts, inner, marked, typeKey]

theorem exists_parts_of_ofBracket? {lead : Option Separator} {text : Text} {p : Placeholder}
    (found : ofBracket? lead text = some p) :
    ∃ key label rest, IsKey key ∧ (∀ name ∈ label, IsKey name) ∧
      text = bracketed key label ++ rest ∧ p = ofParts lead key label rest := by
  have run (front : Text) : IsKey (front.takeWhile isKeyChar) :=
    isKey_iff.mpr fun _ => List.mem_takeWhile_imp
  have parted (front : Text) : front = front.takeWhile isKeyChar ++ front.dropWhile isKeyChar :=
    List.takeWhile_append_dropWhile.symm
  simp only [ofBracket?] at found
  split at found
  · next rest closed =>
      refine ⟨text.takeWhile isKeyChar, none, rest, run text, nofun, ?_,
        (Option.some.inj found).symm⟩
      have whole := parted text
      rw [closed] at whole
      simpa [bracketed] using whole
  · next more colon =>
      split at found
      · next rest closed =>
          refine ⟨text.takeWhile isKeyChar, some (more.takeWhile isKeyChar), rest, run text, ?_, ?_,
            (Option.some.inj found).symm⟩
          · rintro _ ⟨⟩
            exact run more
          · have whole := parted text
            rw [colon, parted more, closed] at whole
            simpa [bracketed] using whole
      · cases found
  · cases found

theorem ofBracket?_bracketed {key : Text} {label : Option Text} (isKey : IsKey key)
    (isLabel : ∀ name ∈ label, IsKey name) (lead : Option Separator) (rest : Text) :
    ofBracket? lead (bracketed key label ++ rest) = some (ofParts lead key label rest) := by
  have closed : ∀ c ∈ (']' :: rest).head?, isKeyChar c = false := by rintro _ ⟨⟩; rfl
  cases label with
  | none =>
      obtain ⟨first, afterFirst⟩ := Text.takeWhile_append_of_stop (isKey_iff.mp isKey) closed
      simp [ofBracket?, bracketed, first, afterFirst]
  | some name =>
      let more : Text := name ++ ']' :: rest
      have colon : ∀ c ∈ (':' :: more).head?, isKeyChar c = false := by rintro _ ⟨⟩; rfl
      obtain ⟨first, afterFirst⟩ := Text.takeWhile_append_of_stop (isKey_iff.mp isKey) colon
      obtain ⟨second, afterSecond⟩ :=
        Text.takeWhile_append_of_stop (isKey_iff.mp (isLabel name rfl)) closed
      simp [ofBracket?, bracketed, more, first, afterFirst, second, afterSecond]

/-- What is read after an opening bracket is the rest of the block of a well-formed placeholder. -/
theorem ofBracket?_eq_some_iff {lead : Option Separator} {text : Text} {p : Placeholder} :
    ofBracket? lead text = some p ↔
      p.WellFormed ∧ p.lead = lead ∧
        ∃ rest, text = bracketed p.key p.label ++ p.questionMark ++ rest ∧ p.EndsBefore rest := by
  constructor
  · intro found
    obtain ⟨key, label, rest, isKey, isLabel, rfl, rfl⟩ := exists_parts_of_ofBracket? found
    refine ⟨isKey.wellFormed isLabel lead rest, rfl, ?_⟩
    rw [key_ofParts]
    by_cases question : rest.head? = some '?'
    · obtain ⟨others, rfl⟩ := List.head?_eq_some_iff.mp question
      exact ⟨others, by simp [questionMark, ofParts], fun unmarked => by simp [ofParts] at unmarked⟩
    · exact ⟨rest, by simp [questionMark, ofParts, question], fun _ => question⟩
  · rintro ⟨wellFormed, rfl, rest, rfl, ends⟩
    rw [List.append_assoc, ofBracket?_bracketed wellFormed.isKey_key wellFormed.label,
      wellFormed.ofParts_key ends]

/-- A text starts with a block if it is the block of a well-formed placeholder and a text that may
follow it. -/
theorem atStart?_eq_some_iff {text : Text} {p : Placeholder} :
    atStart? text = some p ↔
      p.WellFormed ∧ ∃ rest, text = p.block ++ rest ∧ p.EndsBefore rest := by
  constructor
  · intro found
    unfold atStart? at found
    split at found
    · next tail =>
        obtain ⟨wellFormed, lead, rest, rfl, ends⟩ := ofBracket?_eq_some_iff.mp found
        exact ⟨wellFormed, rest, by simp [block_eq, lead, Separator.textOf], ends⟩
    · next c tail _ =>
        obtain ⟨separator, isSeparator, block⟩ := Option.bind_eq_some_iff.mp found
        obtain rfl := Separator.ofChar?_eq_some.mp isSeparator
        obtain ⟨wellFormed, lead, rest, rfl, ends⟩ := ofBracket?_eq_some_iff.mp block
        exact ⟨wellFormed, rest, by simp [block_eq, lead, Separator.textOf], ends⟩
    · cases found
  · rintro ⟨wellFormed, rest, rfl, ends⟩
    have found : ofBracket? p.lead (bracketed p.key p.label ++ p.questionMark ++ rest) = some p :=
      ofBracket?_eq_some_iff.mpr ⟨wellFormed, rfl, rest, rfl, ends⟩
    rw [block_eq, List.append_assoc, List.append_assoc, List.cons_append, ← List.append_assoc]
    cases lead : p.lead with
    | none =>
        rw [lead] at found
        exact found
    | some separator =>
        rw [lead] at found
        cases separator <;> exact found

theorem WellFormed.atStart?_block {p : Placeholder} (wellFormed : p.WellFormed) {rest : Text}
    (ends : p.EndsBefore rest) : atStart? (p.block ++ rest) = some p :=
  atStart?_eq_some_iff.mpr ⟨wellFormed, rest, rfl, ends⟩

theorem bracket_mem_block (p : Placeholder) : '[' ∈ p.block := by
  simp [block_eq]

theorem block_ne_nil (p : Placeholder) : p.block ≠ [] :=
  List.ne_nil_of_mem p.bracket_mem_block

/-- A separator is taken with a block only if the bracket follows it. -/
theorem atStart?_eq_none {c : Char} {rest : Text} (other : c ≠ '[')
    (apart : rest.head? = some '[' → Separator.ofChar? c = none) :
    atStart? (c :: rest) = none := by
  rw [Option.eq_none_iff_forall_ne_some]
  intro p found
  obtain ⟨_, tail, whole, _⟩ := atStart?_eq_some_iff.mp found
  rw [block_eq] at whole
  cases lead : p.lead with
  | none =>
      rw [lead] at whole
      exact other (List.cons.inj whole).1
  | some separator =>
      rw [lead] at whole
      obtain ⟨rfl, rfl⟩ := List.cons.inj whole
      have isSeparator := Separator.ofChar?_eq_some.mpr (rfl : separator.char = separator.char)
      rw [apart rfl] at isSeparator
      cases isSeparator

theorem getLast?_block (p : Placeholder) :
    p.block.getLast? = some (if p.marked then '?' else ']') := by
  cases marked : p.marked <;> simp only [block, marked, Bool.false_eq_true, ↓reduceIte,
    List.append_nil, List.getLast?_concat]

theorem head?_block (p : Placeholder) (rest : Text) :
    (p.block ++ rest).head? = some (p.lead.elim '[' Separator.char) := by
  rw [block_eq]
  cases p.lead <;> rfl

/-- The placeholder after another separator. -/
def withLead (lead : Option Separator) (p : Placeholder) : Placeholder :=
  { p with lead := lead }

theorem block_withLead (lead : Option Separator) (p : Placeholder) :
    (p.withLead lead).block = Separator.textOf lead ++ (p.withLead none).block := by
  cases lead <;> rfl

theorem WellFormed.withLead {p : Placeholder} (wellFormed : p.WellFormed)
    (lead : Option Separator) : (p.withLead lead).WellFormed :=
  ⟨wellFormed.key, wellFormed.label, wellFormed.inner⟩

/-- A block without a separator, where no separator could have been taken with it, stands after a
character that is none. -/
theorem no_separator_before {c : Char} {rest : Text} {p : Placeholder}
    (found : atStart? rest = some p) (bare : p.lead = none) (fails : atStart? (c :: rest) = none) :
    Separator.ofChar? c = none := by
  obtain ⟨wellFormed, tail, rfl, ends⟩ := atStart?_eq_some_iff.mp found
  cases isSeparator : Separator.ofChar? c with
  | none => rfl
  | some separator =>
      obtain rfl := Separator.ofChar?_eq_some.mp isSeparator
      have block : (p.withLead (some separator)).block = separator.char :: p.block := by
        rw [block_withLead, withLead, ← bare]
        rfl
      have endsToo : (p.withLead (some separator)).EndsBefore tail := ends
      have taken := (wellFormed.withLead (some separator)).atStart?_block endsToo
      rw [block, List.cons_append, fails] at taken
      cases taken

end Placeholder

namespace Token

/-- Characters that have been used already are passed over. -/
theorem scan_used (offset used : Nat) (text : Text) :
    scan offset used text = scan (offset + used) 0 (text.drop used) := by
  induction used generalizing offset text with
  | zero => rfl
  | succ used ih =>
      cases text with
      | nil => simp [scan]
      | cons c rest => rw [scan, ih, List.drop_succ_cons, Nat.add_right_comm, Nat.add_assoc]

/-- A block is taken whole. -/
theorem scan_block {p : Placeholder} {rest : Text} (wellFormed : p.WellFormed)
    (ends : p.EndsBefore rest) (offset : Nat) :
    scan offset 0 (p.block ++ rest) =
      (scan (offset + p.block.length) 0 rest).map (placeholder p :: ·) := by
  have start := wellFormed.atStart?_block ends
  obtain ⟨c, others, block⟩ := List.exists_cons_of_ne_nil p.block_ne_nil
  rw [block, List.cons_append] at start ⊢
  rw [scan, start]
  dsimp only
  rw [scan_used, block]
  simp [Nat.add_right_comm, Nat.add_assoc]

theorem scan_char {c : Char} {rest : Text} (other : c ≠ '[')
    (fails : Placeholder.atStart? (c :: rest) = none) (offset : Nat) :
    scan offset 0 (c :: rest) = (scan (offset + 1) 0 rest).map (prepend c) := by
  rw [scan, fails]
  simp only [other, ↓reduceIte]

theorem scan_stray {rest : Text} (fails : Placeholder.atStart? ('[' :: rest) = none)
    (offset : Nat) : scan offset 0 ('[' :: rest) = .error offset := by
  rw [scan, fails]
  rfl

/-- What is shown of a text along the way the scanner takes: block by block, and otherwise character
by character, up to the end or to a bracket that starts no block. -/
theorem scan_induction {motive : Text → Prop} (nil : motive [])
    (block : ∀ (p : Placeholder) rest, p.WellFormed → p.EndsBefore rest → motive rest →
      motive (p.block ++ rest))
    (char : ∀ c rest, c ≠ '[' → Placeholder.atStart? (c :: rest) = none → motive rest →
      motive (c :: rest))
    (stray : ∀ rest, Placeholder.atStart? ('[' :: rest) = none → motive ('[' :: rest))
    (text : Text) : motive text := by
  induction length : text.length using Nat.strong_induction_on generalizing text with
  | h length ih =>
      subst length
      cases start : Placeholder.atStart? text with
      | some p =>
          obtain ⟨wellFormed, rest, rfl, ends⟩ := Placeholder.atStart?_eq_some_iff.mp start
          have shorter : rest.length < (p.block ++ rest).length := by
            have := List.length_pos_iff.mpr p.block_ne_nil
            rw [List.length_append]
            omega
          exact block p rest wellFormed ends (ih _ shorter rest rfl)
      | none =>
          cases text with
          | nil => exact nil
          | cons c rest =>
              by_cases bracket : c = '['
              · subst bracket
                exact stray rest start
              · exact char c rest bracket start (ih _ (Nat.lt_succ_self _) rest rfl)

end Token

end Signpost

import Signpost.Proofs.Regex.Notation
import Signpost.Pattern.Source

/-!
# Reading the source of a pattern

What a reader makes of the symbols of literal text and of a placeholder.  Literal text gives one
piece for each of its characters (`reads_text`).  A placeholder opens two groups around its fragment
(`Placeholder.run_opening`), and closing them leaves a single piece behind
(`Placeholder.reads_closing`), whatever has been read in between.
-/

namespace Signpost

open Regex

/-- The symbol for a character of literal text. -/
def literalSymbol (c : Char) : Symbol :=
  if specialCharacters.contains c then .escaped c else .plain c

theorem literalSymbol_of_mem {c : Char} (special : c ∈ specialCharacters) :
    literalSymbol c = .escaped c :=
  if_pos (List.contains_iff_mem.mpr special)

theorem literalSymbol_of_not_mem {c : Char} (plain : c ∉ specialCharacters) :
    literalSymbol c = .plain c :=
  if_neg fun special => plain (List.contains_iff_mem.mp special)

theorem ne_of_not_mem_specialCharacters {c d : Char} (plain : c ∉ specialCharacters)
    (special : d ∈ specialCharacters) : c ≠ d := by
  rintro rfl
  exact plain special

theorem ofText_escapeText (text : Text) :
    Symbol.ofText (escapeText text) = some (text.map literalSymbol) := by
  induction text with
  | nil => rfl
  | cons c rest ih =>
      rw [escapeText, List.flatMap_cons, ← escapeText]
      by_cases special : c ∈ specialCharacters
      · have escaped : Symbol.ofText ['\\', c] = some [.escaped c] := rfl
        rw [if_pos (List.contains_iff_mem.mpr special), Symbol.ofText_append escaped, ih]
        simp [literalSymbol_of_mem special]
      · have plain : ∀ d ∈ [c], d ≠ '\\' := by
          intro d inside
          rw [List.mem_singleton.mp inside]
          exact ne_of_not_mem_specialCharacters special (by decide)
        rw [if_neg fun found => special (List.contains_iff_mem.mp found),
          Symbol.ofText_append (Symbol.ofText_plain plain), ih]
        simp [literalSymbol_of_not_mem special]

theorem settled_literal (text : Text) : Settled (text.map literalSymbol) := by
  cases text with
  | nil => exact ⟨rfl, rfl⟩
  | cons c rest =>
      rw [List.map_cons]
      by_cases special : c ∈ specialCharacters
      · rw [literalSymbol_of_mem special]
        exact settled_cons _ nofun nofun
      · rw [literalSymbol_of_not_mem special]
        refine settled_cons _ (fun same => ?_) (fun same => ?_)
        · exact ne_of_not_mem_specialCharacters special (by decide) (Symbol.plain.inj same)
        · exact ne_of_not_mem_specialCharacters special (by decide) (Symbol.plain.inj same)

section

variable [Unicode.Names]

/-- A special character stands for itself after a backslash. -/
theorem step_escaped_special {reader : Reader} (outside : reader.draft = none)
    (plain : reader.frame.flags = {}) {c : Char} (special : c ∈ specialCharacters)
    (rest : List Symbol) :
    reader.step (.escaped c) rest = .ok (reader.push (.ofChar c), 0) := by
  have harmless : specialCharacters.all (fun d => decide (Reader.anchorOf false d = none ∧
      familyOf false d = none ∧ d ≠ '0' ∧ isDecimal d = false ∧ isLetter d = false ∧
      (controlCode d = none ∨ controlCode d = some d.toNat))) = true := by
    decide
  obtain ⟨noAnchor, noFamily, notZero, notDigit, notLetter, control⟩ :=
    of_decide_eq_true (List.all_eq_true.mp harmless c special)
  have other (d : Char) (letter : isLetter d = true) : c ≠ d :=
    ne_of_apply_ne isLetter (by rw [notLetter, letter]; exact nofun)
  have code : escapedCode c rest = .ok (c.toNat, 0) := by
    rcases control with control | control
    · simp [escapedCode, control, other 'x' rfl, other 'u' rfl, other 'U' rfl, other 'N' rfl,
        notDigit, notLetter]
    · simp [escapedCode, control]
  simp [Reader.step, outside, Reader.outside, Reader.escaped, plain, noAnchor, noFamily, notZero,
    notDigit, code, Except.map, Reader.pushCode, Flags.letters, Piece.ofChar]

/-- Any other character stands for itself as it is. -/
theorem step_plain_literal {reader : Reader} (outside : reader.draft = none)
    (plain : reader.frame.flags = {}) {c : Char} (single : c ∉ specialCharacters)
    (rest : List Symbol) :
    reader.step (.plain c) rest = .ok (reader.push (.ofChar c), 0) := by
  have other {d : Char} (special : d ∈ specialCharacters) : ¬ c = d :=
    ne_of_not_mem_specialCharacters single special
  simp only [Reader.step, outside, Reader.outside, plain, Bool.false_and, Bool.false_eq_true,
    ↓reduceIte]
  rw [if_neg (other (by decide)), if_neg (other (by decide)), if_neg (other (by decide)),
    if_neg (other (by decide)), if_neg (other (by decide)), if_neg (other (by decide)),
    if_neg (other (by decide)), if_neg (other (by decide)), if_neg (other (by decide)),
    if_neg (other (by decide)), if_neg (other (by decide))]
  simp [Reader.pushCode, plain, Flags.letters, Piece.ofChar]

theorem step_literalSymbol {reader : Reader} (outside : reader.draft = none)
    (plain : reader.frame.flags = {}) (c : Char) (rest : List Symbol) :
    reader.step (literalSymbol c) rest = .ok (reader.push (.ofChar c), 0) := by
  by_cases special : c ∈ specialCharacters
  · rw [literalSymbol_of_mem special]
    exact step_escaped_special outside plain special rest
  · rw [literalSymbol_of_not_mem special]
    exact step_plain_literal outside plain special rest

/-- Literal text is read as one piece for each character. -/
theorem reads_text (reader : Reader) (outside : reader.draft = none)
    (plain : reader.frame.flags = {}) (text : Text) :
    reader.Reads (text.map literalSymbol) (reader.pushAll (text.map .ofChar)) := by
  induction text generalizing reader with
  | nil => exact Reader.Reads.refl reader
  | cons c rest ih =>
      intro later settled
      rw [List.map_cons, List.map_cons, Reader.pushAll_cons, List.cons_append,
        Reader.run_step_alone (step_literalSymbol outside plain c _)]
      exact ih (reader.push (.ofChar c)) outside plain later settled

end

theorem identifier_ne_nil {name : Text} (identifier : Unicode.isIdentifier name = true) :
    name ≠ [] := by
  rintro rfl
  cases identifier

/-- An identifier has neither of the characters that would end it in a source. -/
theorem identifier_free {name : Text} (identifier : Unicode.isIdentifier name = true) :
    ∀ c ∈ name, c ≠ '\\' ∧ c ≠ '>' := by
  cases name with
  | nil => simp
  | cons first others =>
      simp only [Unicode.isIdentifier, Bool.and_eq_true, List.all_eq_true] at identifier
      obtain ⟨start, parts⟩ := identifier
      intro c member
      rcases List.mem_cons.mp member with rfl | later
      · constructor
        · rintro rfl
          exact absurd start (by decide)
        · rintro rfl
          exact absurd start (by decide)
      · have part := parts c later
        constructor
        · rintro rfl
          exact absurd part (by decide)
        · rintro rfl
          exact absurd part (by decide)

namespace Placeholder

/-- The symbols that open the group of a placeholder. -/
def groupOpening (p : Placeholder) : List Symbol :=
  if p.name.isEmpty then [.plain '(']
  else [.plain '(', .plain '?', .plain 'P', .plain '<'] ++ (p.name.map .plain ++ [.plain '>'])

/-- The symbols of a placeholder before its fragment. -/
def opening (p : Placeholder) : List Symbol :=
  [.plain '(', .plain '?', .plain ':'] ++ (p.separator.map literalSymbol ++ p.groupOpening)

/-- The symbols that mark a part of a placeholder as one that may be absent. -/
def mark (p : Placeholder) : List Symbol :=
  if p.optional then [.plain '?'] else []

/-- The symbols of a placeholder after its fragment. -/
def closing (p : Placeholder) : List Symbol :=
  [.plain ')'] ++ p.mark ++ [.plain ')'] ++ p.mark

theorem ofText_source {p : Placeholder} {fragment : Text} {value : List Symbol}
    (free : ∀ c ∈ p.name, c ≠ '\\') (read : Symbol.ofText fragment = some value) :
    Symbol.ofText (p.source fragment) = some (p.opening ++ value ++ p.closing) := by
  have mark : Symbol.ofText (if p.optional then ['?'] else []) = some p.mark := by
    cases optional : p.optional <;> simp [Placeholder.mark, optional, Symbol.ofText]
  have close : Symbol.ofText [')'] = some [.plain ')'] := rfl
  have start : Symbol.ofText ("(?:".toList ++ escapeText p.separator) =
      some ([.plain '(', .plain '?', .plain ':'] ++ p.separator.map literalSymbol) :=
    Symbol.ofText_concat rfl (ofText_escapeText _)
  have group : Symbol.ofText (p.group fragment) =
      some (p.groupOpening ++ value ++ [.plain ')']) := by
    by_cases unnamed : p.name.isEmpty
    · rw [Placeholder.group, if_pos unnamed, groupOpening, if_pos unnamed]
      exact Symbol.ofText_concat (Symbol.ofText_concat rfl read) close
    · rw [Placeholder.group, if_neg unnamed, groupOpening, if_neg unnamed]
      have lead : Symbol.ofText "(?P<".toList =
          some [.plain '(', .plain '?', .plain 'P', .plain '<'] := rfl
      have angle : Symbol.ofText ['>'] = some [.plain '>'] := rfl
      have named := Symbol.ofText_concat (Symbol.ofText_concat lead (Symbol.ofText_plain free)) angle
      rw [Symbol.ofText_concat (Symbol.ofText_concat named read) close]
      simp only [List.append_assoc]
  have whole := Symbol.ofText_concat (Symbol.ofText_concat (Symbol.ofText_concat
    (Symbol.ofText_concat start group) mark) close) mark
  refine whole.trans ?_
  simp only [opening, closing, List.append_assoc]

/-- The name of a placeholder with the number of its group, if it has a name. -/
def numbered (p : Placeholder) (number : Nat) : List (Text × Nat) :=
  if p.name.isEmpty then [] else [(p.name, number)]

/-- The reader inside the plain group of a placeholder, after the separator. -/
def enterPlain (p : Placeholder) (reader : Reader) : Reader :=
  (reader.enterAlike .plain).pushAll (p.separator.map .ofChar)

/-- The reader inside the groups of a placeholder. -/
def enter (p : Placeholder) (reader : Reader) : Reader :=
  { (p.enterPlain reader).enterCapture with
    names := reader.names ++ p.numbered reader.nextNumber }

variable [Unicode.Names]

/-- The symbols before the group of a placeholder open the plain group around it. -/
theorem run_separator {p : Placeholder} {reader : Reader} (outside : reader.draft = none)
    (plain : reader.frame.flags = {}) {rest : List Symbol} (settled : Settled rest) :
    reader.run 0 ([.plain '(', .plain '?', .plain ':'] ++
        (p.separator.map literalSymbol ++ rest)) = (p.enterPlain reader).run 0 rest := by
  have compact : reader.frame.flags.verbose = false := by rw [plain]
  rw [reader.run_enterAlike outside compact]
  exact reads_text (reader.enterAlike .plain) outside plain p.separator rest settled

theorem run_enterPlain {p : Placeholder} {reader : Reader} (outside : reader.draft = none)
    (plain : reader.frame.flags = {}) (value : List Symbol) :
    reader.run 0 (p.opening ++ value) =
      (p.enterPlain reader).run 0 (p.groupOpening ++ value) := by
  have settled : Settled (p.groupOpening ++ value) := by
    unfold groupOpening
    split <;> exact settled_cons _ (by decide) (by decide)
  rw [opening, List.append_assoc, List.append_assoc]
  exact run_separator outside plain settled

/-- A name that opens a group is fresh. -/
theorem fresh_of_run_opening {p : Placeholder} {reader result : Reader} {value : List Symbol}
    (outside : reader.draft = none) (plain : reader.frame.flags = {}) (given : p.name ≠ [])
    (identifier : Unicode.isIdentifier p.name = true)
    (ran : reader.run 0 (p.opening ++ value) = .ok result) :
    reader.names.lookup p.name = none := by
  have compact : reader.frame.flags.verbose = false := by rw [plain]
  have stops : ∀ c ∈ p.name, c ≠ '>' := fun c inside => (identifier_free identifier c inside).2
  rw [run_enterPlain outside plain, groupOpening, if_neg (by simpa using given),
    (p.enterPlain reader).run_named outside compact stops] at ran
  cases entered : (p.enterPlain reader).enterNamed p.name with
  | error flaw =>
      rw [entered] at ran
      cases ran
  | ok next => exact (Reader.enterNamed_eq_ok.mp entered).2.1

/-- The symbols before the fragment open the groups of a placeholder, if its name, when there is
one, is a fresh identifier. -/
theorem run_opening {p : Placeholder} {reader : Reader} {value : List Symbol}
    (outside : reader.draft = none) (plain : reader.frame.flags = {})
    (named : p.name ≠ [] →
      Unicode.isIdentifier p.name = true ∧ reader.names.lookup p.name = none)
    (started : nextIs '?' value = false) :
    reader.run 0 (p.opening ++ value) = (p.enter reader).run 0 value := by
  have compact : reader.frame.flags.verbose = false := by rw [plain]
  rw [run_enterPlain outside plain]
  by_cases unnamed : p.name.isEmpty
  · have entered : p.enter reader = (p.enterPlain reader).enterCapture := by
      rw [enter, numbered, if_pos unnamed, List.append_nil]
      rfl
    rw [groupOpening, if_pos unnamed, entered]
    exact (p.enterPlain reader).run_enterCapture outside compact started
  · obtain ⟨identifier, fresh⟩ := named (by simpa using unnamed)
    have stops : ∀ c ∈ p.name, c ≠ '>' := fun c inside => (identifier_free identifier c inside).2
    have entered : (p.enterPlain reader).enterNamed p.name = .ok (p.enter reader) := by
      refine Reader.enterNamed_eq_ok.mpr ⟨identifier, fresh, ?_⟩
      rw [enter, numbered, if_neg unnamed]
      rfl
    rw [groupOpening, if_neg unnamed,
      (p.enterPlain reader).run_named outside compact stops, entered]
    rfl

/-- The piece that a placeholder becomes: its group after what stands before it in the segment. -/
def segment (p : Placeholder) (before : List Piece) (group : Piece) : Piece :=
  ({ sequence (group.marked p.optional :: before) with bond := .free } : Piece).marked p.optional

/-- The symbols after the fragment close the groups of a placeholder and leave one piece behind. -/
theorem reads_closing (p : Placeholder) (reader : Reader) {number : Nat} {inner parent : Frame}
    {outer : List Frame} (outside : reader.draft = none)
    (capturing : reader.frame.opening = .capture number)
    (around : reader.outer = inner :: parent :: outer) (grouped : inner.opening = .plain)
    (single : inner.earlier = []) :
    reader.Reads p.closing { reader with
      frame := parent.push (p.segment inner.pieces
        ⟨.capture number reader.frame.body.regex, reader.frame.body.width, .free⟩)
      outer := outer
      widths := reader.widths.set (number - 1) (some reader.frame.body.width) } := by
  intro rest settled
  let group : Piece :=
    ⟨.capture number reader.frame.body.regex, reader.frame.body.width, .free⟩
  let closed : Reader := { reader with
    frame := inner.push group
    outer := parent :: outer
    widths := reader.widths.set (number - 1) (some reader.frame.body.width) }
  let marked : Reader := { closed with
    frame := { inner with pieces := group.marked p.optional :: inner.pieces } }
  let whole : Piece := { sequence (group.marked p.optional :: inner.pieces) with bond := .free }
  let back : Reader := { closed with frame := parent.push whole, outer := outer }
  have body : ({ marked.frame.body with bond := .free } : Piece) = whole := by
    simp [marked, Frame.body, single, alternatives, whole]
  calc reader.run 0 (p.closing ++ rest)
      = closed.run 0 (p.mark ++ (.plain ')' :: (p.mark ++ rest))) := by
        simp only [closing, List.append_assoc, List.cons_append, List.nil_append]
        exact reader.run_leaveCapture outside capturing around _
    _ = marked.run 0 (.plain ')' :: (p.mark ++ rest)) :=
        closed.reads_mark p.optional outside rfl rfl _
          (settled_cons _ (by decide) (by decide))
    _ = back.run 0 (p.mark ++ rest) := by
        rw [marked.run_leavePlain outside grouped rfl, body]
    _ = _ := back.reads_mark p.optional outside rfl rfl rest settled

end Placeholder

end Signpost

import Signpost.Pattern.Source
import Signpost.Proofs.Regex.Nesting

/-!
# What the rewriting of group names changes

`normalizeGroups` puts a letter into the text wherever a bracket, a question mark, an angle bracket
and the start of a name follow each other.  It does not tell the brackets of groups from others: an
escaped bracket counts as well, and so does a bracket among square brackets or in a comment.  In an
expression none of them opens a named group, since groups are not named this way.  In a comment the
letter does no harm.  So an expression is rewritten to a text that denotes the same, as long as the
rewriting changes nothing outside of comments (`read_normalizeGroups`).
-/

namespace Signpost.Regex

/-- Whether symbols start with what the rewriting looks for. -/
def marksGroup : List Symbol → Bool
  | bracket :: .plain '?' :: .plain '<' :: .plain c :: _ =>
      (bracket == .plain '(' || bracket == .escaped '(') && startsGroupName c
  | _ => false

/-- Whether the rewriting changes symbols from one of the first places on. -/
def marksWithin : Nat → List Symbol → Bool
  | count + 1, symbol :: rest => marksGroup (symbol :: rest) || marksWithin count rest
  | _, _ => false

/-- Whether a symbol starts a comment. -/
def Reader.comments (reader : Reader) (symbol : Symbol) (rest : List Symbol) : Bool :=
  reader.draft.isNone &&
    ((symbol == .plain '#' && reader.frame.flags.verbose) ||
      (symbol == .plain '(' && nextIs '?' rest && nextIs '#' (rest.drop 1)))

/-- Whether the rewriting changes symbols outside of comments. -/
def Reader.altered [Unicode.Names] (reader : Reader) : Nat → List Symbol → Bool
  | _, [] => false
  | used + 1, _ :: rest => reader.altered used rest
  | 0, symbol :: rest =>
      match reader.step symbol rest with
      | .error _ => false
      | .ok (next, used) =>
          (!reader.comments symbol rest && marksWithin (used + 1) (symbol :: rest)) ||
            next.altered used rest

/-- Symbols and what the rewriting makes of them. -/
inductive Rewritten : List Symbol → List Symbol → Prop where
  | nil : Rewritten [] []
  | keep (symbol : Symbol) {symbols others : List Symbol} (rest : Rewritten symbols others) :
      Rewritten (symbol :: symbols) (symbol :: others)
  | mark {bracket : Symbol} {c : Char} {symbols others : List Symbol}
      (opens : bracket = .plain '(' ∨ bracket = .escaped '(') (starts : startsGroupName c = true)
      (rest : Rewritten (.plain c :: symbols) others) :
      Rewritten (bracket :: .plain '?' :: .plain '<' :: .plain c :: symbols)
        (bracket :: .plain '?' :: .plain 'P' :: .plain '<' :: others)

theorem normalizeGroups_cons (c : Char) (rest : Text) :
    (∃ d others, c = '(' ∧ rest = '?' :: '<' :: d :: others ∧ startsGroupName d = true ∧
      normalizeGroups (c :: rest) = '(' :: '?' :: 'P' :: '<' :: normalizeGroups (d :: others)) ∨
    normalizeGroups (c :: rest) = c :: normalizeGroups rest := by
  by_cases mark : ∃ d others, c = '(' ∧ rest = '?' :: '<' :: d :: others ∧
      startsGroupName d = true
  · left
    obtain ⟨d, others, rfl, rfl, starts⟩ := mark
    refine ⟨d, others, rfl, rfl, starts, ?_⟩
    rw [normalizeGroups, if_pos starts]
  · right
    by_cases form : ∃ d others, c = '(' ∧ rest = '?' :: '<' :: d :: others
    · obtain ⟨d, others, rfl, rfl⟩ := form
      rw [normalizeGroups, if_neg]
      exact fun starts => mark ⟨d, others, rfl, rfl, starts⟩
    · rw [normalizeGroups]
      exact fun d others bracket tail => form ⟨d, others, bracket, tail⟩

theorem unchanged_of_cons {c : Char} {rest : Text}
    (unchanged : normalizeGroups (c :: rest) = c :: rest) : normalizeGroups rest = rest := by
  rcases normalizeGroups_cons c rest with ⟨d, others, rfl, rfl, _, form⟩ | form
  · rw [form] at unchanged
    cases unchanged
  · rw [form] at unchanged
    exact (List.cons.inj unchanged).2

theorem normalizeGroups_cons_of_ne {c : Char} (other : c ≠ '(') (rest : Text) :
    normalizeGroups (c :: rest) = c :: normalizeGroups rest := by
  rcases normalizeGroups_cons c rest with ⟨_, _, same, _⟩ | form
  · exact absurd same other
  · exact form

theorem ne_of_startsGroupName {c d : Char} (starts : startsGroupName c = true)
    (other : startsGroupName d = false) : c ≠ d := by
  rintro rfl
  rw [starts] at other
  cases other

theorem Rewritten.of_unmarked {symbol : Symbol} {symbols others : List Symbol}
    (unmarked : marksGroup (symbol :: symbols) = false)
    (rewritten : Rewritten (symbol :: symbols) others) :
    ∃ later, others = symbol :: later ∧ Rewritten symbols later := by
  cases rewritten with
  | keep _ rest => exact ⟨_, rfl, rest⟩
  | mark opens starts _ =>
      rcases opens with rfl | rfl <;> simp [marksGroup, starts] at unmarked

theorem Rewritten.of_cons {symbol : Symbol} {symbols others : List Symbol}
    (single : symbol ≠ .plain '(' ∧ symbol ≠ .escaped '(')
    (rewritten : Rewritten (symbol :: symbols) others) :
    ∃ later, others = symbol :: later ∧ Rewritten symbols later := by
  cases rewritten with
  | keep _ rest => exact ⟨_, rfl, rest⟩
  | mark opens _ _ =>
      rcases opens with rfl | rfl
      · exact absurd rfl single.1
      · exact absurd rfl single.2

/-- A character in front of a text that has been rewritten, where it is a symbol by itself or the
last character of one. -/
theorem rewritten_cons {c : Char} (bracket : Symbol)
    (opens : c = '(' → bracket = .plain '(' ∨ bracket = .escaped '(') {rest : Text}
    {symbols others : List Symbol} (split : Symbol.ofText rest = some symbols)
    (done : Symbol.ofText (normalizeGroups rest) = some others)
    (rewritten : Rewritten symbols others) :
    ∃ more later, normalizeGroups (c :: rest) = c :: more ∧ Symbol.ofText more = some later ∧
      Rewritten (bracket :: symbols) (bracket :: later) := by
  rcases normalizeGroups_cons c rest with ⟨d, tail, rfl, rfl, starts, form⟩ | form
  · have plain : d ≠ '\\' := ne_of_startsGroupName starts (by decide)
    rw [Symbol.ofText_cons (by decide), Symbol.ofText_cons (by decide),
      Symbol.ofText_cons plain] at split
    simp only [Option.map_map, Option.map_eq_some_iff, Function.comp_apply] at split
    obtain ⟨after, parted, rfl⟩ := split
    obtain ⟨_, rfl, angle⟩ := rewritten.of_cons (by decide)
    obtain ⟨later, rfl, name⟩ := angle.of_cons (by decide)
    refine ⟨_, _, form, ?_, .mark (opens rfl) starts name⟩
    have inner : normalizeGroups ('?' :: '<' :: d :: tail) =
        '?' :: '<' :: normalizeGroups (d :: tail) := by
      rw [normalizeGroups_cons_of_ne (by decide), normalizeGroups_cons_of_ne (by decide)]
    rw [inner, Symbol.ofText_cons (by decide), Symbol.ofText_cons (by decide)] at done
    simp only [Option.map_map, Option.map_eq_some_iff, Function.comp_apply, List.cons.injEq,
      true_and, exists_eq_right] at done
    rw [Symbol.ofText_cons (by decide), Symbol.ofText_cons (by decide),
      Symbol.ofText_cons (by decide), done]
    rfl
  · exact ⟨_, _, form, done, .keep bracket rewritten⟩

/-- The rewriting of a text is one of its symbols. -/
theorem rewritten_ofText {text : Text} {symbols : List Symbol}
    (split : Symbol.ofText text = some symbols) :
    ∃ others, Symbol.ofText (normalizeGroups text) = some others ∧ Rewritten symbols others := by
  induction text using Symbol.ofText.induct generalizing symbols with
  | case1 =>
      cases split
      exact ⟨[], rfl, .nil⟩
  | case2 => cases split
  | case3 c rest ih =>
      obtain ⟨after, parted, rfl⟩ := Option.map_eq_some_iff.mp split
      obtain ⟨others, done, rewritten⟩ := ih parted
      obtain ⟨more, later, form, read, whole⟩ :=
        rewritten_cons (.escaped c) (fun same => .inr (congrArg Symbol.escaped same))
          parted done rewritten
      refine ⟨.escaped c :: later, ?_, whole⟩
      rw [normalizeGroups_cons_of_ne (by decide), form, Symbol.ofText, read]
      rfl
  | case4 c rest single double ih =>
      have plain := Symbol.ofText_case single double
      rw [Symbol.ofText_cons plain] at split
      obtain ⟨after, parted, rfl⟩ := Option.map_eq_some_iff.mp split
      obtain ⟨others, done, rewritten⟩ := ih parted
      obtain ⟨more, later, form, read, whole⟩ :=
        rewritten_cons (.plain c) (fun same => .inl (congrArg Symbol.plain same))
          parted done rewritten
      refine ⟨.plain c :: later, ?_, whole⟩
      rw [form, Symbol.ofText_cons plain, read]
      rfl

/-- Where the rewriting changes none of the first symbols, these are followed by a bracket or by
nothing on both sides. -/
theorem Rewritten.split {symbols others : List Symbol} (rewritten : Rewritten symbols others)
    {count : Nat} (bounded : count ≤ symbols.length)
    (unmarked : marksWithin count symbols = false) :
    ∃ front tail changed, symbols = front ++ tail ∧ others = front ++ changed ∧
      count ≤ front.length ∧ Halted tail ∧ Halted changed ∧ Rewritten tail changed := by
  induction rewritten generalizing count with
  | nil => exact ⟨[], [], [], rfl, rfl, bounded, trivial, trivial, .nil⟩
  | @keep symbol symbols others rest ih =>
      have unmarkedLater : marksWithin (count - 1) symbols = false := by
        cases count with
        | zero => exact rfl
        | succ count => exact (Bool.or_eq_false_iff.mp unmarked).2
      have boundedLater := Nat.sub_le_of_le_add bounded
      obtain ⟨front, tail, changed, rfl, rfl, length, halted, halts, later⟩ :=
        ih boundedLater unmarkedLater
      exact ⟨symbol :: front, tail, changed, rfl, rfl, Nat.le_add_of_sub_le length, halted, halts,
        later⟩
  | @mark bracket c symbols others opens starts rest ih =>
      have nothing : count = 0 := by
        cases count with
        | zero => rfl
        | succ count =>
            rcases opens with rfl | rfl <;> simp [marksWithin, marksGroup, starts] at unmarked
      have stops : bracket.stops = true := by
        rcases opens with rfl | rfl <;> rfl
      exact ⟨[], _, _, rfl, rfl, Nat.le_of_eq nothing, stops, stops, .mark opens starts rest⟩

/-- The symbols after the text of a comment in brackets. -/
theorem Rewritten.textUntil {symbols others : List Symbol} (rewritten : Rewritten symbols others)
    {text : Text} {count : Nat} (found : textUntil ')' symbols = some (text, count)) :
    ∃ later length, Regex.textUntil ')' others = some (later, length) ∧
      Rewritten (symbols.drop count) (others.drop length) := by
  induction rewritten generalizing text count with
  | nil => cases found
  | keep symbol rest ih =>
      rw [Regex.textUntil] at found ⊢
      split at found
      next here =>
        cases found
        exact ⟨[], 1, if_pos here, rest⟩
      next apart =>
        obtain ⟨⟨inner, used⟩, within, same⟩ := Option.map_eq_some_iff.mp found
        cases same
        obtain ⟨later, length, read, after⟩ := ih within
        exact ⟨symbol.text ++ later, length + 1, by rw [if_neg apart, read]; rfl, after⟩
  | @mark bracket c symbols others opens starts rest ih =>
      have apart : bracket ≠ .plain ')' := by
        rcases opens with rfl | rfl <;> decide
      rw [textUntil_cons_of_ne apart, textUntil_cons_of_ne (by decide),
        textUntil_cons_of_ne (by decide)] at found
      simp only [Option.map_map, Option.map_eq_some_iff, Function.comp_apply, Prod.mk.injEq] at found
      obtain ⟨⟨inner, used⟩, within, rfl, rfl⟩ := found
      obtain ⟨later, length, read, after⟩ := ih within
      refine ⟨bracket.text ++ ('?' :: 'P' :: '<' :: later), length + 4, ?_, after⟩
      rw [textUntil_cons_of_ne apart, textUntil_cons_of_ne (by decide),
        textUntil_cons_of_ne (by decide), textUntil_cons_of_ne (by decide), read]
      rfl

/-- The symbols after a comment that goes on to the end of the line. -/
theorem Rewritten.line {symbols others : List Symbol} (rewritten : Rewritten symbols others) :
    Rewritten (symbols.drop (lineLength symbols)) (others.drop (lineLength others)) := by
  induction rewritten with
  | nil => exact .nil
  | keep symbol rest ih =>
      simp only [lineLength]
      split
      · exact rest
      · exact ih
  | mark opens starts rest ih =>
      rcases opens with rfl | rfl <;> simpa [lineLength] using ih

theorem Rewritten.prepend {symbols others : List Symbol} (front : List Symbol)
    (rewritten : Rewritten symbols others) : Rewritten (front ++ symbols) (front ++ others) := by
  induction front with
  | nil => exact rewritten
  | cons symbol rest ih => exact .keep symbol ih

namespace Reader

variable {reader next final : Reader} {symbol : Symbol} {rest others : List Symbol} {used : Nat}

theorem comments_eq_true : reader.comments symbol rest = true ↔ reader.draft = none ∧
    ((symbol = .plain '#' ∧ reader.frame.flags.verbose = true) ∨
      ∃ more, symbol = .plain '(' ∧ rest = .plain '?' :: .plain '#' :: more) := by
  simp only [comments, Bool.and_eq_true, Option.isNone_iff_eq_none, Bool.or_eq_true, beq_iff_eq]
  refine and_congr_right fun _ => or_congr_right ⟨?_, ?_⟩
  · rintro ⟨⟨rfl, mark⟩, hash⟩
    obtain ⟨more, rfl⟩ := exists_of_nextIs mark
    obtain ⟨later, rfl⟩ := exists_of_nextIs hash
    exact ⟨later, rfl, rfl⟩
  · rintro ⟨more, rfl, rfl⟩
    exact ⟨⟨rfl, rfl⟩, rfl⟩

theorem unmarked_of_comments (comment : reader.comments symbol rest = true) :
    marksGroup (symbol :: rest) = false := by
  obtain ⟨_, ⟨rfl, _⟩ | ⟨more, rfl, rfl⟩⟩ := comments_eq_true.mp comment
  · unfold marksGroup
    split
    · next same =>
        cases same
        rfl
    · rfl
  · rfl

variable [Unicode.Names]

/-- A comment in brackets goes on to the next closing bracket. -/
theorem step_note (outside : reader.draft = none) (tail : List Symbol) :
    reader.step (.plain '(') (.plain '?' :: .plain '#' :: tail) =
      match textUntil ')' tail with
      | none => .error .malformed
      | some (_, count) => .ok (reader, 2 + count) := by
  have notLayout : isLayout '(' = false := by decide
  cases found : textUntil ')' tail <;>
    simp [step, outside, Reader.outside, notLayout, opened, found]

/-- A comment is read as one after the rewriting too, and changes nothing. -/
theorem step_comment (comment : reader.comments symbol rest = true)
    (stepped : reader.step symbol rest = .ok (next, used)) (rewritten : Rewritten rest others) :
    next = reader ∧ ∃ count, reader.step symbol others = .ok (reader, count) ∧
      Rewritten (rest.drop used) (others.drop count) := by
  obtain ⟨outside, ⟨rfl, verbose⟩ | ⟨more, rfl, rfl⟩⟩ := comments_eq_true.mp comment
  · have lined (tail : List Symbol) :
        reader.step (.plain '#') tail = .ok (reader, lineLength tail) := by
      rw [step_eq_perform, outside, Action.ofSymbol, Action.outside_comment verbose]
      rfl
    rw [lined] at stepped
    cases stepped
    exact ⟨rfl, _, lined others, rewritten.line⟩
  · obtain ⟨_, rfl, inner⟩ := rewritten.of_cons (by decide)
    obtain ⟨later, rfl, body⟩ := inner.of_cons (by decide)
    rw [step_note outside] at stepped
    split at stepped
    next => cases stepped
    next text count found =>
      cases stepped
      obtain ⟨inside, length, read, after⟩ := body.textUntil found
      refine ⟨rfl, 2 + length, ?_, ?_⟩
      · rw [step_note outside, read]
      · rw [Nat.add_comm, Nat.add_comm 2]
        exact after

/-- A step that is no comment is the same after the rewriting, if this changes none of the symbols
that the step uses. -/
theorem step_rewritten (plain : reader.comments symbol rest = false)
    (stepped : reader.step symbol rest = .ok (next, used))
    (unmarked : marksWithin used rest = false) (rewritten : Rewritten rest others) :
    reader.step symbol others = .ok (next, used) ∧
      Rewritten (rest.drop used) (others.drop used) := by
  have bounded : used ≤ rest.length := by
    rcases step_enclosed stepped with ⟨_, _, within, _⟩ | ⟨_, _, whole⟩
    · exact within
    · exact Nat.le_of_eq whole
  obtain ⟨front, tail, changed, rfl, rfl, length, halted, halts, later⟩ :=
    rewritten.split bounded unmarked
  obtain ⟨action, decided, acted⟩ := step_eq_ok.mp stepped
  constructor
  · rcases Action.ofSymbol_within reader.frame.flags front reader.draft symbol with within | endless
    · obtain ⟨_, same⟩ := within tail halted action used decided
      refine step_eq_ok.mpr ⟨action, same ?_ changed halts, acted⟩
      rwa [Nat.zero_add]
    · obtain ⟨outside, verbose, rfl, _⟩ := endless
      simp [comments, outside, verbose] at plain
  · rw [List.drop_append_of_le_length length, List.drop_append_of_le_length length]
    exact later.prepend _

theorem altered_drop (reader : Reader) (used : Nat) (symbols : List Symbol) :
    reader.altered used symbols = reader.altered 0 (symbols.drop used) := by
  induction symbols generalizing used with
  | nil => rw [List.drop_nil, altered, altered]
  | cons symbol rest ih =>
      cases used with
      | zero => rfl
      | succ used => exact ih used

/-- **A text is read alike after the rewriting**, if this changes nothing outside of comments. -/
theorem run_rewritten {symbols : List Symbol} (rewritten : Rewritten symbols others)
    (unaltered : reader.altered 0 symbols = false) (ran : reader.run 0 symbols = .ok final) :
    reader.run 0 others = .ok final := by
  -- A step uses a comment at once, so the induction is on the number of symbols that are left.
  induction size : symbols.length using Nat.strongRecOn generalizing reader symbols others with
  | ind size ih =>
  subst size
  cases symbols with
  | nil =>
      cases rewritten
      exact ran
  | cons symbol rest =>
      obtain ⟨next, used, stepped, sequel⟩ := run_cons_eq_ok.mp ran
      rw [altered, stepped] at unaltered
      obtain ⟨here, beyond⟩ := Bool.or_eq_false_iff.mp unaltered
      rw [run_drop] at sequel
      rw [altered_drop] at beyond
      have shorter : (rest.drop used).length < (symbol :: rest).length := by
        rw [List.length_drop, List.length_cons]
        omega
      by_cases comment : reader.comments symbol rest = true
      · -- The comment may be longer after the rewriting: the numbers of used symbols differ.
        obtain ⟨later, rfl, after⟩ := rewritten.of_unmarked (unmarked_of_comments comment)
        obtain ⟨rfl, count, steppedToo, after⟩ := step_comment comment stepped after
        refine run_cons_eq_ok.mpr ⟨next, count, steppedToo, ?_⟩
        rw [run_drop]
        exact ih _ shorter after beyond sequel rfl
      · rw [Bool.not_eq_true] at comment
        rw [comment, Bool.not_false, Bool.true_and, marksWithin, Bool.or_eq_false_iff] at here
        obtain ⟨later, rfl, after⟩ := rewritten.of_unmarked here.1
        obtain ⟨steppedToo, after⟩ := step_rewritten comment stepped here.2 after
        refine run_cons_eq_ok.mpr ⟨next, used, steppedToo, ?_⟩
        rw [run_drop]
        exact ih _ shorter after beyond sequel rfl

end Reader

/-- Whether the rewriting changes a text outside of its comments. -/
def alteredText [Unicode.Names] (text : Text) : Bool :=
  match Symbol.ofText text with
  | none => false
  | some symbols => Reader.start.altered 0 symbols

/-- **The rewriting of an expression denotes the same**, if it changes nothing outside of
comments. -/
theorem read_normalizeGroups [Unicode.Names] {text : Text} {expression : Expression}
    (read : Regex.read text = .ok expression) (unaltered : alteredText text = false) :
    Regex.read (normalizeGroups text) = .ok expression := by
  obtain ⟨symbols, final, split, ran, complete, rfl⟩ := read_eq_ok.mp read
  obtain ⟨others, splitToo, rewritten⟩ := rewritten_ofText split
  rw [alteredText, split] at unaltered
  have ranToo := Reader.run_rewritten rewritten unaltered ran
  exact read_eq_ok.mpr ⟨others, final, splitToo, ranToo, complete, rfl⟩

/-- Symbols that the rewriting does not change anywhere. -/
def Unmarked (symbols : List Symbol) : Prop :=
  ∀ tail, tail <:+ symbols → marksGroup tail = false

theorem Unmarked.cons {symbol : Symbol} {rest : List Symbol}
    (here : marksGroup (symbol :: rest) = false) (later : Unmarked rest) :
    Unmarked (symbol :: rest) := by
  intro tail ends
  rcases List.suffix_cons_iff.mp ends with rfl | inside
  · exact here
  · exact later tail inside

theorem Unmarked.of_cons {symbol : Symbol} {rest : List Symbol}
    (unmarked : Unmarked (symbol :: rest)) : Unmarked rest :=
  fun tail ends => unmarked tail (ends.trans (List.suffix_cons symbol rest))

theorem Unmarked.within {symbols : List Symbol} (unmarked : Unmarked symbols) (count : Nat) :
    marksWithin count symbols = false := by
  induction symbols generalizing count with
  | nil => cases count <;> rfl
  | cons symbol rest ih =>
      cases count with
      | zero => rfl
      | succ count =>
          rw [marksWithin, unmarked _ (List.suffix_refl _), ih unmarked.of_cons]
          rfl

theorem Unmarked.altered [Unicode.Names] {symbols : List Symbol} (unmarked : Unmarked symbols)
    (reader : Reader) (used : Nat) : reader.altered used symbols = false := by
  induction symbols generalizing reader used with
  | nil => rw [Reader.altered]
  | cons symbol rest ih =>
      cases used with
      | succ used => exact ih unmarked.of_cons reader used
      | zero =>
          rw [Reader.altered]
          split
          · rfl
          · rw [unmarked.within, ih unmarked.of_cons, Bool.and_false]
            rfl

/-- A bracket at the end of a symbol is not rewritten if the text from it on is not. -/
theorem marksGroup_of_unchanged {c : Char} {bracket : Symbol}
    (closes : bracket = .plain c ∨ bracket = .escaped c) {rest : Text} {symbols : List Symbol}
    (split : Symbol.ofText rest = some symbols)
    (unchanged : normalizeGroups (c :: rest) = c :: rest) :
    marksGroup (bracket :: symbols) = false := by
  unfold marksGroup
  split
  next first d later same =>
    cases same
    obtain ⟨_, rfl, angle⟩ := Symbol.of_ofText_plain split
    obtain ⟨_, rfl, name⟩ := Symbol.of_ofText_plain angle
    obtain ⟨others, rfl, _⟩ := Symbol.of_ofText_plain name
    rw [Bool.and_eq_false_iff]
    by_cases starts : startsGroupName d = true
    · left
      rcases eq_or_ne c '(' with rfl | other
      · rw [normalizeGroups, if_pos starts] at unchanged
        cases unchanged
      · rcases closes with rfl | rfl <;> simp [other]
    · right
      exact Bool.not_eq_true _ ▸ starts
  next => rfl

/-- A text that the rewriting leaves as it is has no symbols that it changes. -/
theorem unmarked_of_unchanged {text : Text} {symbols : List Symbol}
    (split : Symbol.ofText text = some symbols) (unchanged : normalizeGroups text = text) :
    Unmarked symbols := by
  induction text using Symbol.ofText.induct generalizing symbols with
  | case1 =>
      cases split
      intro tail ends
      obtain rfl := List.suffix_nil.mp ends
      rfl
  | case2 => cases split
  | case3 c rest ih =>
      obtain ⟨after, parted, rfl⟩ := Option.map_eq_some_iff.mp split
      have inner := unchanged_of_cons unchanged
      exact .cons (marksGroup_of_unchanged (.inr rfl) parted inner)
        (ih parted (unchanged_of_cons inner))
  | case4 c rest single double ih =>
      rw [Symbol.ofText_cons (Symbol.ofText_case single double)] at split
      obtain ⟨after, parted, rfl⟩ := Option.map_eq_some_iff.mp split
      exact .cons (marksGroup_of_unchanged (.inl rfl) parted unchanged)
        (ih parted (unchanged_of_cons unchanged))

/-- A text that the rewriting leaves as it is is not altered outside of its comments either. -/
theorem alteredText_of_unchanged [Unicode.Names] {text : Text}
    (unchanged : normalizeGroups text = text) : alteredText text = false := by
  unfold alteredText
  split
  · rfl
  next symbols split => exact (unmarked_of_unchanged split unchanged).altered .start 0

end Signpost.Regex

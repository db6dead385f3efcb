import Signpost.Proofs.Outcome
import Signpost.Proofs.Regex.Running

/-!
# Reading a text piece by piece

`Reader.Reads` says that symbols take a reader to another one, whatever follows them.  The only
thing that what follows could change is how greedy a repetition at the end of the symbols is, so
texts that start with a question mark or a plus sign are excluded (`Settled`).  Readings of texts
that stand one after the other are put together by `Reader.Reads.trans`.
-/

namespace Signpost.Regex

theorem Symbol.ofText_cons {c : Char} (plain : c ≠ '\\') (rest : Text) :
    Symbol.ofText (c :: rest) = (Symbol.ofText rest).map (.plain c :: ·) := by
  rw [ofText]
  · exact fun same _ => plain same
  · exact fun _ _ same _ => plain same

/-- The last case of `Symbol.ofText` is that of a character that is no backslash. -/
theorem Symbol.ofText_case {c : Char} {rest : Text} (single : c = '\\' → rest = [] → False)
    (double : ∀ d others, c = '\\' → rest = d :: others → False) : c ≠ '\\' := by
  rintro rfl
  cases rest with
  | nil => exact single rfl rfl
  | cons d others => exact double d others rfl rfl

/-- The symbols of a text come from its parts, if the first part does not end in a backslash that
belongs to the second one. -/
theorem Symbol.ofText_append {first second : Text} {symbols : List Symbol}
    (whole : Symbol.ofText first = some symbols) :
    Symbol.ofText (first ++ second) = (Symbol.ofText second).map (symbols ++ ·) := by
  induction first using Symbol.ofText.induct generalizing symbols with
  | case1 =>
      simp only [ofText, Option.some.injEq] at whole
      subst whole
      simp
  | case2 => simp [ofText] at whole
  | case3 c rest ih =>
      simp only [ofText, Option.map_eq_some_iff] at whole
      obtain ⟨others, read, rfl⟩ := whole
      simp only [List.cons_append, ofText, ih read, Option.map_map]
      rfl
  | case4 c rest single double ih =>
      rw [ofText] at whole
      · obtain ⟨others, read, rfl⟩ := Option.map_eq_some_iff.mp whole
        rw [List.cons_append, ofText_cons (ofText_case single double), ih read, Option.map_map]
        rfl
      · exact single
      · exact double

/-- A plain symbol at the head is the first character of the text. -/
theorem Symbol.of_ofText_plain {text : Text} {c : Char} {symbols : List Symbol}
    (split : Symbol.ofText text = some (.plain c :: symbols)) :
    ∃ rest, text = c :: rest ∧ Symbol.ofText rest = some symbols := by
  induction text using Symbol.ofText.induct with
  | case1 | case2 | case3 => simp [ofText] at split
  | case4 d rest single double =>
      rw [ofText_cons (ofText_case single double)] at split
      obtain ⟨others, read, same⟩ := Option.map_eq_some_iff.mp split
      cases same
      exact ⟨rest, rfl, read⟩

theorem Symbol.ofText_concat {first second : Text} {symbols others : List Symbol}
    (one : Symbol.ofText first = some symbols) (two : Symbol.ofText second = some others) :
    Symbol.ofText (first ++ second) = some (symbols ++ others) := by
  rw [Symbol.ofText_append one, two, Option.map_some]

/-- A text without a backslash has a plain symbol for each character. -/
theorem Symbol.ofText_plain {text : Text} (free : ∀ c ∈ text, c ≠ '\\') :
    Symbol.ofText text = some (text.map .plain) := by
  induction text with
  | nil => rfl
  | cons c rest ih =>
      have plain : c ≠ '\\' := free c List.mem_cons_self
      rw [ofText_cons plain, ih fun d inside => free d (List.mem_cons_of_mem _ inside)]
      rfl

theorem exists_of_nextIs {c : Char} {symbols : List Symbol} (found : nextIs c symbols = true) :
    ∃ rest, symbols = .plain c :: rest := by
  cases symbols with
  | nil => cases found
  | cons symbol rest =>
      obtain rfl : symbol = .plain c := by simpa [nextIs] using found
      exact ⟨rest, rfl⟩

/-- What is read up to a mark that follows a text is that text, unless it has a backslash. -/
theorem textUntil_ofText {mark : Char} (single : mark ≠ '\\') {text rest : Text}
    {symbols : List Symbol} (split : Symbol.ofText (text ++ mark :: rest) = some symbols)
    (free : mark ∉ text) {label : Text} {used : Nat}
    (found : textUntil mark symbols = some (label, used)) : label = text ∨ '\\' ∈ label := by
  induction text generalizing symbols label used with
  | nil =>
      rw [List.nil_append, Symbol.ofText_cons single] at split
      obtain ⟨others, _, rfl⟩ := Option.map_eq_some_iff.mp split
      rw [textUntil, if_pos rfl] at found
      cases found
      exact .inl rfl
  | cons c others ih =>
      rw [List.mem_cons, not_or] at free
      obtain ⟨apart, free⟩ := free
      by_cases escape : c = '\\'
      · subst escape
        -- The backslash stays with the character after it, so the mark is not met here.
        right
        cases after : others ++ mark :: rest with
        | nil => simp at after
        | cons d more =>
            rw [List.cons_append, after, Symbol.ofText] at split
            obtain ⟨later, _, rfl⟩ := Option.map_eq_some_iff.mp split
            rw [textUntil_cons_of_ne (by simp)] at found
            obtain ⟨_, _, same⟩ := Option.map_eq_some_iff.mp found
            cases same
            exact List.mem_cons_self
      · rw [List.cons_append, Symbol.ofText_cons escape] at split
        obtain ⟨later, read, rfl⟩ := Option.map_eq_some_iff.mp split
        rw [textUntil_cons_of_ne fun same => apart (Symbol.plain.inj same).symm] at found
        obtain ⟨⟨front, count⟩, within, same⟩ := Option.map_eq_some_iff.mp found
        cases same
        rcases ih read free within with rfl | inside
        · exact .inl rfl
        · exact .inr (List.mem_cons_of_mem c inside)

/-- Symbols that do not say how greedy a repetition before them is. -/
def Settled (symbols : List Symbol) : Prop :=
  nextIs '?' symbols = false ∧ nextIs '+' symbols = false

theorem Settled.append {first second : List Symbol} (one : Settled first) (two : Settled second) :
    Settled (first ++ second) := by
  cases first with
  | nil => exact two
  | cons symbol others => exact one

theorem settled_cons {symbol : Symbol} (others : List Symbol) (mark : symbol ≠ .plain '?')
    (plus : symbol ≠ .plain '+') : Settled (symbol :: others) := by
  simp [Settled, nextIs, mark, plus]

namespace Reader

variable [Unicode.Names]

/-- A text is read step by step. -/
theorem run_cons_eq_ok {reader final : Reader} {symbol : Symbol} {rest : List Symbol} :
    reader.run 0 (symbol :: rest) = .ok final ↔
      ∃ next used, reader.step symbol rest = .ok (next, used) ∧ next.run used rest = .ok final := by
  rw [run]
  cases stepped : reader.step symbol rest with
  | error flaw => simp
  | ok outcome =>
      constructor
      · exact fun ran => ⟨outcome.1, outcome.2, rfl, ran⟩
      · rintro ⟨next, used, same, ran⟩
        cases same
        exact ran

/-- Symbols that a step has used are passed over. -/
theorem run_drop (reader : Reader) (used : Nat) (symbols : List Symbol) :
    reader.run used symbols = reader.run 0 (symbols.drop used) := by
  induction symbols generalizing used with
  | nil => rw [List.drop_nil, run, run]
  | cons symbol rest ih =>
      cases used with
      | zero => rfl
      | succ used => exact ih used

theorem run_used (reader : Reader) (used rest : List Symbol) :
    reader.run used.length (used ++ rest) = reader.run 0 rest := by
  rw [run_drop, List.drop_left]

theorem run_all (reader : Reader) (symbols : List Symbol) :
    reader.run symbols.length symbols = .ok reader := by
  rw [run_drop, List.drop_length, run]

/-- A step that uses the symbols after its first one leads to the symbols after those. -/
theorem run_step {reader next : Reader} {symbol : Symbol} (used : List Symbol)
    {rest : List Symbol} (stepped : reader.step symbol (used ++ rest) = .ok (next, used.length)) :
    reader.run 0 (symbol :: (used ++ rest)) = next.run 0 rest := by
  rw [run, stepped]
  exact next.run_used used rest

theorem run_step_alone {reader next : Reader} {symbol : Symbol} {rest : List Symbol}
    (stepped : reader.step symbol rest = .ok (next, 0)) :
    reader.run 0 (symbol :: rest) = next.run 0 rest := by
  rw [run, stepped]

/-- Symbols take a reader to another one, whatever settled symbols follow them. -/
def Reads (reader : Reader) (symbols : List Symbol) (next : Reader) : Prop :=
  ∀ rest, Settled rest → reader.run 0 (symbols ++ rest) = next.run 0 rest

theorem Reads.refl (reader : Reader) : reader.Reads [] reader :=
  fun _ _ => rfl

theorem Reads.trans {first second third : Reader} {symbols others : List Symbol}
    (one : first.Reads symbols second) (two : second.Reads others third)
    (settled : Settled others) : first.Reads (symbols ++ others) third := by
  intro rest after
  rw [List.append_assoc, one _ (settled.append after), two rest after]

/-- The reader with pieces in the open group, the first one first. -/
def pushAll (reader : Reader) (pieces : List Piece) : Reader :=
  { reader with
    frame := { reader.frame with pieces := pieces.reverse ++ reader.frame.pieces } }

omit [Unicode.Names] in
theorem pushAll_cons (reader : Reader) (piece : Piece) (others : List Piece) :
    reader.pushAll (piece :: others) = (reader.push piece).pushAll others := by
  simp [pushAll, push, Frame.push]

omit [Unicode.Names] in
theorem pushAll_append (reader : Reader) (first second : List Piece) :
    reader.pushAll (first ++ second) = (reader.pushAll first).pushAll second := by
  simp [pushAll]

/-- The symbols of a mark that may be set make the latest piece one that may be absent. -/
theorem reads_mark (reader : Reader) {piece : Piece} {others : List Piece} (mark : Bool)
    (outside : reader.draft = none) (latest : reader.frame.pieces = piece :: others)
    (single : piece.bond = .free) :
    reader.Reads (if mark then [.plain '?'] else [])
      { reader with frame := { reader.frame with pieces := piece.marked mark :: others } } := by
  intro rest settled
  cases mark with
  | false =>
      rw [show piece.marked false = piece from rfl, ← latest]
      rfl
  | true =>
      have notLayout : isLayout '?' = false := by decide
      have stepped : reader.step (.plain '?') rest =
          .ok ({ reader with frame := { reader.frame with
            pieces := piece.marked true :: others } }, 0) := by
        simp [step, outside, Reader.outside, notLayout, quantify, settled.1, settled.2, repeatLast,
          latest, single, Except.map, Piece.marked]
      exact run_step_alone stepped

/-- A plain group is opened. -/
theorem run_enterAlike (reader : Reader) (outside : reader.draft = none)
    (compact : reader.frame.flags.verbose = false) (rest : List Symbol) :
    reader.run 0 ([.plain '(', .plain '?', .plain ':'] ++ rest) =
      (reader.enterAlike .plain).run 0 rest := by
  apply run_step [.plain '?', .plain ':']
  simp [step, outside, Reader.outside, compact, opened]

/-- A numbered group is opened, unless a question mark follows the bracket. -/
theorem run_enterCapture (reader : Reader) (outside : reader.draft = none)
    (compact : reader.frame.flags.verbose = false) {rest : List Symbol}
    (started : nextIs '?' rest = false) :
    reader.run 0 ([.plain '('] ++ rest) = reader.enterCapture.run 0 rest := by
  have captured : reader.opened rest = .ok (reader.enterCapture, 0) := by
    unfold opened
    split
    · simp [nextIs] at started
    · rfl
  apply run_step_alone
  simp [step, outside, Reader.outside, compact, captured]

/-- The reader with a new group open that has a fresh name. -/
def enterFresh (reader : Reader) (name : Text) : Reader :=
  { reader.enterCapture with names := reader.names ++ [(name, reader.nextNumber)] }

omit [Unicode.Names] in
theorem enterNamed_eq_ok {reader next : Reader} {name : Text} :
    reader.enterNamed name = .ok next ↔ Unicode.isIdentifier name = true ∧
      reader.names.lookup name = none ∧ next = reader.enterFresh name := by
  unfold enterNamed
  split
  · next accepted =>
      simp only [Bool.and_eq_true, Option.isNone_iff_eq_none] at accepted
      simp [accepted, enterFresh, eq_comm]
  · next refused =>
      simp only [Bool.and_eq_true, Option.isNone_iff_eq_none, not_and] at refused
      simp only [reduceCtorEq, false_iff, not_and]
      exact fun identifier fresh _ => refused identifier fresh

/-- The symbols of a name open a named group, if that is possible. -/
theorem run_named (reader : Reader) (outside : reader.draft = none)
    (compact : reader.frame.flags.verbose = false) {name : Text} (stops : ∀ c ∈ name, c ≠ '>')
    (rest : List Symbol) :
    reader.run 0 ([.plain '(', .plain '?', .plain 'P', .plain '<'] ++
        (name.map .plain ++ [.plain '>']) ++ rest) =
      (reader.enterNamed name).bind fun next => next.run 0 rest := by
  let used : List Symbol := [.plain '?', .plain 'P', .plain '<'] ++
    (name.map .plain ++ [.plain '>'])
  have length : used.length = 3 + (name.length + 1) := by
    simp only [used, List.length_append, List.length_map, List.length_cons, List.length_nil]
  have named := textUntil_plain stops rest
  have stepped : reader.step (.plain '(') (used ++ rest) =
      (reader.enterNamed name).map (·, used.length) := by
    rw [length]
    simp [step, outside, Reader.outside, compact, opened, used, named]
  change reader.run 0 (.plain '(' :: (used ++ rest)) = _
  cases entered : reader.enterNamed name with
  | error flaw =>
      rw [entered] at stepped
      rw [run, stepped]
      rfl
  | ok next =>
      rw [entered] at stepped
      exact run_step used stepped

/-- A named group is refused if the text up to the closing mark is no name that can be given. -/
theorem run_named_refused (reader : Reader) (outside : reader.draft = none)
    (compact : reader.frame.flags.verbose = false) {symbols : List Symbol}
    (refused : ∀ label used, textUntil '>' symbols = some (label, used) →
      reader.enterNamed label = .error .malformed) :
    reader.run 0 ([.plain '(', .plain '?', .plain 'P', .plain '<'] ++ symbols) =
      .error .malformed := by
  have stepped : reader.step (.plain '(') ([.plain '?', .plain 'P', .plain '<'] ++ symbols) =
      .error .malformed := by
    cases found : textUntil '>' symbols with
    | none => simp [step, outside, Reader.outside, compact, opened, found]
    | some named =>
        obtain ⟨label, used⟩ := named
        simp [step, outside, Reader.outside, compact, opened, found, refused label used found,
          Except.map]
  change reader.run 0 (.plain '(' :: ([.plain '?', .plain 'P', .plain '<'] ++ symbols)) = _
  rw [run, stepped]

/-- A bracket closes a numbered group. -/
theorem run_leaveCapture (reader : Reader) {number : Nat} {parent : Frame} {outer : List Frame}
    (outside : reader.draft = none) (group : reader.frame.opening = .capture number)
    (around : reader.outer = parent :: outer) (rest : List Symbol) :
    reader.run 0 (.plain ')' :: rest) =
      { reader with
        frame := parent.push ⟨.capture number reader.frame.body.regex, reader.frame.body.width, .free⟩
        outer := outer
        widths := reader.widths.set (number - 1) (some reader.frame.body.width) }.run 0 rest := by
  apply run_step_alone
  simp [step, outside, Reader.outside, leave, around, group, Except.map, push]

/-- A bracket closes a plain group. -/
theorem run_leavePlain (reader : Reader) {parent : Frame} {outer : List Frame}
    (outside : reader.draft = none) (group : reader.frame.opening = .plain)
    (around : reader.outer = parent :: outer) (rest : List Symbol) :
    reader.run 0 (.plain ')' :: rest) =
      { reader with
        frame := parent.push { reader.frame.body with bond := .free }
        outer := outer }.run 0 rest := by
  apply run_step_alone
  simp [step, outside, Reader.outside, leave, around, group, Except.map, push]

/-- What has been read is an expression: no group and no bracket expression is open, every look
behind has a fixed width, and the groups that choices refer to are there. -/
structure Complete (reader : Reader) : Prop where
  draft : reader.draft = none
  outer : reader.outer = []
  steady : reader.wavering = false
  present : reader.farthest ≤ reader.widths.length

omit [Unicode.Names] in
theorem finish_eq_ok {reader : Reader} {expression : Expression} :
    reader.finish = .ok expression ↔
      reader.Complete ∧ expression = ⟨reader.frame.body.regex, reader.names⟩ := by
  unfold finish
  split
  next flawed =>
    refine ⟨nofun, fun ⟨complete, _⟩ => ?_⟩
    simp [complete.draft, complete.outer, complete.steady, Nat.not_lt.mpr complete.present]
      at flawed
  next sound =>
    simp only [Bool.or_eq_true, not_or, Bool.not_eq_true, Option.isSome_eq_false_iff,
      Option.isNone_iff_eq_none, Bool.not_eq_false', List.isEmpty_iff, decide_eq_true_eq,
      Nat.not_lt] at sound
    obtain ⟨⟨⟨draft, outer⟩, steady⟩, present⟩ := sound
    constructor
    · intro finished
      cases finished
      exact ⟨⟨draft, outer, steady, present⟩, rfl⟩
    · rintro ⟨_, rfl⟩
      rfl

end Reader

theorem read_eq_ok [Unicode.Names] {text : Text} {expression : Expression} :
    Regex.read text = .ok expression ↔
      ∃ symbols final, Symbol.ofText text = some symbols ∧
        Reader.start.run 0 symbols = .ok final ∧ final.Complete ∧
        expression = ⟨final.frame.body.regex, final.names⟩ := by
  unfold Regex.read
  cases split : Symbol.ofText text with
  | none => simp
  | some symbols =>
      constructor
      · intro read
        obtain ⟨final, ran, finished⟩ := bind_eq_ok read
        exact ⟨symbols, final, rfl, ran, Reader.finish_eq_ok.mp finished⟩
      · rintro ⟨_, final, same, ran, finished⟩
        cases same
        dsimp only
        rw [ran]
        exact Reader.finish_eq_ok.mpr finished

end Signpost.Regex

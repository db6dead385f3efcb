import Mathlib.Data.List.Infix
import Signpost.Proofs.Regex.Action
import Signpost.Proofs.Regex.Notation

/-!
# Numbers of rounds beyond what can be counted

Every violation of the notation is the same flaw, with one exception: a number of rounds in braces
that is too large, or has too many digits, is a flaw of its own.  So a text that is refused for
another reason than a violation of the notation holds such braces, digits and all (`read_refused`).
The argument follows the reader: the decision about a symbol is refused for a violation of the
notation unless the symbol opens such braces (`Action.ofSymbol_refused`), and an action is refused
for nothing else (`Reader.act_refused`).
-/

namespace Signpost.Regex

/-- An outcome that can only be refused for a violation of the notation. -/
def OnlyMalformed {α : Type} (outcome : Except Flaw α) : Prop :=
  ∀ flaw, outcome = .error flaw → flaw = .malformed

namespace OnlyMalformed

variable {α β : Type}

theorem ok (value : α) : OnlyMalformed (.ok value) := nofun

theorem refused : OnlyMalformed (.error .malformed : Except Flaw α) :=
  fun _ same => (Except.error.inj same).symm

theorem map {outcome : Except Flaw α} (sound : OnlyMalformed outcome) (f : α → β) :
    OnlyMalformed (outcome.map f) := by
  cases outcome with
  | ok value => exact ok (f value)
  | error flaw =>
      rw [sound flaw rfl]
      exact refused

theorem bind {outcome : Except Flaw α} (sound : OnlyMalformed outcome) {f : α → Except Flaw β}
    (later : ∀ value, OnlyMalformed (f value)) : OnlyMalformed (outcome.bind f) := by
  cases outcome with
  | ok value => exact later value
  | error flaw =>
      rw [sound flaw rfl]
      exact refused

theorem ite {test : Prop} [Decidable test] {first second : Except Flaw α}
    (one : OnlyMalformed first) (two : OnlyMalformed second) :
    OnlyMalformed (if test then first else second) := by
  split
  · exact one
  · exact two

end OnlyMalformed

/-- Digits of a number that is beyond what can be counted. -/
def Uncountable (digits : Text) : Prop :=
  Decimal.mostDigits < digits.length ∨ 0xFFFFFFFF ≤ numberOf 10 digits

/-- Braces with one number of rounds, or with two, of which one is beyond what can be counted. -/
def UncountableBraces (braces : Text) : Prop :=
  ∃ low high : Text, (∀ c ∈ low, isDecimal c = true) ∧ (∀ c ∈ high, isDecimal c = true) ∧
    (Uncountable low ∨ Uncountable high) ∧
    (braces = ['{'] ++ low ++ ['}'] ∨ braces = ['{'] ++ low ++ [','] ++ high ++ ['}'])

theorem uncountable_of_bound {digits : Text} {flaw : Flaw}
    (refused : Reader.bound digits = .error flaw) : Uncountable digits := by
  unfold Reader.bound at refused
  split at refused
  · cases refused
  split at refused
  · next long => exact .inl long
  split at refused
  · next large => exact .inr large
  · cases refused

theorem leading_accepts (accepts : Char → Bool) (limit : Nat) (rest : List Symbol) :
    ∀ c ∈ leading accepts limit rest, accepts c = true := by
  induction rest generalizing limit with
  | nil => cases limit <;> simp [leading]
  | cons symbol others ih =>
      cases limit with
      | zero => simp [leading]
      | succ limit =>
          cases symbol with
          | escaped c => simp [leading]
          | plain c =>
              rw [leading]
              split
              · next accepted =>
                intro d member
                rcases List.mem_cons.mp member with rfl | later
                · exact accepted
                · exact ih limit d later
              · simp

/-- The leading characters stand at the start of the symbols. -/
theorem leading_append_drop (accepts : Char → Bool) (limit : Nat) (rest : List Symbol) :
    (leading accepts limit rest).map .plain ++ rest.drop (leading accepts limit rest).length =
      rest := by
  induction rest generalizing limit with
  | nil => cases limit <;> simp [leading]
  | cons symbol others ih =>
      cases limit with
      | zero => simp [leading]
      | succ limit =>
          cases symbol with
          | escaped c => simp [leading]
          | plain c =>
              rw [leading]
              split
              · simp [ih limit]
              · simp

/-- The characters of symbols. -/
def spelling (symbols : List Symbol) : Text :=
  symbols.flatMap Symbol.text

@[simp] theorem spelling_nil : spelling [] = [] := rfl

@[simp] theorem spelling_cons (symbol : Symbol) (rest : List Symbol) :
    spelling (symbol :: rest) = symbol.text ++ spelling rest := rfl

@[simp] theorem spelling_append (first second : List Symbol) :
    spelling (first ++ second) = spelling first ++ spelling second :=
  List.flatMap_append

@[simp] theorem spelling_plain (text : Text) : spelling (text.map .plain) = text := by
  induction text with
  | nil => rfl
  | cons c rest ih => exact congrArg (c :: ·) ih

theorem octalCode_onlyMalformed (first : Char) (rest : List Symbol) :
    OnlyMalformed (octalCode first rest) :=
  .ite (.ok _) .refused

theorem escapedCode_onlyMalformed [Unicode.Names] (c : Char) (rest : List Symbol) :
    OnlyMalformed (escapedCode c rest) := by
  have ofWidth (width : Nat) : OnlyMalformed (codeOfWidth width rest) := .ite (.ok _) .refused
  unfold escapedCode
  split
  · exact .ok _
  · exact .ite (ofWidth 2) (.ite (ofWidth 4) (.ite (ofWidth 8)
      (.ite (fun _ refused => namedCode_error refused) (.ite .refused (.ok _)))))

theorem escapedMember_onlyMalformed [Unicode.Names] (ascii : Bool) (c : Char) (rest : List Symbol) :
    OnlyMalformed (escapedMember ascii c rest) := by
  unfold escapedMember
  split
  · exact .ok _
  · exact .ite (.ok _) (.ite ((octalCode_onlyMalformed c rest).map _)
      ((escapedCode_onlyMalformed c rest).map _))

namespace Action

variable {flags : Flags} {rest : List Symbol} {flaw : Flaw}

theorem quantify_onlyMalformed (least : Nat) (most : Option Nat) (used : Nat)
    (rest : List Symbol) : OnlyMalformed (quantify least most used rest) :=
  .ite (.ok _) (.ite (.ok _) (.ok _))

theorem switches_onlyMalformed (flags : Flags) (rest : List Symbol) :
    OnlyMalformed (switches flags rest) := by
  have switched (on off : Text) (minus : Bool) (used : Nat) :
      OnlyMalformed (switched flags on off minus used rest) :=
    .ite .refused (.map (by exact .ite .refused (.ok _)) _)
  exact .ite (switched _ _ _ _) (switched _ _ _ _)

theorem labelled_onlyMalformed (mark : Char) (extra : Nat) (make : Text → Action)
    (symbols : List Symbol) : OnlyMalformed (labelled mark extra make symbols) := by
  unfold labelled
  split
  · exact .refused
  · exact .ok _

theorem opened_onlyMalformed (flags : Flags) (rest : List Symbol) :
    OnlyMalformed (opened flags rest) := by
  unfold opened
  split
  · unfold queried
    split
    case h_1 | h_2 | h_4 | h_10 => exact labelled_onlyMalformed _ _ _ _
    case h_11 => exact (switches_onlyMalformed flags _).map _
    all_goals exact .ok _
  · exact .ok _

theorem escaped_onlyMalformed [Unicode.Names] (flags : Flags) (c : Char) (rest : List Symbol) :
    OnlyMalformed (escaped flags c rest) := by
  have numbered : OnlyMalformed (numbered flags c rest) := by
    unfold Action.numbered
    split
    · exact .ite ((octalCode_onlyMalformed c rest).map _) (.ok _)
    · exact .ok _
    · exact .ok _
  unfold escaped
  split
  · exact .ok _
  · exact .ok _
  · exact .ite ((octalCode_onlyMalformed c rest).map _)
      (.ite numbered ((escapedCode_onlyMalformed c rest).map _))

theorem memberAt_onlyMalformed [Unicode.Names] (ascii : Bool) (symbol : Symbol)
    (rest : List Symbol) : OnlyMalformed (memberAt ascii symbol rest) := by
  cases symbol with
  | plain c => exact .ok _
  | escaped c => exact escapedMember_onlyMalformed ascii c rest

theorem member_onlyMalformed [Unicode.Names] (flags : Flags) (present : SetDraft) (symbol : Symbol)
    (rest : List Symbol) : OnlyMalformed (member flags present symbol rest) := by
  refine .ite (.ok _) (.bind (memberAt_onlyMalformed flags.ascii symbol rest) fun found => ?_)
  obtain ⟨low, used⟩ := found
  unfold afterMember
  dsimp only
  split
  · exact .refused
  · exact .ok _
  · refine .bind (memberAt_onlyMalformed flags.ascii _ _) fun found => ?_
    obtain ⟨high, usedHigh⟩ := found
    dsimp only
    split
    · exact .ite (.ok _) .refused
    · exact .refused
  · exact .ok _

/-- A number of rounds in braces is refused for a violation of the notation, or because a bound is
beyond what can be counted; and then the brace is closed. -/
theorem braced_refused {low high : Text} {used : Nat}
    (refused : braced flags low high used rest = .error flaw) :
    flaw = .malformed ∨
      nextIs '}' (rest.drop used) = true ∧ (Uncountable low ∨ Uncountable high) := by
  unfold braced at refused
  split at refused
  · cases refused
  next closed =>
    have isClosed : nextIs '}' (rest.drop used) = true := by
      simp only [Bool.or_eq_true, Bool.not_eq_true', not_or, Bool.not_eq_false] at closed
      exact closed.2
    cases lower : Reader.bound low with
    | error _ => exact .inr ⟨isClosed, .inl (uncountable_of_bound lower)⟩
    | ok least =>
        cases upper : Reader.bound high with
        | error _ => exact .inr ⟨isClosed, .inr (uncountable_of_bound upper)⟩
        | ok most =>
            rw [lower, upper] at refused
            left
            cases most with
            | none => exact quantify_onlyMalformed _ _ _ _ flaw refused
            | some limit =>
                exact OnlyMalformed.ite .refused (quantify_onlyMalformed _ _ _ _) flaw refused

/-- Symbols after an opening brace that ask for more rounds than can be counted. -/
def AsksRounds (rest : List Symbol) : Prop :=
  ∃ inner tail, rest = inner ++ tail ∧ UncountableBraces ('{' :: spelling inner)

theorem braces_refused (refused : braces flags rest = .error flaw) :
    flaw = .malformed ∨ AsksRounds rest := by
  have digits := leading_accepts isDecimal rest.length rest
  have whole := leading_append_drop isDecimal rest.length rest
  unfold braces at refused
  dsimp only at refused
  generalize leading isDecimal rest.length rest = low at refused digits whole
  split at refused
  next comma =>
    obtain ⟨others, found⟩ := exists_of_nextIs comma
    rw [found, List.drop_succ_cons, List.drop_zero] at refused
    have laterDigits := leading_accepts isDecimal rest.length others
    have laterWhole := leading_append_drop isDecimal rest.length others
    generalize leading isDecimal rest.length others = later at refused laterDigits laterWhole
    refine (braced_refused refused).imp_right ?_
    rintro ⟨closed, huge⟩
    rw [← List.drop_drop, found, Nat.add_comm, List.drop_succ_cons] at closed
    obtain ⟨tail, rest⟩ := exists_of_nextIs closed
    refine ⟨low.map .plain ++ .plain ',' :: (later.map .plain ++ [.plain '}']), tail, ?_,
      low, later, digits, laterDigits, huge, .inr ?_⟩
    · rw [← whole, found, ← laterWhole, rest]
      simp
    · simp [Symbol.text]
  next noComma =>
    refine (braced_refused refused).imp_right ?_
    rintro ⟨closed, huge⟩
    obtain ⟨tail, rest⟩ := exists_of_nextIs closed
    refine ⟨low.map .plain ++ [.plain '}'], tail, ?_, low, low, digits, digits, huge, .inl ?_⟩
    · rw [← whole, rest]
      simp
    · simp [Symbol.text]

theorem outside_refused [Unicode.Names] {symbol : Symbol}
    (refused : outside flags symbol rest = .error flaw) :
    flaw = .malformed ∨ symbol = .plain '{' ∧ AsksRounds rest := by
  cases symbol with
  | escaped c => exact .inl (escaped_onlyMalformed flags c rest flaw refused)
  | plain c =>
      by_cases brace : c = '{'
      · subst brace
        have decided : outside flags (.plain '{') rest = braces flags rest := by
          cases verbose : flags.verbose <;> simp [outside, verbose, Reader.isLayout]
        rw [decided] at refused
        exact (braces_refused refused).imp_right fun asks => ⟨rfl, asks⟩
      · left
        refine OnlyMalformed.ite (.ok _) (.ite (.ok _) (.ite (.ok _) (.ite (.ok _)
          (.ite (opened_onlyMalformed flags rest) (.ite (.ok _)
            (.ite (quantify_onlyMalformed _ _ _ _) (.ite (quantify_onlyMalformed _ _ _ _)
              (.ite (quantify_onlyMalformed _ _ _ _) ?_)))))))) flaw refused
        rw [if_neg brace]
        exact .ite (.ok _) (.ite (.ok _) (.ite (.ok _) (.ok _)))

/-- The decision about a symbol is refused for a violation of the notation, unless the symbol opens
braces that ask for more rounds than can be counted. -/
theorem ofSymbol_refused [Unicode.Names] {present : Option SetDraft} {symbol : Symbol}
    (refused : ofSymbol flags present symbol rest = .error flaw) :
    flaw = .malformed ∨ symbol = .plain '{' ∧ AsksRounds rest := by
  cases present with
  | none => exact outside_refused refused
  | some draft => exact .inl (member_onlyMalformed flags draft symbol rest flaw refused)

end Action

namespace Reader

variable (reader : Reader)

theorem referenceWidth_onlyMalformed (number : Nat) :
    OnlyMalformed (reader.referenceWidth number) := by
  unfold referenceWidth
  split
  · split
    · exact .ite (.ok _) .refused
    · exact .ok _
  · exact .refused

theorem refer_onlyMalformed (number : Nat) : OnlyMalformed (reader.refer number) :=
  .bind (reader.referenceWidth_onlyMalformed number) fun _ => .ok _

theorem enterChoice_onlyMalformed (label : Text) : OnlyMalformed (reader.enterChoice label) := by
  unfold enterChoice
  dsimp only
  split
  · exact .refused
  · exact .ite .refused
      (.ite (.bind (reader.referenceWidth_onlyMalformed _) fun _ => .ok _) (.ok _))

theorem turn_onlyMalformed : OnlyMalformed reader.turn := by
  unfold turn
  dsimp only
  split
  · exact .ok _
  · exact .refused
  · exact .ok _

theorem leave_onlyMalformed : OnlyMalformed reader.leave := by
  unfold leave
  split
  · exact .refused
  · dsimp only
    split
    · exact .refused
    all_goals exact .ok _

/-- An action is refused for a violation of the notation only. -/
theorem act_refused (action : Action) : OnlyMalformed (reader.act action) := by
  cases action with
  | skip | push _ | enter _ _ | enterCapture | enterBehind _ | goOn _ | finish _ => exact .ok _
  | rounds least most greed =>
      change OnlyMalformed (reader.repeatLast least most greed)
      unfold repeatLast
      split
      · exact .refused
      · exact .ite (.ok _) .refused
  | refer number => exact reader.refer_onlyMalformed number
  | referNamed name =>
      rw [act]
      split
      · exact .refused
      · exact reader.refer_onlyMalformed _
  | enterNamed name => exact .ite (.ok _) .refused
  | enterChoice label => exact reader.enterChoice_onlyMalformed label
  | turn => exact reader.turn_onlyMalformed
  | leave => exact reader.leave_onlyMalformed

variable {reader}

/-- Reading symbols is refused for a violation of the notation, or at an opening brace that asks for
more rounds than can be counted. -/
theorem run_refused [Unicode.Names] {used : Nat} {symbols : List Symbol} {flaw : Flaw}
    (refused : reader.run used symbols = .error flaw) :
    flaw = .malformed ∨ ∃ front rest, symbols = front ++ .plain '{' :: rest ∧
      Action.AsksRounds rest := by
  induction symbols generalizing reader used with
  | nil => cases used <;> cases refused
  | cons symbol rest ih =>
      have extend : (∃ front later, rest = front ++ .plain '{' :: later ∧
          Action.AsksRounds later) →
          ∃ front later, symbol :: rest = front ++ .plain '{' :: later ∧
            Action.AsksRounds later := by
        rintro ⟨front, later, rfl, asks⟩
        exact ⟨symbol :: front, later, rfl, asks⟩
      cases used with
      | succ used => exact (ih refused).imp_right extend
      | zero =>
          rw [run] at refused
          split at refused
          next stopped =>
            cases refused
            rw [step_eq_perform] at stopped
            cases decided : Action.ofSymbol reader.frame.flags reader.draft symbol rest with
            | error flaw =>
                rw [decided] at stopped
                cases stopped
                refine (Action.ofSymbol_refused decided).imp_right ?_
                rintro ⟨rfl, asks⟩
                exact ⟨[], rest, rfl, asks⟩
            | ok decision =>
                rw [decided] at stopped
                exact .inl ((act_refused reader decision.1).map _ _ stopped)
          next next count _ => exact (ih refused).imp_right extend

end Reader

end Signpost.Regex

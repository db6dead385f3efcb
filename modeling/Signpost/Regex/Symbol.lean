import Signpost.Text.Basic

/-!
# Symbols of the expression notation

A backslash and the character after it are one symbol; every other character is a symbol by
itself.  `Symbol.ofText` parts a text into its symbols and fails when a backslash ends it.  The
readers of this module look at the head of a list of symbols and never take one apart.
-/

namespace Signpost.Regex

/-- A unit of the notation. -/
inductive Symbol where
  /-- A character that stands alone. -/
  | plain (c : Char)
  /-- A character after a backslash. -/
  | escaped (c : Char)
  deriving DecidableEq, Repr

/-- The symbols of a text. -/
def Symbol.ofText : Text → Option (List Symbol)
  | [] => some []
  | '\\' :: [] => none
  | '\\' :: c :: rest => (ofText rest).map (escaped c :: ·)
  | c :: rest => (ofText rest).map (plain c :: ·)

/-- The characters of a symbol. -/
def Symbol.text : Symbol → Text
  | plain c => [c]
  | escaped c => ['\\', c]

/-- The leading plain characters with a property, up to a limit. -/
def leading (accepts : Char → Bool) : Nat → List Symbol → Text
  | limit + 1, .plain c :: rest => if accepts c then c :: leading accepts limit rest else []
  | _, _ => []

/-- The text up to a plain mark, and the number of symbols up to and including the mark. -/
def textUntil (mark : Char) : List Symbol → Option (Text × Nat)
  | [] => none
  | symbol :: rest =>
      if symbol = .plain mark then some ([], 1)
      else (textUntil mark rest).map fun (text, count) => (symbol.text ++ text, count + 1)

theorem textUntil_cons_of_ne {mark : Char} {symbol : Symbol} (apart : symbol ≠ .plain mark)
    (rest : List Symbol) :
    textUntil mark (symbol :: rest) =
      (textUntil mark rest).map fun (text, count) => (symbol.text ++ text, count + 1) := by
  rw [textUntil, if_neg apart]

/-- A text without the mark is read up to the mark. -/
theorem textUntil_plain {mark : Char} {text : Text} (free : ∀ c ∈ text, c ≠ mark)
    (rest : List Symbol) :
    textUntil mark (text.map .plain ++ .plain mark :: rest) = some (text, text.length + 1) := by
  induction text with
  | nil => simp [textUntil]
  | cons c others ih =>
      have other : c ≠ mark := free c List.mem_cons_self
      have later := ih fun d inside => free d (List.mem_cons_of_mem _ inside)
      simp [textUntil, other, later, Symbol.text]

/-- A text that is read up to the mark and has no backslash stands there as it is. -/
theorem exists_of_textUntil {mark : Char} {symbols : List Symbol} {text : Text} {used : Nat}
    (found : textUntil mark symbols = some (text, used)) (single : '\\' ∉ text) :
    ∃ rest, symbols = text.map .plain ++ .plain mark :: rest ∧ used = text.length + 1 := by
  induction symbols generalizing text used with
  | nil => cases found
  | cons symbol others ih =>
      by_cases here : symbol = .plain mark
      · rw [textUntil, if_pos here] at found
        cases found
        exact ⟨others, by rw [here]; rfl, rfl⟩
      · rw [textUntil_cons_of_ne here] at found
        obtain ⟨⟨later, count⟩, read, same⟩ := Option.map_eq_some_iff.mp found
        cases same
        cases symbol with
        | escaped c => exact absurd List.mem_cons_self single
        | plain c =>
            obtain ⟨rest, rfl, rfl⟩ := ih read fun inside => single (List.mem_cons_of_mem _ inside)
            exact ⟨rest, rfl, rfl⟩

/-- The number of symbols of the current line, its line feed included. -/
def lineLength : List Symbol → Nat
  | [] => 0
  | symbol :: rest => if symbol = .plain '\n' then 1 else lineLength rest + 1

/-- Whether the next symbol is the given plain character. -/
def nextIs (c : Char) (symbols : List Symbol) : Bool :=
  symbols.head? == some (.plain c)

end Signpost.Regex

import Signpost.Pattern.Source
import Signpost.Proofs.Text.Parting

/-!
# The built-in types

The six types that every router knows, each with its key, its fragment and the characters that its
values consist of.  `BuiltinType.values` lists the values that can be taken at the start of a text,
in order of preference: the type `*` tries the shortest one first, and all others take only the
longest one.
-/

namespace Signpost

/-- A type that every router knows. -/
inductive BuiltinType where
  /-- ASCII digits. -/
  | digits
  /-- ASCII letters and digits. -/
  | alphanumeric
  /-- ASCII hexadecimal digits. -/
  | hexadecimal
  /-- Anything within a line, as short as possible. -/
  | shortest
  /-- Anything within a line, as long as possible. -/
  | longest
  /-- Anything without a slash or a point. -/
  | segment
  deriving DecidableEq, Repr

namespace BuiltinType

/-- The key of a type. -/
def key : BuiltinType → Text
  | digits => ['i']
  | alphanumeric => ['a']
  | hexadecimal => ['h']
  | shortest => ['*']
  | longest => ['*', '*']
  | segment => []

/-- The fragment of a type. -/
def fragment : BuiltinType → Text
  | digits => "[0-9]++".toList
  | alphanumeric => "[0-9A-Za-z]++".toList
  | hexadecimal => "[0-9A-Fa-f]++".toList
  | shortest => ".+?".toList
  | longest => ".++".toList
  | segment => "[^/\\.]++".toList

/-- The type with a key. -/
def ofKey? (key : Text) : Option BuiltinType :=
  [digits, alphanumeric, hexadecimal, shortest, longest, segment].find? fun type => type.key == key

/-- Whether a value of a type may hold a character. -/
def accepts : BuiltinType → Char → Bool
  | digits, c => c.isDigit
  | alphanumeric, c => c.isAlphanum
  | hexadecimal, c => c.isDigit || ('A' ≤ c && c ≤ 'F') || ('a' ≤ c && c ≤ 'f')
  | shortest, c | longest, c => c != '\n'
  | segment, c => c != '/' && c != '.'

/-- The values at the start of a text with what follows them, in order of preference. -/
def values : BuiltinType → Text → List (Text × Text)
  | shortest, text => Text.splits shortest.accepts text
  | type, text =>
      if (text.takeWhile type.accepts).isEmpty then []
      else [(text.takeWhile type.accepts, text.dropWhile type.accepts)]

theorem ofKey?_key (type : BuiltinType) : ofKey? type.key = some type := by
  cases type <;> rfl

theorem key_of_ofKey? {key : Text} {type : BuiltinType} (found : ofKey? key = some type) :
    type.key = key := by
  have same := List.find?_some found
  exact beq_iff_eq.mp same

theorem fragment?_key (type : BuiltinType) :
    MatchTypes.builtin.fragment? type.key = some type.fragment := by
  cases type <;> rfl

/-- A value stands at the start of the text and is a non-empty run of accepted characters. -/
theorem mem_values {type : BuiltinType} {text value left : Text}
    (member : (value, left) ∈ type.values text) :
    text = value ++ left ∧ value ≠ [] ∧ ∀ c ∈ value, type.accepts c := by
  have run : (value, left) ∈ (if (text.takeWhile type.accepts).isEmpty then []
      else [(text.takeWhile type.accepts, text.dropWhile type.accepts)]) →
      text = value ++ left ∧ value ≠ [] ∧ ∀ c ∈ value, type.accepts c := by
    intro only
    by_cases none : (text.takeWhile type.accepts).isEmpty
    · simp [none] at only
    · simp only [none, Bool.false_eq_true, ↓reduceIte, List.mem_singleton, Prod.mk.injEq] at only
      obtain ⟨rfl, rfl⟩ := only
      refine ⟨List.takeWhile_append_dropWhile.symm, ?_, fun c inside => ?_⟩
      · simpa using none
      · exact List.all_eq_true.mp List.all_takeWhile c inside
  cases type with
  | shortest => exact Text.mem_splits member
  | digits | alphanumeric | hexadecimal | longest | segment => exact run member

/-- A value that something stops is the only one that can be taken, unless the shortest is. -/
theorem values_append_of_stop {type : BuiltinType} (possessive : type ≠ .shortest)
    {value rest : Text} (present : value ≠ []) (accepted : ∀ c ∈ value, type.accepts c = true)
    (stop : ∀ c ∈ rest.head?, type.accepts c = false) :
    type.values (value ++ rest) = [(value, rest)] := by
  obtain ⟨taken, left⟩ := Text.takeWhile_append_of_stop accepted stop
  have notEmpty : value.isEmpty = false := by simpa using present
  cases type with
  | shortest => exact absurd rfl possessive
  | digits | alphanumeric | hexadecimal | longest | segment =>
      simp only [values, taken, left, notEmpty, Bool.false_eq_true, ↓reduceIte]

/-- What follows a value does not go on with it, unless the value may be any of several. -/
theorem stop_of_mem_values {type : BuiltinType} (possessive : type ≠ .shortest)
    {text value rest : Text} (member : (value, rest) ∈ type.values text) :
    ∀ c ∈ rest.head?, type.accepts c = false := by
  have only : (value, rest) ∈ (if (text.takeWhile type.accepts).isEmpty then []
      else [(text.takeWhile type.accepts, text.dropWhile type.accepts)]) := by
    cases type with
    | shortest => exact absurd rfl possessive
    | digits | alphanumeric | hexadecimal | longest | segment => exact member
  split at only
  · cases only
  · obtain ⟨_, rfl⟩ := Prod.mk.inj (List.mem_singleton.mp only)
    intro c first
    have refused := List.head?_dropWhile_not type.accepts text
    rw [Option.mem_def.mp first] at refused
    simpa using refused

end BuiltinType

end Signpost

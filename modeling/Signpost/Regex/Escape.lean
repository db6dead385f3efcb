import Signpost.Regex.Symbol
import Signpost.Regex.CharSet
import Signpost.Unicode.Names

/-!
# Escaped characters

What a backslash and a character stand for, together with the digits or the name that may follow: a
control character, a character given by its code or by its name, a family of characters, or the
character itself if it is no letter or digit.  Each reader also says how many of the following
symbols it has used.
-/

namespace Signpost.Regex

/-- Why a text is no regular expression. -/
inductive Flaw where
  /-- The notation is violated. -/
  | malformed
  /-- A number of rounds is beyond what can be counted. -/
  | countTooLarge
  /-- A number of rounds has more digits than a numeral may have. -/
  | countTooLong
  deriving DecidableEq, Repr

/-- The digits 0 to 7. -/
def isOctal (c : Char) : Bool :=
  '0' ≤ c && c ≤ '7'

/-- The digits 0 to 9. -/
def isDecimal (c : Char) : Bool :=
  '0' ≤ c && c ≤ '9'

/-- The digits to base sixteen. -/
def isHexadecimal (c : Char) : Bool :=
  isDecimal c || ('a' ≤ c && c ≤ 'f') || ('A' ≤ c && c ≤ 'F')

/-- The letters A to Z in either case. -/
def isLetter (c : Char) : Bool :=
  ('a' ≤ c && c ≤ 'z') || ('A' ≤ c && c ≤ 'Z')

/-- The value of a digit to base sixteen. -/
def digitOf (c : Char) : Nat :=
  if isDecimal c then c.toNat - 0x30
  else if 'a' ≤ c then c.toNat - 0x57
  else c.toNat - 0x37

/-- The number with the given digits. -/
def numberOf (base : Nat) (digits : Text) : Nat :=
  digits.foldl (fun n c => n * base + digitOf c) 0

/-- The code of a control character that has a letter of its own, and of the backslash. -/
def controlCode : Char → Option Nat
  | 'a' => some 0x07
  | 'f' => some 0x0C
  | 'n' => some 0x0A
  | 'r' => some 0x0D
  | 't' => some 0x09
  | 'v' => some 0x0B
  | '\\' => some 0x5C
  | _ => none

/-- The family of characters that a letter stands for. -/
def familyOf (ascii : Bool) : Char → Option Member
  | 'd' => some (.family .digit ascii false)
  | 'D' => some (.family .digit ascii true)
  | 's' => some (.family .space ascii false)
  | 'S' => some (.family .space ascii true)
  | 'w' => some (.family .word ascii false)
  | 'W' => some (.family .word ascii true)
  | _ => none

/-- The code written with exactly so many digits to base sixteen. -/
def codeOfWidth (width : Nat) (rest : List Symbol) : Except Flaw (Nat × Nat) :=
  let digits := leading isHexadecimal width rest
  let code := numberOf 16 digits
  if digits.length = width && code ≤ 0x10FFFF then .ok (code, width) else .error .malformed

variable [Unicode.Names]

/-- The code of a character whose name is written in braces. -/
def namedCode : List Symbol → Except Flaw (Nat × Nat)
  | .plain '{' :: rest =>
      match textUntil '}' rest with
      | none => .error .malformed
      | some (name, used) =>
          if name.isEmpty then .error .malformed
          else match Unicode.Names.named? name with
            | none => .error .malformed
            | some c => .ok (c.toNat, used + 1)
  | _ => .error .malformed

/-- A name in braces. -/
def inBraces (name : Text) : List Symbol :=
  .plain '{' :: (name.map .plain ++ [.plain '}'])

/-- **What a name in braces stands for**: the reader takes the names of the database alone, as they
are spelled, and gives their characters. -/
theorem namedCode_eq_ok {symbols : List Symbol} {code used : Nat} :
    namedCode symbols = .ok (code, used) ↔
      ∃ name c rest, name ≠ [] ∧ Unicode.Names.named? name = some c ∧
        symbols = inBraces name ++ rest ∧ code = c.toNat ∧ used = (inBraces name).length := by
  constructor
  · intro read
    fun_cases namedCode symbols with
    | case4 rest name count found given c named =>
        obtain ⟨others, rfl, rfl⟩ := exists_of_textUntil found (Unicode.Names.not_mem named rfl)
        obtain ⟨rfl, rfl⟩ : c.toNat = code ∧ name.length + 1 + 1 = used := by
          simpa [namedCode, found, given, named] using read
        exact ⟨name, c, others, by simpa using given, named, by simp [inBraces], rfl,
          by simp [inBraces]⟩
    | _ => simp_all [namedCode]
  · rintro ⟨name, c, rest, given, named, rfl, rfl, rfl⟩
    have free : ∀ d ∈ name, d ≠ '}' := by
      rintro d inside rfl
      exact Unicode.Names.not_mem named rfl inside
    have found := textUntil_plain free rest
    simp [namedCode, inBraces, found, given, named]

theorem namedCode_error {symbols : List Symbol} {flaw : Flaw}
    (refused : namedCode symbols = .error flaw) : flaw = .malformed := by
  fun_cases namedCode symbols <;> simp_all [namedCode]

/-- The code that an escaped character stands for in any surroundings. -/
def escapedCode (c : Char) (rest : List Symbol) : Except Flaw (Nat × Nat) :=
  match controlCode c with
  | some code => .ok (code, 0)
  | none =>
      if c = 'x' then codeOfWidth 2 rest
      else if c = 'u' then codeOfWidth 4 rest
      else if c = 'U' then codeOfWidth 8 rest
      else if c = 'N' then namedCode rest
      else if isLetter c || isDecimal c then .error .malformed
      else .ok (c.toNat, 0)

/-- The code written with up to three digits to base eight, the first of which is given. -/
def octalCode (first : Char) (rest : List Symbol) : Except Flaw (Nat × Nat) :=
  let others := leading isOctal 2 rest
  let code := numberOf 8 (first :: others)
  if code ≤ 0xFF then .ok (code, others.length) else .error .malformed

/-- What an escaped character stands for inside square brackets. -/
def escapedMember (ascii : Bool) (c : Char) (rest : List Symbol) : Except Flaw (Member × Nat) :=
  match familyOf ascii c with
  | some member => .ok (member, 0)
  | none =>
      if c = 'b' then .ok (.one 0x08, 0)
      else if isOctal c then (octalCode c rest).map fun (code, used) => (.one code, used)
      else (escapedCode c rest).map fun (code, used) => (.one code, used)

end Signpost.Regex

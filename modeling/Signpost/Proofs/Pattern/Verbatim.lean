import Signpost.Proofs.Pattern.Anchoring
import Signpost.Proofs.Pattern.Rewriting
import Signpost.Proofs.Regex.Wrapping

/-!
# A route whose pattern is an expression

A pattern that is a regular expression itself is meant as it stands: its route matches a path just
when the expression matches all of the path, and has the parameters of that match.  The group and the
conditions around the body keep this promise for every body that is an expression
(`match?_of_read`).  The rewriting of group names keeps it for comments only
(`compileRaw_verbatim`): it also reaches into square brackets and behind a backslash, where it
changes what the expression matches.
-/

namespace Signpost

open Regex

/-- The texts of the named groups that took part in the preferred match of a whole text. -/
def Regex.Expression.fullCaptures? (expression : Expression) (text : Text) : Option Params :=
  (expression.regex.run atEnd (Place.startOf text)).map (report expression.names)

theorem captures?_wrapped (expression : Expression) (text : Text) :
    expression.wrapped.captures? text = expression.fullCaptures? text :=
  rfl

/-- A body that is an expression after the rewriting compiles, and its route matches what the
rewritten body matches as a whole.  No bar stands outside the group around the body. -/
theorem match?_of_read [Unicode.Names] {body : Text} {expression : Expression}
    (read : Regex.read (normalizeGroups body) = .ok expression) :
    ∃ compiled, compileRaw ('@' :: body) = .ok compiled ∧
      compiled.expression.names = expression.names ∧
      compiled.expression.regex.branches = [compiled.expression.regex] ∧
      ∀ path, compiled.match? path = expression.fullCaptures? path := by
  have wrapped : Regex.read (rawSource ('@' :: body)) = .ok expression.wrapped := read_wrapped read
  refine ⟨⟨'@' :: body, rawSource ('@' :: body), expression.wrapped⟩, ?_, rfl, rfl,
    captures?_wrapped expression⟩
  unfold compileRaw compileSource
  rw [wrapped]

/-- **A body that is an expression is used as it stands**, unless the rewriting of group names
changes it outside of comments: the pattern compiles, and its route matches a path just when the
expression matches the whole path, with the same parameters. -/
theorem compileRaw_verbatim [Unicode.Names] {body : Text} {expression : Expression}
    (accepted : Regex.read body = .ok expression) (unaltered : alteredText body = false) :
    ∃ compiled, compileRaw ('@' :: body) = .ok compiled ∧
      compiled.names = expression.names.map Prod.fst ∧
      ∀ path, compiled.match? path = expression.fullCaptures? path := by
  obtain ⟨compiled, compiles, names, _, answers⟩ :=
    match?_of_read (read_normalizeGroups accepted unaltered)
  exact ⟨compiled, compiles, congrArg (List.map Prod.fst) names, answers⟩

/-- In a comment, what looks like the name of a group does no harm, and a character can be called by
its name. -/
theorem compileRaw_verbatim_comment :
    let body : Text := "\\N{SOLIDUS}(?P<id>[0-9]+)(?# not (?<id>)(?<!0)".toList
    ∃ compiled, compileRaw ('@' :: body) = .ok compiled ∧
      compiled.match? "/12".toList = some [("id".toList, "12".toList)] ∧
      compiled.match? "/120".toList = none := by
  intro body
  have meant : (Regex.read body).map (fun expression =>
      ["/12".toList, "/120".toList].map expression.fullCaptures?) =
        .ok [some [("id".toList, "12".toList)], none] := by
    decide +kernel
  obtain ⟨expression, accepted, captures⟩ := map_eq_ok meant
  obtain ⟨compiled, compiles, _, answers⟩ := compileRaw_verbatim accepted (by decide +kernel)
  simp only [List.map_cons, List.map_nil, List.cons.injEq, and_true, ← answers] at captures
  exact ⟨compiled, compiles, captures⟩

/-- Behind a backslash the rewriting changes what the expression matches. -/
theorem compileRaw_verbatim_escaped :
    ∃ expression compiled, Regex.read "/\\(?<x>".toList = .ok expression ∧
      expression.fullCaptures? "/<x>".toList = some [] ∧
      expression.fullCaptures? "/P<x>".toList = none ∧
      compileRaw "@/\\(?<x>".toList = .ok compiled ∧
      compiled.match? "/<x>".toList = none ∧ compiled.match? "/P<x>".toList = some [] := by
  have meant : (Regex.read "/\\(?<x>".toList).map (fun expression =>
      ["/<x>".toList, "/P<x>".toList].map expression.fullCaptures?) = .ok [some [], none] := by
    decide +kernel
  have answered : (compileRaw "@/\\(?<x>".toList).map (fun compiled =>
      ["/<x>".toList, "/P<x>".toList].map compiled.match?) = .ok [none, some []] := by
    decide +kernel
  obtain ⟨expression, accepted, captures⟩ := map_eq_ok meant
  obtain ⟨compiled, compiles, answers⟩ := map_eq_ok answered
  simp only [List.map_cons, List.map_nil, List.cons.injEq, and_true] at captures answers
  exact ⟨expression, compiled, accepted, captures.1, captures.2, compiles, answers⟩

end Signpost

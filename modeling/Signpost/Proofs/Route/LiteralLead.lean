import Signpost.Proofs.Pattern.Pasting
import Signpost.Proofs.Route.Literal

/-!
# The literal lead of a pattern

Before its regular expression is tried, a path can be ruled out by the literal text before the first
bracket of the pattern.  This changes no answer (`match?_eq_none_of_leadRejects`): the expression
starts with that text, apart from a separator at its end that may belong to an absent segment, and
no fragment after the bracket can reach back into it.
-/

namespace Signpost

open Regex

/-- Before the first block stands the separator of the block. -/
theorem literalLead_block {text : Text} (free : '[' ∉ text) (p : Placeholder) (rest : Text) :
    literalLead (text ++ (p.block ++ rest)) = text ++ Separator.textOf p.lead := by
  have atBlock : Text.before '[' (p.block ++ rest) = Separator.textOf p.lead := by
    rw [Placeholder.block_eq]
    rcases p.lead with _ | _ | _ <;> rfl
  rw [literalLead, Text.before_append free, atBlock]

/-- **A pattern with a bracket starts with its literal lead.** What comes first is literal text and
a placeholder.  The separator of the placeholder belongs to the literal lead, and if there is none,
the literal text does not end in a separator. -/
theorem tokens_lead {pattern : Text} {parts : List Token} (read : tokens pattern = .ok parts)
    (bracket : '[' ∈ pattern) :
    ∃ text p others, parts = literalOf text ++ .placeholder p :: others ∧
      literalLead pattern = text ++ Separator.textOf p.lead ∧
      (p.lead = none → ∀ c ∈ text.getLast?, Separator.ofChar? c = none) := by
  obtain ⟨rfl, canonical⟩ := Token.tokens_eq_ok_iff.mp read
  match parts with
  | [] => cases bracket
  | .placeholder p :: others =>
      exact ⟨[], p, others, rfl, literalLead_block List.not_mem_nil p _, nofun⟩
  | .literal text :: after =>
      obtain ⟨⟨nonempty, free, alone, last⟩, _⟩ := canonical
      match after with
      | [] => exact absurd (List.append_nil text ▸ bracket) free
      | .literal other :: _ => exact absurd rfl (alone other)
      | .placeholder p :: others =>
          refine ⟨text, p, others, ?_, literalLead_block free p _, last p rfl⟩
          rw [literalOf, if_neg (by simpa using nonempty)]
          rfl

/-- An expression whose source starts with literal text starts with the pieces of that text. -/
theorem regex_of_literal [Unicode.Names] {text body : Text} {symbols : List Symbol}
    {expression : Expression} (split : Symbol.ofText body = some symbols)
    (settled : Settled symbols) (adds : OnlyAdds symbols)
    (read : Regex.read ("\\A".toList ++ (escapeText text ++ body) ++ "\\Z".toList) =
      .ok expression) :
    ∃ more, expression.regex =
      (Regex.sequence (more ++ (text.map .ofChar).reverse ++ [.ofAnchor .start])).regex := by
  let anchored : Reader := Reader.start.push (.ofAnchor .start)
  have front : Symbol.ofText "\\A".toList = some [.escaped 'A'] := rfl
  have back : Symbol.ofText "\\Z".toList = some [.escaped 'Z'] := rfl
  have whole := Symbol.ofText_concat
    (Symbol.ofText_concat front (Symbol.ofText_concat (ofText_escapeText text) split)) back
  obtain ⟨_, final, parted, ran, _, rfl⟩ := read_eq_ok.mp read
  obtain rfl := Option.some.inj (whole.symm.trans parted)
  have after : Settled [Symbol.escaped 'Z'] := ⟨rfl, rfl⟩
  have literal := reads_text anchored rfl rfl text (symbols ++ [.escaped 'Z'])
    (settled.append after)
  have started : Reader.start.run 0 ([.escaped 'A'] ++ (text.map literalSymbol ++ symbols) ++
      [.escaped 'Z']) = (anchored.pushAll (text.map .ofChar)).run 0 (symbols ++ [.escaped 'Z']) := by
    rw [← literal, List.append_assoc, List.append_assoc]
    exact Reader.run_step_alone rfl
  rw [started] at ran
  obtain ⟨next, ran, outside, _, more, frame⟩ := adds rfl rfl after ran
  have stepped : next.step (.escaped 'Z') [] = .ok (next.push (.ofAnchor .finish), 0) := by
    simp [Reader.step, outside, Reader.outside, Reader.escaped, Reader.anchorOf]
  rw [Reader.run_step_alone stepped] at ran
  cases ran
  refine ⟨.ofAnchor .finish :: more, ?_⟩
  simp [Reader.push, Frame.push, frame, Reader.pushAll, anchored, Reader.start, Frame.body,
    alternatives]

/-- An expression that starts with the pieces of a text matches only what starts with the text. -/
theorem prefix_of_firstMatch {text path : Text} {more : List Piece} {final : Place}
    (matched : firstMatch
      (Regex.sequence (more ++ (text.map .ofChar).reverse ++ [.ofAnchor .start])).regex path =
        some final) : text <+: path := by
  rw [firstMatch, run_sequence] at matched
  simp only [List.reverse_append, List.reverse_reverse, List.reverse_cons, List.reverse_nil,
    List.nil_append, runPieces_append, runPieces_cons, runPieces_nil] at matched
  change runPieces (text.map .ofChar) _ (Place.startOf path) = some final at matched
  rw [runPieces_text] at matched
  obtain ⟨rest, found, _⟩ := Option.bind_eq_some_iff.mp matched
  exact ⟨rest, (dropPrefix?_eq_some.mp found).symm⟩

/-- A path that is ruled out does not start with the literal text, even without the separator. -/
theorem not_prefix_of_leadRejects {text path lead : Text} {separator : Option Separator}
    (whole : lead = text ++ Separator.textOf separator)
    (last : separator = none → ∀ c ∈ text.getLast?, Separator.ofChar? c = none)
    (rejected : leadRejects lead path = true) : ¬ text <+: path := by
  intro starts
  unfold leadRejects at rejected
  split at rejected
  · cases rejected
  next notPrefix =>
    cases separator with
    | none =>
        obtain rfl : lead = text := whole.trans (List.append_nil text)
        exact notPrefix (List.isPrefixOf_iff_prefix.mpr starts)
    | some separator =>
        have isSeparator : Separator.ofChar? separator.char = some separator :=
          Separator.ofChar?_eq_some.mpr rfl
        have dropped : lead.dropLast = text := by
          rw [whole, Separator.textOf, List.dropLast_concat]
        have final : lead.getLast? = some separator.char := by
          rw [whole, Separator.textOf, List.getLast?_concat]
        rw [final, dropped, Option.bind_some, isSeparator] at rejected
        simp only [Option.isSome_some, ↓reduceIte, Bool.not_eq_true'] at rejected
        rw [List.isPrefixOf_iff_prefix.mpr starts] at rejected
        cases rejected

section

variable [Unicode.Names]

/-- Ruling a path out by the literal lead changes no answer of the compiled pattern. -/
theorem match?_eq_none_of_leadRejects {resolver : Resolver} {pattern path : Text}
    {parts : List Token} {compiled : CompiledPattern} (bracket : hasPlaceholders pattern = true)
    (read : tokens pattern = .ok parts)
    (compiles : compilePlaceholders resolver pattern = .ok compiled)
    (identifiers : ∀ name ∈ namesOf parts, Unicode.isIdentifier name = true)
    (fragments : ∀ p ∈ placeholdersOf parts, ∀ fragment,
      resolver.fragment? p.typeKey = some fragment → IsFragment fragment)
    (rejected : leadRejects (literalLead pattern) path = true) : compiled.match? path = none := by
  obtain ⟨others, body, readToo, rendered, expression⟩ := compilePlaceholders_eq_ok compiles
  obtain rfl := Except.ok.inj (read.symm.trans readToo)
  obtain ⟨text, p, later, rfl, lead, last⟩ :=
    tokens_lead read (List.contains_iff_mem.mp bracket)
  rw [render_literalOf] at rendered
  obtain ⟨source, done, rfl⟩ := map_eq_ok rendered
  rw [namesOf, placeholdersOf_literalOf, ← namesOf] at identifiers
  rw [placeholdersOf_literalOf] at fragments
  obtain ⟨symbols, split, settled, adds⟩ := onlyAdds_render done identifiers fragments
  obtain ⟨more, regex⟩ := regex_of_literal split settled adds expression
  have apart := not_prefix_of_leadRejects lead last rejected
  rw [CompiledPattern.match?, Expression.captures?, regex]
  cases matched : firstMatch
      (Regex.sequence (more ++ (text.map .ofChar).reverse ++ [.ofAnchor .start])).regex path with
  | none => rfl
  | some final => exact absurd (prefix_of_firstMatch matched) apart

/-- A pattern with a bracket, if it is no regular expression itself, is matched by the compiler
unless its literal lead rules the path out. -/
theorem matchPattern?_of_bracket {pattern : Text} (notRaw : isRaw pattern = false)
    (bracket : hasPlaceholders pattern = true) (path : Text) (compiler : Compiler) :
    matchPattern? pattern path compiler =
      if leadRejects (literalLead pattern) path then (.ok none, compiler)
      else compiler.match? pattern path := by
  have notAll : pattern ≠ catchAll := by
    rintro rfl
    exact absurd bracket (by decide)
  rw [matchPattern?, if_neg notAll, notRaw, bracket]
  rfl

/-- A pattern with a bracket is matched as its compiled form, whatever the compiler has kept. -/
theorem matchPattern?_of_compiled {pattern : Text} {parts : List Token} {compiled : CompiledPattern}
    {compiler : Compiler} (coherent : compiler.Coherent) (notRaw : isRaw pattern = false)
    (bracket : hasPlaceholders pattern = true) (read : tokens pattern = .ok parts)
    (compiles : compilePlaceholders compiler.resolver pattern = .ok compiled)
    (identifiers : ∀ name ∈ namesOf parts, Unicode.isIdentifier name = true)
    (fragments : ∀ p ∈ placeholdersOf parts, ∀ fragment,
      compiler.resolver.fragment? p.typeKey = some fragment → IsFragment fragment) (path : Text) :
    (compiler.match? pattern path).1 = .ok (compiled.match? path) ∧
      (matchPattern? pattern path compiler).1 = .ok (compiled.match? path) := by
  have answered : (compiler.match? pattern path).1 = .ok (compiled.match? path) := by
    rw [coherent.match?_fst, compilePattern, notRaw]
    simp only [Bool.false_eq_true, ↓reduceIte, compiles, Except.map]
  refine ⟨answered, ?_⟩
  rw [matchPattern?_of_bracket notRaw bracket]
  split
  · next rejected =>
    rw [match?_eq_none_of_leadRejects bracket read compiles identifiers fragments rejected]
  · exact answered

/-- **Trying the literal lead first changes no answer.** Take any table, and a pattern with a bracket
that is compiled, whose names are identifiers and whose types all stand for fragments that are
expressions by themselves.  A path that the literal lead rules out does not match what the pattern
is compiled to.  So a route with this pattern, for a method that it admits, answers just what the
compiled pattern answers, and what the compiler answers without looking at the literal lead. -/
theorem leadRejects_changes_no_answer (resolver : Resolver) (pattern : Text) (parts : List Token)
    (compiled : CompiledPattern) (notRaw : isRaw pattern = false)
    (bracket : hasPlaceholders pattern = true) (read : tokens pattern = .ok parts)
    (compiles : compilePlaceholders resolver pattern = .ok compiled)
    (identifiers : ∀ name ∈ namesOf parts, Unicode.isIdentifier name = true)
    (fragments : ∀ p ∈ placeholdersOf parts, ∀ fragment,
      resolver.fragment? p.typeKey = some fragment → IsFragment fragment) :
    (∀ path, leadRejects (literalLead pattern) path = true → compiled.match? path = none) ∧
      ∀ (τ : Type) (route : Route τ) (exact : Bool) (method path : Text) (compiler : Compiler),
        route.pattern = pattern → compiler.resolver = resolver → compiler.Coherent →
          admits exact route.methods method = true →
            (route.match? exact method path compiler).1 = .ok (compiled.match? path) ∧
              (compiler.match? pattern path).1 = .ok (compiled.match? path) := by
  refine ⟨fun path rejected =>
    match?_eq_none_of_leadRejects bracket read compiles identifiers fragments rejected, ?_⟩
  rintro τ route exact method path compiler rfl rfl coherent admitted
  obtain ⟨answered, matched⟩ :=
    matchPattern?_of_compiled coherent notRaw bracket read compiles identifiers fragments path
  refine ⟨?_, answered⟩
  rw [Route.match?, if_pos admitted]
  exact matched

end

/-- A table with a fragment of its own, which has alternatives, a group and characters called by their
names. -/
theorem leadRejects_changes_no_answer_alternatives :
    let resolver : Resolver :=
      ⟨MatchTypes.withExtra
        [("w".toList, some "(?:x|[\\N{DIGIT ONE}-\\N{DIGIT NINE}](z))+".toList)], true⟩
    ∃ compiled, compilePlaceholders resolver "/a.b/[w:word]?".toList = .ok compiled ∧
      compiled.match? "/a-b/x".toList = none := by
  intro resolver
  have succeeds : (compilePlaceholders resolver "/a.b/[w:word]?".toList).isOk = true := by
    decide +kernel
  cases compiles : compilePlaceholders resolver "/a.b/[w:word]?".toList with
  | error fault =>
      rw [compiles] at succeeds
      cases succeeds
  | ok compiled =>
      refine ⟨compiled, rfl, ?_⟩
      have fragments : ∀ p ∈ [Placeholder.mk (some .slash) none ['w'] (some "word".toList) true],
          ∀ fragment, resolver.fragment? p.typeKey = some fragment → IsFragment fragment := by
        intro p member fragment known
        obtain rfl := List.mem_singleton.mp member
        obtain rfl : "(?:x|[\\N{DIGIT ONE}-\\N{DIGIT NINE}](z))+".toList = fragment :=
          Option.some.inj known
        decide +kernel
      exact (leadRejects_changes_no_answer resolver _ [.literal "/a.b".toList, .placeholder _]
        compiled (by decide) (by decide) (by decide) compiles (by decide) fragments).1 _ (by decide)

end Signpost

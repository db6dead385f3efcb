import Signpost.Proofs.Pattern.Canonical
import Signpost.Proofs.Pattern.Compiler
import Signpost.Proofs.Pattern.Refinement
import Signpost.Route.Basic

/-!
# Patterns that are literal text

A pattern without an opening bracket is a single literal text, whichever characters it has.  Its
regular expression is the text with the special characters escaped, so the types have no part in it
(`compilePlaceholders_of_free`), and it matches the text and nothing else.  A route may therefore
compare such a pattern with the path and need not compile it (`literal_matches_itself_alone`).
-/

namespace Signpost

/-- Literal text before tokens, if there is any. -/
def literalOf (text : Text) : List Token :=
  if text.isEmpty then [] else [.literal text]

theorem placeholdersOf_literalOf (text : Text) (later : List Token) :
    placeholdersOf (literalOf text ++ later) = placeholdersOf later := by
  cases text <;> rfl

/-- A pattern without a bracket is literal text. -/
theorem tokens_of_free {pattern : Text} (free : '[' ∉ pattern) :
    tokens pattern = .ok (literalOf pattern) := by
  cases pattern with
  | nil => rfl
  | cons c rest =>
      exact Token.tokens_eq_ok_iff.mpr
        ⟨List.append_nil _, ⟨List.cons_ne_nil _ _, free, nofun, nofun⟩, trivial⟩

theorem render_literalOf (resolver : Resolver) (text : Text) (later : List Token) :
    resolver.render (literalOf text ++ later) =
      (resolver.render later).map (escapeText text ++ ·) := by
  cases text with
  | nil =>
      change resolver.render later = _
      cases resolver.render later <;> rfl
  | cons c rest => rfl

theorem matchTokens?_literalOf (text path : Text) :
    matchTokens? (literalOf text) path = if path = text then some [] else none := by
  cases text with
  | nil => cases path <;> rfl
  | cons c rest =>
      change (path.dropPrefix? (c :: rest)).bind (matchTokens? []) = _
      split
      next same =>
        have whole := dropPrefix?_append path []
        rw [List.append_nil] at whole
        rw [← same, whole]
        rfl
      next other =>
        cases found : path.dropPrefix? (c :: rest) with
        | none => rfl
        | some left =>
            have parted := dropPrefix?_eq_some.mp found
            cases left with
            | nil => exact absurd (parted.trans (List.append_nil _)) other
            | cons d more => rfl

section

variable [Unicode.Names]

/-- The source of literal text is the text with its special characters escaped, between two
anchors. -/
theorem compilePlaceholders_of_free {pattern : Text} (free : '[' ∉ pattern)
    (resolver : Resolver) :
    compilePlaceholders resolver pattern =
      compileSource pattern ("\\A".toList ++ escapeText pattern ++ "\\Z".toList) := by
  have rendered : resolver.render (literalOf pattern) = .ok (escapeText pattern) := by
    have written := render_literalOf resolver pattern []
    rw [List.append_nil] at written
    rw [written]
    exact congrArg Except.ok (List.append_nil _)
  rw [compilePlaceholders, sourceOf_of_render (tokens_of_free free) rendered]
  rfl

/-- Literal text is compiled, and matches itself alone. -/
theorem exists_compiled_of_free {pattern : Text} (free : '[' ∉ pattern) :
    ∃ compiled, (∀ resolver, compilePlaceholders resolver pattern = .ok compiled) ∧
      ∀ path, compiled.match? path = if path = pattern then some [] else none := by
  have none : placeholdersOf (literalOf pattern) = [] := by
    have alone := placeholdersOf_literalOf pattern []
    rwa [List.append_nil] at alone
  have unnamed : namesOf (literalOf pattern) = [] := by
    rw [namesOf, none]
    rfl
  -- There is no placeholder, so one table is as good as another.
  obtain ⟨compiled, written, answers⟩ :=
    @exists_compiled _ ⟨MatchTypes.builtin, true⟩ pattern _ (tokens_of_free free)
      (by simp [none]) (by simp [unnamed]) (by simp [unnamed])
  refine ⟨compiled, fun resolver => ?_, fun path => ?_⟩
  · rw [compilePlaceholders_of_free free, ← written, compilePlaceholders_of_free free]
  · rw [answers, matchTokens?_literalOf]

/-- A route compares literal text with the path, and does not ask the compiler. -/
theorem matchPattern?_of_free {pattern : Text} (free : '[' ∉ pattern) (special : pattern ≠ catchAll)
    (notRaw : isRaw pattern = false) (path : Text) (compiler : Compiler) :
    matchPattern? pattern path compiler =
      (.ok (if path = pattern then some [] else none), compiler) := by
  have bare : hasPlaceholders pattern = false := by
    simpa [hasPlaceholders] using free
  rw [matchPattern?, if_neg special, notRaw, bare]
  rfl

/-- **Literal text matches itself alone.** A pattern without an opening bracket is compiled to the
same form under every table, whether or not unknown types are refused, and this form matches the
pattern itself, without parameters, and no other path.  A route with such a pattern, unless it is
the one that matches everything or a regular expression itself, answers just that for every method
that its filter admits, without compiling anything, and so does a compiler that is asked for the
pattern. -/
theorem literal_matches_itself_alone {pattern : Text} (free : '[' ∉ pattern) :
    ∃ compiled, (∀ resolver, compilePlaceholders resolver pattern = .ok compiled) ∧
      (∀ path, compiled.match? path = if path = pattern then some [] else none) ∧
      (pattern ≠ catchAll → isRaw pattern = false →
        ∀ (τ : Type) (route : Route τ) (exact : Bool) (method path : Text) (compiler : Compiler),
          route.pattern = pattern → admits exact route.methods method = true →
            route.match? exact method path compiler = (.ok (compiled.match? path), compiler) ∧
              (compiler.Coherent →
                (compiler.match? pattern path).1 = .ok (compiled.match? path))) := by
  obtain ⟨compiled, written, answers⟩ := exists_compiled_of_free free
  refine ⟨compiled, written, answers, ?_⟩
  rintro special notRaw τ route exact method path compiler rfl admitted
  constructor
  · rw [Route.match?, if_pos admitted, matchPattern?_of_free free special notRaw, answers]
  · intro coherent
    rw [coherent.match?_fst, compilePattern, notRaw]
    simp only [Bool.false_eq_true, ↓reduceIte, written, Except.map]

end

/-- Characters that mean something in regular expressions, blanks and a line feed at the end. -/
theorem literal_matches_itself_alone_special :
    let pattern : Text := "/a.b|(c)*+?\x7b2\x7d^$\\ #~&-]\t\n".toList
    let route : Route Nat := ⟨"GET".toList, pattern, 1, none⟩
    ∃ compiled, compilePlaceholders ⟨[], false⟩ pattern = .ok compiled ∧
      compiled.match? pattern = some [] ∧ compiled.match? (pattern ++ ['\n']) = none ∧
      (route.match? true "get".toList pattern (Compiler.new [] true)).1 = .ok (some []) := by
  intro pattern route
  have free : '[' ∉ pattern := by decide
  obtain ⟨compiled, written, answers, routed⟩ := literal_matches_itself_alone free
  have matched : compiled.match? pattern = some [] := (answers pattern).trans (if_pos rfl)
  refine ⟨compiled, written _, matched, ?_, ?_⟩
  · exact (answers _).trans (if_neg (by decide))
  · rw [(routed (by decide) (by decide) Nat route true "get".toList pattern _ rfl
      (by decide)).1, matched]

end Signpost

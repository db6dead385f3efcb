import Mathlib.Data.List.Induction
import Mathlib.Data.List.Nodup
import Signpost.Proofs.Pattern.Pasting
import Signpost.Proofs.Pattern.Refinement

/-!
# The names of a compiled pattern

The names of the placeholders are pasted into the regular expression as they are.  As long as no
name has an angle bracket, which would end it there, the expression has just these names, and a
pattern is refused if they are not distinct identifiers (`names_of_compiled`).  With an angle
bracket, only the text before it becomes the name.
-/

namespace Signpost

open Regex

/-- Names that can be given side by side in one expression. -/
structure ProperNames (names : List Text) : Prop where
  identifiers : ∀ name ∈ names, Unicode.isIdentifier name = true
  distinct : names.Nodup

theorem namesOf_append (first second : List Token) :
    namesOf (first ++ second) = namesOf first ++ namesOf second := by
  simp [namesOf, placeholdersOf]

theorem placeholdersOf_append (first second : List Token) :
    placeholdersOf (first ++ second) = placeholdersOf first ++ placeholdersOf second := by
  simp [placeholdersOf]

/-- Where names are not proper, some placeholder is the first to have a bad one. -/
theorem exists_first_improper {parts : List Token} (improper : ¬ ProperNames (namesOf parts)) :
    ∃ front p others, parts = front ++ .placeholder p :: others ∧ ProperNames (namesOf front) ∧
      p.name ≠ [] ∧ (Unicode.isIdentifier p.name = true → p.name ∈ namesOf front) := by
  induction parts using List.reverseRecOn with
  | nil => exact absurd ⟨by simp, List.nodup_nil⟩ improper
  | append_singleton front token ih =>
      by_cases proper : ProperNames (namesOf front)
      · rw [namesOf_append] at improper
        cases token with
        | literal text => exact absurd (by simpa using proper) improper
        | placeholder p =>
            rw [namesOf_placeholder] at improper
            split at improper
            · exact absurd (by simpa using proper) improper
            next given =>
              refine ⟨front, p, [], rfl, proper, by simpa using given, fun identifier => ?_⟩
              by_contra fresh
              refine improper ⟨?_, proper.distinct.append (List.nodup_singleton _) ?_⟩
              · intro name member
                rcases List.mem_append.mp member with old | new
                · exact proper.identifiers name old
                · obtain rfl := List.mem_singleton.mp new
                  exact identifier
              · exact List.disjoint_singleton.mpr fresh
      · obtain ⟨earlier, p, others, rfl, rest⟩ := ih proper
        exact ⟨earlier, p, others ++ [token], by simp, rest⟩

theorem names_groupsOf (parts : List Token) (number : Nat) :
    (groupsOf number parts).map Prod.fst = namesOf parts := by
  induction parts generalizing number with
  | nil => rfl
  | cons token others ih =>
      cases token with
      | literal text => exact ih number
      | placeholder p =>
          rw [groupsOf, List.map_append, ih, Placeholder.names_numbered]

namespace Resolver

variable {resolver : Resolver}

/-- Tokens have a rendering if every type is known. -/
theorem exists_render {parts : List Token} : (∃ body, resolver.render parts = .ok body) ↔
    ∀ p ∈ placeholdersOf parts, (resolver.fragment? p.typeKey).isSome = true := by
  induction parts with
  | nil => simp [render]
  | cons token others ih =>
      cases token with
      | literal text =>
          rw [placeholdersOf_literal, ← ih, render]
          cases resolver.render others <;> simp [Except.map]
      | placeholder p =>
          rw [placeholdersOf_placeholder, List.forall_mem_cons, ← ih, render]
          cases resolver.fragment? p.typeKey with
          | none => simp
          | some fragment => cases resolver.render others <;> simp [Except.map]

theorem render_append {first second : List Token} {front back : Text}
    (one : resolver.render first = .ok front) (two : resolver.render second = .ok back) :
    resolver.render (first ++ second) = .ok (front ++ back) := by
  induction first generalizing front with
  | nil =>
      cases one
      exact two
  | cons token others ih =>
      cases token with
      | literal text =>
          obtain ⟨body, rendered, rfl⟩ := map_eq_ok one
          rw [List.cons_append, render, ih rendered, List.append_assoc]
          rfl
      | placeholder p =>
          rw [render] at one
          cases known : resolver.fragment? p.typeKey with
          | none =>
              rw [known] at one
              cases one
          | some fragment =>
              rw [known] at one
              obtain ⟨body, rendered, rfl⟩ := map_eq_ok one
              rw [List.cons_append, render, known, ih rendered, List.append_assoc]
              rfl

end Resolver

namespace Placeholder

/-- The source of a named placeholder opens its two groups, and its name follows. -/
theorem ofText_named {p : Placeholder} (given : p.name ≠ []) {fragment tail : Text}
    {symbols : List Symbol} (split : Symbol.ofText (p.source fragment ++ tail) = some symbols) :
    ∃ rest others, Symbol.ofText (p.name ++ '>' :: rest) = some others ∧
      symbols = [.plain '(', .plain '?', .plain ':'] ++ (p.separator.map literalSymbol ++
        ([.plain '(', .plain '?', .plain 'P', .plain '<'] ++ others)) := by
  let mark : Text := if p.optional then ['?'] else []
  let rest : Text := fragment ++ ([')'] ++ (mark ++ ([')'] ++ (mark ++ tail))))
  have whole : p.source fragment ++ tail =
      ("(?:".toList ++ escapeText p.separator ++ "(?P<".toList) ++ (p.name ++ '>' :: rest) := by
    have named : p.group fragment = "(?P<".toList ++ p.name ++ ['>'] ++ fragment ++ [')'] :=
      if_neg (by simpa using given)
    change "(?:".toList ++ escapeText p.separator ++ p.group fragment ++ mark ++ [')'] ++ mark ++
      tail = _
    rw [named]
    simp only [List.append_assoc]
    rfl
  have front : Symbol.ofText ("(?:".toList ++ escapeText p.separator ++ "(?P<".toList) =
      some ([.plain '(', .plain '?', .plain ':'] ++ p.separator.map literalSymbol ++
        [.plain '(', .plain '?', .plain 'P', .plain '<']) :=
    Symbol.ofText_concat (Symbol.ofText_concat rfl (ofText_escapeText _)) rfl
  rw [whole, Symbol.ofText_append front] at split
  obtain ⟨others, read, rfl⟩ := Option.map_eq_some_iff.mp split
  exact ⟨rest, others, read, by simp only [List.append_assoc]⟩

/-- A reader refuses a placeholder whose name is no fresh identifier. -/
theorem run_refused [Unicode.Names] {p : Placeholder} {reader : Reader}
    (outside : reader.draft = none) (plain : reader.frame.flags = {}) (free : '>' ∉ p.name)
    (taken : Unicode.isIdentifier p.name = true → p.name ∈ reader.names.map Prod.fst)
    {rest : Text} {symbols : List Symbol}
    (split : Symbol.ofText (p.name ++ '>' :: rest) = some symbols) :
    reader.run 0 ([.plain '(', .plain '?', .plain ':'] ++ (p.separator.map literalSymbol ++
      ([.plain '(', .plain '?', .plain 'P', .plain '<'] ++ symbols))) = .error .malformed := by
  have compact : reader.frame.flags.verbose = false := by rw [plain]
  have settled : Settled ([.plain '(', .plain '?', .plain 'P', .plain '<'] ++ symbols) :=
    settled_cons _ (by decide) (by decide)
  rw [run_separator outside plain settled]
  apply (p.enterPlain reader).run_named_refused outside compact
  intro label used found
  cases entered : (p.enterPlain reader).enterNamed label with
  | error flaw =>
      unfold Reader.enterNamed at entered
      split at entered <;> cases entered
      rfl
  | ok next =>
      obtain ⟨identifier, fresh, _⟩ := Reader.enterNamed_eq_ok.mp entered
      -- An identifier has no backslash, so the reader has seen the name as it is.
      rcases textUntil_ofText (by decide) split free found with rfl | backslash
      · obtain ⟨entry, member, same⟩ := List.mem_map.mp (taken identifier)
        have apart := List.lookup_eq_none_iff.mp fresh entry member
        simp [same] at apart
      · exact absurd rfl (identifier_free identifier '\\' backslash).1

end Placeholder

/-- A reader that has read the tokens before a bad name refuses the pattern. -/
theorem run_improper [Unicode.Names] {front : List Token} {p : Placeholder}
    (typed : ∀ q ∈ placeholdersOf front, ∃ type, q.type? = some type)
    (proper : ProperNames (namesOf front)) (given : p.name ≠ []) (free : '>' ∉ p.name)
    (taken : Unicode.isIdentifier p.name = true → p.name ∈ namesOf front) {fragment tail : Text}
    {symbols : List Symbol} (split : Symbol.ofText (p.source fragment ++ tail) = some symbols) :
    Reader.start.run 0 ([.escaped 'A'] ++ (symbolsOf front ++ symbols)) = .error .malformed := by
  let anchored : Reader := Reader.start.push (.ofAnchor .start)
  obtain ⟨rest, others, named, rfl⟩ := Placeholder.ofText_named given split
  obtain ⟨widths, reads⟩ :=
    reads_tokens anchored rfl rfl typed proper.identifiers proper.distinct
  let next : Reader := { anchored.pushAll (piecesOf anchored.nextNumber front) with
    widths := widths
    names := anchored.names ++ groupsOf anchored.nextNumber front }
  have same : next.names.map Prod.fst = namesOf front := names_groupsOf front 1
  have settled : Settled ([.plain '(', .plain '?', .plain ':'] ++ (p.separator.map literalSymbol ++
      ([.plain '(', .plain '?', .plain 'P', .plain '<'] ++ others))) :=
    settled_cons _ (by decide) (by decide)
  calc Reader.start.run 0 ([.escaped 'A'] ++ (symbolsOf front ++ _))
      = anchored.run 0 (symbolsOf front ++ _) := Reader.run_step_alone rfl
    _ = next.run 0 _ := reads _ settled
    _ = .error .malformed := Placeholder.run_refused rfl rfl free (same ▸ taken) named

/-- A pattern with improper names is refused, if no name has an angle bracket. -/
theorem compilePlaceholders_improper [Unicode.Names] {resolver : Resolver} {pattern : Text}
    {parts : List Token} (read : tokens pattern = .ok parts)
    (builtin : ∀ p ∈ placeholdersOf parts, resolver.KeepsBuiltin p)
    (free : ∀ name ∈ namesOf parts, '>' ∉ name) (improper : ¬ ProperNames (namesOf parts)) :
    compilePlaceholders resolver pattern = .error (.invalidPattern pattern .badRegex) := by
  obtain ⟨front, p, others, rfl, proper, given, taken⟩ := exists_first_improper improper
  rw [placeholdersOf_append, List.forall_mem_append] at builtin
  obtain ⟨builtinFront, builtinRest⟩ := builtin
  have typed : ∀ q ∈ placeholdersOf front, ∃ type, q.type? = some type := by
    intro q member
    obtain ⟨type, isType, _⟩ := builtinFront q member
    exact ⟨type, isType⟩
  have known : ∀ q ∈ placeholdersOf others, (resolver.fragment? q.typeKey).isSome = true := by
    intro q member
    obtain ⟨_, _, resolved⟩ := builtinRest q (List.mem_cons_of_mem p member)
    rw [resolved]
    rfl
  have plain : '>' ∉ p.name := by
    apply free
    rw [namesOf_append]
    exact List.mem_append_right _ (mem_namesOf_self given others)
  obtain ⟨type, _, fragment⟩ := builtinRest p List.mem_cons_self
  obtain ⟨body, rendered, symbols⟩ := Resolver.render_builtin builtinFront proper.identifiers
  obtain ⟨tail, renderedTail⟩ := Resolver.exists_render.mpr known
  have renderedRest : resolver.render (.placeholder p :: others) =
      .ok (p.source type.fragment ++ tail) := by
    rw [Resolver.render, fragment, renderedTail]
    rfl
  let whole : Text := "\\A".toList ++ (body ++ (p.source type.fragment ++ tail)) ++ "\\Z".toList
  have source : sourceOf resolver pattern = .ok whole :=
    sourceOf_of_render read (Resolver.render_append rendered renderedRest)
  have refused : Regex.read whole = .error .malformed := by
    have start : Symbol.ofText "\\A".toList = some [.escaped 'A'] := rfl
    have parted : whole = ("\\A".toList ++ body) ++
        (p.source type.fragment ++ (tail ++ "\\Z".toList)) := by
      simp only [whole, List.append_assoc]
    rw [Regex.read, parted, Symbol.ofText_append (Symbol.ofText_concat start symbols)]
    cases split : Symbol.ofText (p.source type.fragment ++ (tail ++ "\\Z".toList)) with
    | none => rfl
    | some later =>
        rw [Option.map_some]
        dsimp only
        rw [List.append_assoc, run_improper typed proper given plain taken split]
        rfl
  rw [compilePlaceholders, source]
  simp only [Except.bind, compileSource, refused, faultOf]

/-- The built-in table knows no key but those of the built-in types. -/
theorem Placeholder.isSome_type? {p : Placeholder}
    (known : ((Resolver.mk MatchTypes.builtin true).fragment? p.typeKey).isSome = true) :
    p.type?.isSome = true := by
  cases found : MatchTypes.builtin.lookup p.typeKey with
  | none =>
      rw [Resolver.fragment?, MatchTypes.fragment?, found] at known
      cases known
  | some fragment =>
      obtain ⟨front, back, whole, _⟩ := List.lookup_eq_some_iff.mp found
      have member : (p.typeKey, fragment) ∈ MatchTypes.builtin :=
        whole ▸ List.mem_append_right front List.mem_cons_self
      have keys : MatchTypes.builtin.map Prod.fst =
          [BuiltinType.digits, .alphanumeric, .hexadecimal, .shortest, .longest, .segment].map
            BuiltinType.key := rfl
      have key := List.mem_map_of_mem (f := Prod.fst) member
      rw [keys] at key
      obtain ⟨type, _, same⟩ := List.mem_map.mp key
      change type.key = p.typeKey at same
      rw [type?, ← same, BuiltinType.ofKey?_key]
      rfl

/-- **The names of a compiled pattern.** Take a pattern that has tokens, and the built-in types.

If it is compiled, then the placeholders have distinct identifiers as names, and the expression has
just these names in their order, exactly when no name has an angle bracket.  If no name has an angle
bracket and the types are known, then a pattern whose names are not distinct identifiers is refused
as malformed. -/
theorem names_of_compiled [Unicode.Names] (pattern : Text) (parts : List Token)
    (read : tokens pattern = .ok parts) :
    (∀ compiled, compilePlaceholders ⟨MatchTypes.builtin, true⟩ pattern = .ok compiled →
      (ProperNames (namesOf parts) ∧ compiled.names = namesOf parts ↔
        ∀ name ∈ namesOf parts, '>' ∉ name)) ∧
    ((∀ p ∈ placeholdersOf parts, p.type?.isSome = true) →
      (∀ name ∈ namesOf parts, '>' ∉ name) → ¬ ProperNames (namesOf parts) →
        compilePlaceholders ⟨MatchTypes.builtin, true⟩ pattern =
          .error (.invalidPattern pattern .badRegex)) := by
  refine ⟨fun compiled compiles => ⟨fun good name member bracket => ?_, fun free => ?_⟩,
    fun known free improper => ?_⟩
  · exact (identifier_free (good.1.identifiers name member) '>' bracket).2 rfl
  · obtain ⟨others, body, readToo, rendered, _⟩ := compilePlaceholders_eq_ok compiles
    obtain rfl := Except.ok.inj (read.symm.trans readToo)
    have builtin : ∀ p ∈ placeholdersOf parts,
        (Resolver.mk MatchTypes.builtin true).KeepsBuiltin p := by
      intro p member
      have known := Resolver.exists_render.mp ⟨body, rendered⟩ p member
      exact keepsBuiltin_builtin (Placeholder.isSome_type? known) true
    have proper : ProperNames (namesOf parts) := by
      by_contra improper
      rw [compilePlaceholders_improper read builtin free improper] at compiles
      cases compiles
    obtain ⟨source, form⟩ :=
      compilePlaceholders_builtin read builtin proper.identifiers proper.distinct
    rw [form] at compiles
    obtain rfl := Except.ok.inj compiles
    exact ⟨proper, names_groupsOf parts 1⟩
  · exact compilePlaceholders_improper read
      (fun p member => keepsBuiltin_builtin (known p member) true) free improper

/-- A hyphen in a name is refused, and identifiers are the names of the groups. -/
theorem names_of_compiled_hyphen :
    compilePlaceholders ⟨MatchTypes.builtin, true⟩ "/[i:id]/[a:bad-name]".toList =
        .error (.invalidPattern "/[i:id]/[a:bad-name]".toList .badRegex) ∧
      ∀ compiled, compilePlaceholders ⟨MatchTypes.builtin, true⟩ "/[i:id].[:tag]?".toList =
        .ok compiled → compiled.names = ["id".toList, "tag".toList] := by
  obtain ⟨_, refuses⟩ := names_of_compiled "/[i:id]/[a:bad-name]".toList
    [.placeholder ⟨some .slash, none, ['i'], some "id".toList, false⟩,
      .placeholder ⟨some .slash, none, ['a'], some "bad-name".toList, false⟩] (by decide)
  obtain ⟨names, _⟩ := names_of_compiled "/[i:id].[:tag]?".toList
    [.placeholder ⟨some .slash, none, ['i'], some "id".toList, false⟩,
      .placeholder ⟨some .point, none, [], some "tag".toList, true⟩] (by decide)
  constructor
  · refine refuses (by decide) (by decide) fun proper => ?_
    have identifier := proper.identifiers "bad-name".toList (by decide)
    exact absurd identifier (by decide)
  · intro compiled compiles
    exact ((names compiled compiles).mpr (by decide)).2

/-- An angle bracket ends a name, and what follows it goes to the fragment. -/
theorem names_of_compiled_angle_bracket :
    ∃ compiled, tokens "/[i:a>b]".toList =
        .ok [.placeholder ⟨some .slash, none, ['i'], some "a>b".toList, false⟩] ∧
      Unicode.isIdentifier "a>b".toList = false ∧
      compilePlaceholders ⟨MatchTypes.builtin, true⟩ "/[i:a>b]".toList = .ok compiled ∧
      compiled.names = ["a".toList] ∧
      compiled.match? "/b>5".toList = some [("a".toList, "b>5".toList)] := by
  have answered : (compilePlaceholders ⟨MatchTypes.builtin, true⟩ "/[i:a>b]".toList).map
      (fun compiled => (compiled.names, compiled.match? "/b>5".toList)) =
        .ok (["a".toList], some [("a".toList, "b>5".toList)]) := by
    decide +kernel
  obtain ⟨compiled, compiles, answer⟩ := map_eq_ok answered
  obtain ⟨names, matched⟩ := Prod.mk.inj answer
  exact ⟨compiled, by decide, by decide, compiles, names, matched⟩

end Signpost

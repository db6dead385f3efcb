import Signpost.Proofs.Pattern.Canonical
import Signpost.Proofs.Pattern.Omission

/-!
# Segments that are absent

A block for a segment that may be absent can be put into a pattern without losing anything.  A URL
stays the same as long as the segment has no value and is not the first one, since it leaves nothing
behind.  And a path that the pattern without the block accepts is still accepted: the tokens before
the block have the same choices as ever, the block can take nothing, and whether a path is accepted
depends on the choices there are and not on their order (`absent_segment_is_invisible`).  Where the
block is left out, literal texts on either side of it may grow together, which changes neither what
is filled in nor what is matched (`fillTokens_join`, `matchTokens?_join`).
-/

namespace Signpost

open Token

theorem placeholdersOf_foldr_prepend (text : Text) (parts : List Token) :
    placeholdersOf (text.foldr prepend parts) = placeholdersOf parts := by
  induction text with
  | nil => rfl
  | cons c others ih =>
      rw [List.foldr_cons, ← ih]
      match others.foldr prepend parts with
      | [] | .literal _ :: _ | .placeholder _ :: _ => rfl

theorem placeholdersOf_join (front back : List Token) :
    placeholdersOf (join front back) = placeholdersOf (front ++ back) := by
  induction front with
  | nil => rfl
  | cons token others ih =>
      cases token with
      | literal text => exact (placeholdersOf_foldr_prepend text _).trans ih
      | placeholder p => exact congrArg (p :: ·) ih

/-- Text before tokens is filled in as literal text. -/
theorem fillTokens_foldr_prepend (values : Text → Option Text) (isFirst : Bool) (text : Text)
    (parts : List Token) :
    fillTokens values isFirst (text.foldr prepend parts) =
      text ++ fillTokens values isFirst parts := by
  induction text with
  | nil => rfl
  | cons c others ih =>
      rw [List.foldr_cons, List.cons_append, ← ih]
      match others.foldr prepend parts with
      | [] | .literal _ :: _ | .placeholder _ :: _ => rfl

theorem fillTokens_join (values : Text → Option Text) (isFirst : Bool) (front back : List Token) :
    fillTokens values isFirst (join front back) = fillTokens values isFirst (front ++ back) := by
  induction front generalizing isFirst with
  | nil => rfl
  | cons token others ih =>
      cases token with
      | literal text =>
          rw [join_literal, fillTokens_foldr_prepend, ih, List.cons_append, fillTokens]
      | placeholder p => rw [join_placeholder, fillTokens, ih, List.cons_append, fillTokens]

theorem matchTokens?_prepend (c : Char) (parts : List Token) (path : Text) :
    matchTokens? (prepend c parts) path = matchTokens? (.literal [c] :: parts) path := by
  match parts with
  | [] | .placeholder _ :: _ => rfl
  | .literal text :: others =>
      cases path with
      | nil => rfl
      | cons d rest =>
          by_cases same : d = c <;> simp [prepend, matchTokens?, List.dropPrefix?, same]

/-- Text before tokens is matched as literal text. -/
theorem matchTokens?_foldr_prepend (text : Text) (parts : List Token) (path : Text) :
    matchTokens? (text.foldr prepend parts) path = matchTokens? (.literal text :: parts) path := by
  induction text generalizing path with
  | nil =>
      rw [matchTokens?]
      exact (congrArg (Option.bind · (matchTokens? parts)) (dropPrefix?_append [] path)).symm
  | cons c others ih =>
      rw [List.foldr_cons, matchTokens?_prepend]
      cases path with
      | nil => rfl
      | cons d rest =>
          by_cases same : d = c <;> simp [matchTokens?, List.dropPrefix?, same, ih]

theorem matchTokens?_join (front back : List Token) (path : Text) :
    matchTokens? (join front back) path = matchTokens? (front ++ back) path := by
  induction front generalizing path with
  | nil => rfl
  | cons token others ih =>
      have later : matchTokens? (join others back) = matchTokens? (others ++ back) := funext ih
      cases token with
      | literal text =>
          rw [join_literal, matchTokens?_foldr_prepend, matchTokens?, later, List.cons_append,
            matchTokens?]
      | placeholder p =>
          rw [join_placeholder, matchTokens?, later, List.cons_append, matchTokens?]

/-- A placeholder that may be absent can always take nothing. -/
theorem Placeholder.absent_mem_takings {p : Placeholder} (optional : p.optional = true)
    (text : Text) : ⟨none, text⟩ ∈ p.takings text := by
  simp [takings, optional]

/-- **Tokens accept more if those at their end do.** -/
theorem isSome_matchTokens?_append {back others : List Token}
    (wider : ∀ rest, (matchTokens? back rest).isSome = true →
      (matchTokens? others rest).isSome = true) {front : List Token} {path : Text}
    (matched : (matchTokens? (front ++ back) path).isSome = true) :
    (matchTokens? (front ++ others) path).isSome = true := by
  induction front generalizing path with
  | nil => exact wider path matched
  | cons token more ih =>
      obtain ⟨params, answered⟩ := Option.isSome_iff_exists.mp matched
      cases token with
      | literal text =>
          obtain ⟨rest, rfl, later⟩ := matchTokens?_literal.mp answered
          rw [List.cons_append, matchTokens?, dropPrefix?_append]
          exact ih (Option.isSome_of_eq_some later)
      | placeholder p =>
          obtain ⟨taking, member, _, later, _⟩ := matchTokens?_placeholder answered
          rw [List.cons_append, matchTokens?, List.findSome?_isSome_iff]
          refine ⟨taking, member, ?_⟩
          rw [Option.isSome_map]
          exact ih (Option.isSome_of_eq_some later)

/-- What tokens accept, they accept with a placeholder among them that may be absent. -/
theorem isSome_matchTokens?_of_absent {p : Placeholder} (optional : p.optional = true)
    {front back : List Token} {path : Text}
    (matched : (matchTokens? (front ++ back) path).isSome = true) :
    (matchTokens? (front ++ .placeholder p :: back) path).isSome = true := by
  apply isSome_matchTokens?_append _ matched
  intro rest accepted
  rw [matchTokens?, List.findSome?_isSome_iff]
  exact ⟨⟨none, rest⟩, p.absent_mem_takings optional rest, by rwa [Option.isSome_map]⟩

/-- A segment that may be absent, is not the first one and has no value leaves nothing in a URL. -/
theorem fillTokens_of_absent {p : Placeholder} (optional : p.optional = true)
    {values : Text → Option Text} (valueless : p.name = [] ∨ values p.name = none)
    {front : List Token} (later : placeholdersOf front ≠ []) (back : List Token) :
    fillTokens values true (front ++ .placeholder p :: back) =
      fillTokens values true (front ++ back) := by
  have notFirst : (true && (placeholdersOf front).isEmpty) = false := by simpa using later
  have nothing : p.fill values false = [] := by
    rw [Placeholder.fill_of_missing valueless, optional]
    rfl
  rw [fillTokens_append, fillTokens_append, notFirst, fillTokens, nothing, List.nil_append]

/-- **A segment that is absent is invisible.** Put the block of a segment that may be absent between
two patterns that have tokens, of which the first does not end in a separator and the second does
not begin with a question mark.  If there is a placeholder before it, and the segment has no name or
no value, then a URL is the same with the block and without it.  And under every table that leaves
the types of the placeholders as they are built in, if the names are distinct identifiers, then the
pattern with the block accepts every path that the pattern without it accepts. -/
theorem absent_segment_is_invisible [Unicode.Names] {before block after : Text}
    {front back : List Token} {p : Placeholder} (readBefore : tokens before = .ok front)
    (readBlock : tokens block = .ok [.placeholder p]) (readAfter : tokens after = .ok back)
    (optional : p.optional = true) (apart : ∀ c ∈ before.getLast?, Separator.ofChar? c = none)
    (unmarked : after.head? ≠ some '?') :
    let parts := front ++ .placeholder p :: back
    (placeholdersOf front ≠ [] → ∀ base values, p.name = [] ∨ values p.name = none →
      ∃ url, buildUrl base (before ++ block ++ after) values = .ok url ∧
        buildUrl base (before ++ after) values = .ok url) ∧
    ∀ resolver : Resolver, (∀ q ∈ placeholdersOf parts, resolver.KeepsBuiltin q) →
      (∀ name ∈ namesOf parts, Unicode.isIdentifier name = true) → (namesOf parts).Nodup →
        ∃ shorter longer, compilePlaceholders resolver (before ++ after) = .ok shorter ∧
          compilePlaceholders resolver (before ++ block ++ after) = .ok longer ∧
          ∀ path, (shorter.match? path).isSome = true → (longer.match? path).isSome = true := by
  intro parts
  obtain ⟨written, canonical⟩ := tokens_eq_ok_iff.mp readBlock
  obtain rfl : p.block = block := (List.append_nil _).symm.trans written
  have readWith : tokens (before ++ p.block ++ after) = .ok parts := by
    rw [List.append_assoc]
    exact tokens_around readBefore readAfter canonical.1.1 (fun _ => unmarked) fun _ => apart
  have readWithout : tokens (before ++ after) = .ok (join front back) :=
    tokens_append readBefore readAfter (fun _ => apart) unmarked
  constructor
  · intro later base values valueless
    refine ⟨base ++ fillTokens values true (front ++ back), ?_, ?_⟩
    · rw [buildUrl, tokensOrFault, readWith,
        ← fillTokens_of_absent optional valueless later back]
      rfl
    · rw [buildUrl, tokensOrFault, readWithout, ← fillTokens_join]
      rfl
  · intro resolver builtin identifiers distinct
    -- The placeholders that are left are some of those of the longer pattern.
    have fewer : (placeholdersOf (join front back)).Sublist (placeholdersOf parts) := by
      rw [placeholdersOf_join, placeholdersOf_append, placeholdersOf_append]
      exact (List.sublist_cons_self p _).append_left _
    have fewerNames : (namesOf (join front back)).Sublist (namesOf parts) :=
      (fewer.map Placeholder.name).filter _
    obtain ⟨longer, compiles, answers⟩ := exists_compiled readWith builtin identifiers distinct
    obtain ⟨shorter, compilesToo, answersToo⟩ :=
      exists_compiled readWithout (fun q member => builtin q (fewer.subset member))
        (fun name member => identifiers name (fewerNames.subset member))
        (distinct.sublist fewerNames)
    refine ⟨shorter, longer, compilesToo, compiles, ?_⟩
    intro path accepted
    rw [answersToo, matchTokens?_join] at accepted
    rw [answers]
    exact isSome_matchTokens?_of_absent optional accepted

/-- A segment between literal texts, after a wildcard that gives nothing back. -/
theorem absent_segment_is_invisible_between :
    (∃ url, buildUrl [] "/[a:user]/log[.:kind]s".toList
          (Params.value? [("user".toList, "kim".toList)]) = .ok url ∧
        buildUrl [] "/[a:user]/logs".toList
          (Params.value? [("user".toList, "kim".toList)]) = .ok url) ∧
      ∃ shorter longer,
        compilePlaceholders ⟨MatchTypes.builtin, true⟩ "/[a:user]/logs".toList = .ok shorter ∧
        compilePlaceholders ⟨MatchTypes.builtin, true⟩ "/[a:user]/log[.:kind]s".toList =
          .ok longer ∧
        ∀ path, (shorter.match? path).isSome = true → (longer.match? path).isSome = true := by
  have readBefore : tokens "/[a:user]/log".toList =
      .ok [.placeholder ⟨some .slash, none, ['a'], some "user".toList, false⟩,
        .literal "/log".toList] := by
    decide
  have readBlock : tokens "[.:kind]".toList =
      .ok [.placeholder ⟨none, some .point, [], some "kind".toList, false⟩] := by
    decide
  have readAfter : tokens ['s'] = .ok [.literal ['s']] := by decide
  obtain ⟨generated, matched⟩ := absent_segment_is_invisible readBefore readBlock readAfter
    (by decide) (by simp [Separator.ofChar?]) (by decide)
  refine ⟨generated (by simp) _ _ (.inr (by decide)), matched _ ?_ (by decide) (by decide)⟩
  intro q member
  apply keepsBuiltin_builtin
  revert q
  decide

end Signpost

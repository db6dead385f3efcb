import Signpost.Proofs.Pattern.Canonical
import Signpost.Proofs.Pattern.Omission

/-!
# Spellings of a segment that may be absent

The separator of a segment that may be absent can be written inside the bracket, with or without a
question mark after the bracket, or before the bracket with a question mark.  The three blocks are
read as different placeholders, but these stand for the same segment: what goes into the regular
expression of a pattern does not tell them apart (`Placeholder.SameSegment`).  What goes into a URL
does so only where the segment is the first of its pattern and has no value.  Since a block between
two patterns leaves the tokens around it alone, the spellings can be exchanged inside any pattern
(`spellings_are_interchangeable`).
-/

namespace Signpost

namespace Placeholder

/-- Two placeholders for a segment with the same type, name and separator, which both may be absent
or both have to be there. -/
structure SameSegment (p q : Placeholder) : Prop where
  typeKey : p.typeKey = q.typeKey
  name : p.name = q.name
  separator : p.separator = q.separator
  optional : p.optional = q.optional

namespace SameSegment

variable {p q : Placeholder} (same : p.SameSegment q)

include same

theorem source (fragment : Text) : p.source fragment = q.source fragment := by
  have grouped : p.group fragment = q.group fragment := by
    unfold Placeholder.group
    rw [same.name]
  unfold Placeholder.source
  rw [grouped, same.separator, same.optional]

/-- Of a segment that has a value, or that may be absent and is not the first one, the separators
are written together or not at all. -/
theorem fill {values : Text → Option Text} {isFirst : Bool}
    (settled : (p.name ≠ [] ∧ (values p.name).isSome = true) ∨
      (p.optional = true ∧ isFirst = false)) : p.fill values isFirst = q.fill values isFirst := by
  rcases settled with ⟨named, given⟩ | ⟨optional, later⟩
  · obtain ⟨value, given⟩ := Option.isSome_iff_exists.mp given
    have givenToo : values q.name = some value := same.name ▸ given
    have namedToo : q.name ≠ [] := same.name ▸ named
    rw [fill_of_value named given, fill_of_value namedToo givenToo, same.separator]
  · have optionalToo : q.optional = true := same.optional ▸ optional
    simp only [Placeholder.fill, same.name, same.separator, optional, optionalToo, later,
      Bool.not_false, Bool.and_self, ↓reduceIte]

/-- Nothing in the rendering of tokens tells the two placeholders apart. -/
theorem render (resolver : Resolver) (front back : List Token) :
    resolver.render (front ++ .placeholder p :: back) =
      resolver.render (front ++ .placeholder q :: back) := by
  induction front with
  | nil =>
      simp only [List.nil_append, Resolver.render, same.typeKey, same.source]
  | cons token others ih =>
      cases token with
      | literal text => rw [List.cons_append, List.cons_append, Resolver.render, ih, Resolver.render]
      | placeholder r => simp only [List.cons_append, Resolver.render, ih]

end SameSegment

end Placeholder

/-- Patterns that are compiled to the same regular expression, or are all refused for the same
reason. -/
def CompiledAlike [Unicode.Names] (resolver : Resolver) (patterns : List Text) : Prop :=
  (∃ source expression, ∀ pattern ∈ patterns,
    compilePlaceholders resolver pattern = .ok ⟨pattern, source, expression⟩) ∨
  (∃ key, ∀ pattern ∈ patterns,
    compilePlaceholders resolver pattern = .error (.unknownMatchType pattern key)) ∨
  ∃ flaw, ∀ pattern ∈ patterns,
    compilePlaceholders resolver pattern = .error (faultOf pattern flaw)

/-- What a pattern is compiled to depends on the rendering of its tokens alone. -/
theorem compiledAlike_of_render [Unicode.Names] {resolver : Resolver} {patterns : List Text}
    {outcome : Except Text Text} (rendered : ∀ pattern ∈ patterns, ∃ parts,
      tokens pattern = .ok parts ∧ resolver.render parts = outcome) :
    CompiledAlike resolver patterns := by
  cases outcome with
  | error key =>
      refine .inr (.inl ⟨key, fun pattern member => ?_⟩)
      obtain ⟨parts, read, refused⟩ := rendered pattern member
      rw [compilePlaceholders, sourceOf, tokensOrFault, read]
      change (((resolver.render parts).mapError _).bind _).bind _ = _
      rw [refused]
      rfl
  | ok body =>
      let source : Text := "\\A".toList ++ body ++ "\\Z".toList
      have compiled : ∀ pattern ∈ patterns,
          compilePlaceholders resolver pattern = compileSource pattern source := by
        intro pattern member
        obtain ⟨parts, read, written⟩ := rendered pattern member
        rw [compilePlaceholders, sourceOf_of_render read written]
        rfl
      cases denoted : Regex.read source with
      | error flaw =>
          refine .inr (.inr ⟨flaw, fun pattern member => ?_⟩)
          rw [compiled pattern member, compileSource, denoted]
      | ok expression =>
          refine .inl ⟨source, expression, fun pattern member => ?_⟩
          rw [compiled pattern member, compileSource, denoted]

/-- The blocks for a segment that may be absent. -/
def optionalBlocks (separator : Separator) (key name : Text) : List Text :=
  ['[' :: separator.char :: key ++ ':' :: name ++ [']'],
    '[' :: separator.char :: key ++ ':' :: name ++ [']', '?'],
    separator.char :: '[' :: key ++ ':' :: name ++ [']', '?']]

/-- Each of the blocks is read as a placeholder for the segment. -/
theorem exists_placeholder_of_optionalBlocks {separator : Separator} {key name block : Text}
    (isKey : Placeholder.IsKey key) (bare : ∀ c ∈ key.head?, Separator.ofChar? c = none)
    (isName : Placeholder.IsKey name) (member : block ∈ optionalBlocks separator key name) :
    ∃ p : Placeholder, p.block = block ∧ p.WellFormed ∧
      p.SameSegment ⟨some separator, none, key, some name, true⟩ := by
  have label : ∀ text ∈ some name, Placeholder.IsKey text := by
    intro text given
    rwa [← Option.some.inj given]
  simp only [optionalBlocks, List.mem_cons, List.not_mem_nil, or_false] at member
  rcases member with rfl | rfl | rfl
  · refine ⟨⟨none, some separator, key, some name, false⟩, ?_, ⟨isKey, label, ?_⟩,
      ⟨rfl, rfl, ?_, rfl⟩⟩
    · simp [Placeholder.block, Separator.textOf]
    · intro bare
      cases bare
    · simp [Placeholder.separator, Separator.textOf]
  · refine ⟨⟨none, some separator, key, some name, true⟩, ?_, ⟨isKey, label, ?_⟩,
      ⟨rfl, rfl, ?_, rfl⟩⟩
    · simp [Placeholder.block, Separator.textOf]
    · intro bare
      cases bare
    · simp [Placeholder.separator, Separator.textOf]
  · refine ⟨⟨some separator, none, key, some name, true⟩, ?_, ⟨isKey, label, fun _ => bare⟩,
      ⟨rfl, rfl, rfl, rfl⟩⟩
    simp [Placeholder.block, Separator.textOf]

/-- **The spellings of a segment that may be absent are interchangeable.** Put one of its blocks
between two patterns that have tokens, of which the first does not end in a separator and the second
does not begin with a question mark.  Under every table, and whether or not unknown types are
refused, it makes no difference to the regular expression, or to the reason for which there is none,
which of the blocks it is; nor does it make a difference to a URL, if the segment has a name and a
value or if there is a placeholder before it. -/
theorem spellings_are_interchangeable [Unicode.Names] {before after : Text}
    {front back : List Token} (separator : Separator) (key name : Text)
    (isKey : Placeholder.IsKey key)
    (bare : ∀ c ∈ key.head?, Separator.ofChar? c = none) (isName : Placeholder.IsKey name)
    (readBefore : tokens before = .ok front) (readAfter : tokens after = .ok back)
    (apart : ∀ c ∈ before.getLast?, Separator.ofChar? c = none)
    (unmarked : after.head? ≠ some '?') :
    let spellings := (optionalBlocks separator key name).map fun block => before ++ block ++ after
    (∀ resolver, CompiledAlike resolver spellings) ∧
      ∀ base values, (name ≠ [] ∧ (values name).isSome = true) ∨ placeholdersOf front ≠ [] →
        ∃ url, ∀ pattern ∈ spellings, buildUrl base pattern values = .ok url := by
  intro spellings
  let reference : Placeholder := ⟨some separator, none, key, some name, true⟩
  have read : ∀ pattern ∈ spellings, ∃ p : Placeholder, p.SameSegment reference ∧
      tokens pattern = .ok (front ++ .placeholder p :: back) := by
    intro pattern member
    obtain ⟨block, among, rfl⟩ := List.mem_map.mp member
    obtain ⟨p, rfl, wellFormed, same⟩ :=
      exists_placeholder_of_optionalBlocks isKey bare isName among
    refine ⟨p, same, ?_⟩
    rw [List.append_assoc]
    exact Token.tokens_around readBefore readAfter wellFormed (fun _ => unmarked) fun _ => apart
  constructor
  · intro resolver
    apply compiledAlike_of_render
    intro pattern member
    obtain ⟨p, same, parts⟩ := read pattern member
    exact ⟨_, parts, same.render resolver front back⟩
  · intro base values settled
    refine ⟨base ++ fillTokens values true (front ++ .placeholder reference :: back), ?_⟩
    intro pattern member
    obtain ⟨p, same, parts⟩ := read pattern member
    have filled : p.fill values (true && (placeholdersOf front).isEmpty) =
        reference.fill values (true && (placeholdersOf front).isEmpty) := by
      apply same.fill
      rw [same.name, same.optional]
      refine settled.imp id fun earlier => ⟨rfl, ?_⟩
      simpa using earlier
    rw [buildUrl, tokensOrFault, parts]
    simp only [Except.mapError, Except.map, fillTokens_append, fillTokens, filled]

/-- A segment between others, without a value. -/
theorem spellings_are_interchangeable_between :
    let spellings : List Text := ["/x[i:n]y[.:format][h]".toList, "/x[i:n]y[.:format]?[h]".toList,
      "/x[i:n]y.[:format]?[h]".toList]
    CompiledAlike ⟨MatchTypes.builtin, true⟩ spellings ∧
      ∃ url, ∀ pattern ∈ spellings,
        buildUrl "/app".toList pattern (Params.value? [(['n'], ['7'])]) = .ok url := by
  intro spellings
  have readBefore : tokens "/x[i:n]y".toList = .ok [.literal "/x".toList,
      .placeholder ⟨none, none, ['i'], some ['n'], false⟩, .literal ['y']] := by
    decide
  have readAfter : tokens "[h]".toList = .ok [.placeholder ⟨none, none, ['h'], none, false⟩] := by
    decide
  obtain ⟨alike, same⟩ := spellings_are_interchangeable .point [] "format".toList (by decide)
    (by simp) (by decide) readBefore readAfter (by simp [Separator.ofChar?]) (by decide)
  exact ⟨alike _, same _ _ (.inr (by simp))⟩

end Signpost

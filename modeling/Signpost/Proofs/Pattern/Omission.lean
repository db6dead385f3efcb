import Mathlib.Data.List.Chain
import Signpost.Proofs.Pattern.Filling
import Signpost.Proofs.Pattern.Names

/-!
# Filling in patterns with values left out

A pattern may end in placeholders that may be absent, and the values of the last of them may be
left out (`OptionalTail`).  Matching what is filled in then still gives the values back, with one
exception (`matchTokens?_of_omitted`): where not even the first placeholder of the pattern has a
value, its outer separator is filled in all the same, and it may be the separator of no segment
(`Stranded`).
-/

namespace Signpost

theorem fillTokens_append (values : Text → Option Text) (isFirst : Bool)
    (first second : List Token) :
    fillTokens values isFirst (first ++ second) = fillTokens values isFirst first ++
      fillTokens values (isFirst && (placeholdersOf first).isEmpty) second := by
  induction first generalizing isFirst with
  | nil => simp [fillTokens]
  | cons token others ih =>
      cases token with
      | literal text =>
          rw [List.cons_append, fillTokens, ih, fillTokens, List.append_assoc,
            placeholdersOf_literal]
      | placeholder p =>
          rw [List.cons_append, fillTokens, ih, fillTokens, List.append_assoc,
            placeholdersOf_placeholder, List.isEmpty_cons, Bool.and_false, Bool.false_and]

theorem placeholdersOf_map (used : List Placeholder) :
    placeholdersOf (used.map .placeholder) = used := by
  induction used with
  | nil => rfl
  | cons p others ih => rw [List.map_cons, placeholdersOf_placeholder, ih]

namespace Placeholder

/-- Without a value, only the outer separator is left of a segment, and that only at the first
placeholder or where the segment must be there. -/
theorem fill_of_missing {p : Placeholder} {values : Text → Option Text}
    (valueless : p.name = [] ∨ values p.name = none) (isFirst : Bool) :
    p.fill values isFirst = if p.optional && !isFirst then [] else Separator.textOf p.lead := by
  rcases valueless with unnamed | missing
  · simp [fill, unnamed]
  · simp [fill, missing]

theorem values_nil (p : Placeholder) : p.values [] = [] := by
  rw [List.eq_nil_iff_forall_not_mem]
  rintro ⟨value, rest⟩ member
  unfold values at member
  split at member
  · cases member
  · obtain ⟨whole, present, _⟩ := BuiltinType.mem_values member
    exact present (List.append_eq_nil_iff.mp whole.symm).1

variable {p : Placeholder}

/-- Where the separator does not follow, a placeholder that may be absent is absent. -/
theorem takings_of_not_prefix (optional : p.optional = true) {text : Text}
    (apart : ¬ p.separator <+: text) : p.takings text = [⟨none, text⟩] := by
  have none : text.dropPrefix? p.separator = none := by
    cases found : text.dropPrefix? p.separator with
    | none => rfl
    | some rest => exact absurd ⟨rest, (dropPrefix?_eq_some.mp found).symm⟩ apart
  simp [takings, none, optional]

/-- A separator with nothing after it is taken without a value. -/
theorem takings_separator (optional : p.optional = true) :
    p.takings p.separator = [⟨none, []⟩, ⟨none, p.separator⟩] := by
  have whole := dropPrefix?_append p.separator []
  rw [List.append_nil] at whole
  simp [takings, whole, optional, values_nil]

end Placeholder

theorem fillTokens_missing {values : Text → Option Text} {missing : List Placeholder}
    (optional : ∀ p ∈ missing, p.optional = true) (absent : ∀ p ∈ missing, values p.name = none) :
    fillTokens values false (missing.map .placeholder) = [] := by
  induction missing with
  | nil => rfl
  | cons p others ih =>
      rw [List.map_cons, fillTokens,
        Placeholder.fill_of_missing (.inr (absent p List.mem_cons_self)),
        optional p List.mem_cons_self,
        ih (fun q member => optional q (List.mem_cons_of_mem p member))
          fun q member => absent q (List.mem_cons_of_mem p member)]
      rfl

/-- Tokens without placeholders match what they fill in. -/
theorem matchTokens?_literals {front : List Token} (bare : placeholdersOf front = [])
    (others : List Token) (values : Text → Option Text) (isFirst : Bool) (rest : Text) :
    matchTokens? (front ++ others) (fillTokens values isFirst front ++ rest) =
      matchTokens? others rest := by
  induction front with
  | nil => rfl
  | cons token more ih =>
      cases token with
      | literal text =>
          rw [fillTokens, List.cons_append, matchTokens?, List.append_assoc, dropPrefix?_append]
          exact ih bare
      | placeholder p => cases bare

/-- Placeholders that may be absent match the empty text. -/
theorem matchTokens?_missing_nil {missing : List Placeholder}
    (optional : ∀ p ∈ missing, p.optional = true) (separated : ∀ p ∈ missing, p.separator ≠ []) :
    matchTokens? (missing.map .placeholder) [] = some [] := by
  induction missing with
  | nil => rfl
  | cons p others ih =>
      have apart : ¬ p.separator <+: [] :=
        fun starts => separated p List.mem_cons_self (List.prefix_nil.mp starts)
      rw [List.map_cons, matchTokens?,
        Placeholder.takings_of_not_prefix (optional p List.mem_cons_self) apart,
        List.findSome?_singleton,
        ih (fun q member => optional q (List.mem_cons_of_mem p member))
          (fun q member => separated q (List.mem_cons_of_mem p member))]
      rfl

/-- Placeholders that may be absent match a single character if it is the separator of one of
them. -/
theorem matchTokens?_missing_single {missing : List Placeholder}
    (optional : ∀ p ∈ missing, p.optional = true) (separated : ∀ p ∈ missing, p.separator ≠ [])
    (c : Char) : matchTokens? (missing.map .placeholder) [c] =
      if ∃ p ∈ missing, p.separator = [c] then some [] else none := by
  induction missing with
  | nil => simp [matchTokens?]
  | cons p others ih =>
      have optionalOthers : ∀ q ∈ others, q.optional = true :=
        fun q member => optional q (List.mem_cons_of_mem p member)
      have separatedOthers : ∀ q ∈ others, q.separator ≠ [] :=
        fun q member => separated q (List.mem_cons_of_mem p member)
      rw [List.map_cons, matchTokens?]
      by_cases own : p.separator = [c]
      · rw [← own, Placeholder.takings_separator (optional p List.mem_cons_self),
          List.findSome?_cons, matchTokens?_missing_nil optionalOthers separatedOthers,
          if_pos ⟨p, List.mem_cons_self, rfl⟩]
        rfl
      · have apart : ¬ p.separator <+: [c] := by
          intro starts
          rcases List.prefix_cons_iff.mp starts with empty | ⟨rest, same, more⟩
          · exact separated p List.mem_cons_self empty
          · rw [List.prefix_nil.mp more] at same
            exact own same
        rw [Placeholder.takings_of_not_prefix (optional p List.mem_cons_self) apart,
          List.findSome?_singleton, ih optionalOthers separatedOthers]
        simp only [List.mem_cons, exists_eq_or_imp, own, false_or]
        split <;> rfl

/-- What the first placeholder leaves without a value is matched if it is the separator of a
segment. -/
theorem matchTokens?_missing_lead {p : Placeholder} {others : List Placeholder}
    (optional : ∀ q ∈ p :: others, q.optional = true)
    (separated : ∀ q ∈ p :: others, q.separator ≠ []) :
    matchTokens? ((p :: others).map .placeholder) (Separator.textOf p.lead) =
      if p.lead.isSome = true ∧ ∀ q ∈ p :: others, q.separator ≠ Separator.textOf p.lead then none
      else some [] := by
  cases p.lead with
  | none =>
      rw [Separator.textOf, matchTokens?_missing_nil optional separated, if_neg]
      rintro ⟨given, _⟩
      cases given
  | some outer =>
      rw [Separator.textOf, matchTokens?_missing_single optional separated]
      by_cases own : ∃ q ∈ p :: others, q.separator = [outer.char]
      · obtain ⟨q, member, same⟩ := own
        rw [if_pos ⟨q, member, same⟩, if_neg]
        rintro ⟨_, apart⟩
        exact apart q member same
      · rw [if_neg own, if_pos]
        exact ⟨rfl, fun q member same => own ⟨q, member, same⟩⟩

/-- Literal text that follows a placeholder begins with a separator. -/
def Token.SetApart : Token → Token → Prop
  | .placeholder _, .literal text => ∃ separator : Separator, text.head? = some separator.char
  | _, _ => True

theorem delimited_of_setApart {parts : List Token} (apart : parts.IsChain Token.SetApart)
    (separated : ∀ p ∈ placeholdersOf parts, p.separator ≠ [])
    (typed : ∀ p ∈ placeholdersOf parts, ∃ type ∈ p.type?, type.wild = false) :
    Delimited parts := by
  induction parts with
  | nil => trivial
  | cons token others ih =>
      cases token with
      | literal text => exact ih apart.tail separated typed
      | placeholder p =>
          refine ⟨?_, ih apart.tail (fun q member => separated q (List.mem_cons_of_mem p member))
            fun q member => typed q (List.mem_cons_of_mem p member)⟩
          cases others with
          | nil => trivial
          | cons next later =>
              cases next with
              | literal text =>
                  obtain ⟨separator, first⟩ := (List.isChain_cons_cons.mp apart).1
                  refine ⟨separator.char, first, fun type isType => ?_⟩
                  obtain ⟨_, known, tame⟩ := typed p List.mem_cons_self
                  obtain rfl := Option.some.inj (known.symm.trans isType)
                  exact BuiltinType.accepts_separator tame separator
              | placeholder q => exact separated q (List.mem_cons_of_mem p List.mem_cons_self)

/-- A pattern that ends in placeholders that may be absent, after tokens whose placeholders must
all be there.  The names are distinct identifiers, values hold no separators, and every segment has
a separator. -/
structure OptionalTail (front : List Token) (tail : List Placeholder) : Prop where
  required : ∀ p ∈ placeholdersOf front, p.optional = false
  optional : ∀ p ∈ tail, p.optional = true
  identifiers : ∀ p ∈ placeholdersOf front ++ tail, Unicode.isIdentifier p.name = true
  distinct : ((placeholdersOf front ++ tail).map Placeholder.name).Nodup
  typed : ∀ p ∈ placeholdersOf front ++ tail, ∃ type ∈ p.type?, type.wild = false
  separated : ∀ p ∈ placeholdersOf front ++ tail, p.separator ≠ []
  apart : (front ++ tail.map Token.placeholder).IsChain Token.SetApart

namespace OptionalTail

variable {front : List Token} {tail : List Placeholder}

theorem mem_of_mem_take {count : Nat} {p : Placeholder}
    (member : p ∈ placeholdersOf front ++ tail.take count) :
    p ∈ placeholdersOf front ++ tail := by
  rcases List.mem_append.mp member with early | taken
  · exact List.mem_append_left _ early
  · exact List.mem_append_right _ (List.mem_of_mem_take taken)

variable (shape : OptionalTail front tail) (count : Nat)

include shape

/-- The placeholders whose values are left out have names of their own. -/
theorem distinct_take : ((placeholdersOf front ++ tail.take count).map Placeholder.name).Nodup ∧
    ∀ p ∈ tail.drop count,
      p.name ∉ (placeholdersOf front ++ tail.take count).map Placeholder.name := by
  have names := shape.distinct
  rw [← List.take_append_drop count tail, ← List.append_assoc, List.map_append,
    List.nodup_append] at names
  obtain ⟨distinct, _, disjoint⟩ := names
  refine ⟨distinct, fun p member known => ?_⟩
  exact disjoint p.name known p.name (List.mem_map_of_mem member) rfl

theorem filled_take {params : Params}
    (supply : params.Supply (placeholdersOf front ++ tail.take count)) :
    ∀ p ∈ placeholdersOf front ++ tail.take count, p.Filled params.value? := by
  apply supply.filled (shape.distinct_take count).1
  · exact fun p member => shape.identifiers p (mem_of_mem_take member)
  · exact fun p member => shape.typed p (mem_of_mem_take member)

theorem delimited_take : Delimited (front ++ (tail.take count).map .placeholder) := by
  have used : placeholdersOf (front ++ (tail.take count).map .placeholder) =
      placeholdersOf front ++ tail.take count := by
    rw [placeholdersOf_append, placeholdersOf_map]
  apply delimited_of_setApart
  · have apart := shape.apart
    rw [← List.take_append_drop count tail, List.map_append, ← List.append_assoc] at apart
    exact apart.left_of_append
  · rw [used]
    exact fun p member => shape.separated p (mem_of_mem_take member)
  · rw [used]
    exact fun p member => shape.typed p (mem_of_mem_take member)

end OptionalTail

/-- The first placeholder of a pattern has no value, and its outer separator, which is filled in
nevertheless, is not the separator of any segment. -/
def Stranded (front : List Token) (tail : List Placeholder) (count : Nat) : Prop :=
  placeholdersOf front = [] ∧ count = 0 ∧ ∃ p ∈ tail.head?, p.lead.isSome = true ∧
    ∀ q ∈ tail, q.separator ≠ Separator.textOf p.lead

/-- What the placeholders without values leave in the text is matched by them, without parameters,
unless a separator is stranded. -/
theorem matchTokens?_missing {front : List Token} {tail : List Placeholder}
    (shape : OptionalTail front tail) (count : Nat) {values : Text → Option Text}
    (absent : ∀ p ∈ tail.drop count, values p.name = none) :
    let missing := (tail.drop count).map Token.placeholder
    let rest := fillTokens values (placeholdersOf front ++ tail.take count).isEmpty missing
    (∀ c ∈ rest.head?, ∃ separator : Separator, c = separator.char) ∧
      (¬ Stranded front tail count → matchTokens? missing rest = some []) ∧
      (Stranded front tail count → matchTokens? missing rest = none) := by
  intro missing rest
  have optional : ∀ p ∈ tail.drop count, p.optional = true :=
    fun p member => shape.optional p (List.mem_of_mem_drop member)
  have separated : ∀ p ∈ tail.drop count, p.separator ≠ [] := fun p member =>
    shape.separated p (List.mem_append_right _ (List.mem_of_mem_drop member))
  have nothing (empty : rest = []) : (∀ c ∈ rest.head?, ∃ separator : Separator,
      c = separator.char) ∧ matchTokens? missing rest = some [] := by
    rw [empty]
    exact ⟨by simp, matchTokens?_missing_nil optional separated⟩
  -- A placeholder without a value is the first of the pattern only if no placeholder has one.
  cases bare : (placeholdersOf front ++ tail.take count).isEmpty with
  | false =>
      have empty : rest = [] := by
        simp only [rest, bare]
        exact fillTokens_missing optional absent
      refine ⟨(nothing empty).1, fun _ => (nothing empty).2, ?_⟩
      rintro ⟨noFront, rfl, _⟩
      rw [noFront] at bare
      cases bare
  | true =>
      obtain ⟨noFront, noValue⟩ := List.append_eq_nil_iff.mp (List.isEmpty_iff.mp bare)
      cases tail with
      | nil =>
          have empty : rest = [] := by simp [rest, missing, fillTokens]
          refine ⟨(nothing empty).1, fun _ => (nothing empty).2, ?_⟩
          rintro ⟨_, _, p, first, _⟩
          cases first
      | cons p others =>
          obtain rfl : count = 0 := by simpa using noValue
          rw [List.drop_zero] at optional separated absent
          have left : rest = Separator.textOf p.lead := by
            simp only [rest, missing, bare, List.drop_zero]
            rw [List.map_cons, fillTokens,
              Placeholder.fill_of_missing (.inr (absent p List.mem_cons_self)),
              fillTokens_missing (fun q member => optional q (List.mem_cons_of_mem p member))
                fun q member => absent q (List.mem_cons_of_mem p member)]
            simp
          have stranding : Stranded front (p :: others) 0 ↔ p.lead.isSome = true ∧
              ∀ q ∈ p :: others, q.separator ≠ Separator.textOf p.lead := by
            simp [Stranded, noFront]
          rw [left]
          refine ⟨fun c first => Separator.char_of_head_textOf first, fun fine => ?_,
            fun stranded => ?_⟩
          · exact (matchTokens?_missing_lead optional separated).trans
              (if_neg (stranding.not.mp fine))
          · exact (matchTokens?_missing_lead optional separated).trans
              (if_pos (stranding.mp stranded))

/-- **Matching with values left out.** What is filled into a pattern with an optional tail, with all
values of the front and the first ones of the tail, is matched with these values again, unless an
outer separator is stranded. -/
theorem matchTokens?_of_omitted {front : List Token} {tail : List Placeholder}
    (shape : OptionalTail front tail) {params : Params} {count : Nat}
    (supply : params.Supply (placeholdersOf front ++ tail.take count)) :
    let parts := front ++ tail.map .placeholder
    let path := fillTokens params.value? true parts
    (¬ Stranded front tail count →
        ∃ found, matchTokens? parts path = some found ∧ found.Perm params) ∧
      (Stranded front tail count → matchTokens? parts path = none) := by
  intro parts path
  let kept := front ++ (tail.take count).map .placeholder
  let missing := tail.drop count
  have whole : parts = kept ++ missing.map .placeholder := by
    simp only [parts, kept, missing]
    rw [List.append_assoc, ← List.map_append, List.take_append_drop]
  have used : placeholdersOf kept = placeholdersOf front ++ tail.take count := by
    rw [placeholdersOf_append, placeholdersOf_map]
  obtain ⟨distinct, others⟩ := shape.distinct_take count
  have filled : ∀ p ∈ placeholdersOf kept, p.Filled params.value? := by
    rw [used]
    exact shape.filled_take count supply
  have absent : ∀ p ∈ missing, params.value? p.name = none :=
    fun p member => supply.value?_eq_none (others p member)
  obtain ⟨separators, matched, unmatched⟩ := matchTokens?_missing shape count absent
  have filledIn : path = fillTokens params.value? true kept ++
      fillTokens params.value? (placeholdersOf front ++ tail.take count).isEmpty
        (missing.map .placeholder) := by
    simp only [path]
    rw [whole, fillTokens_append, used, Bool.true_and]
  rw [filledIn, whole]
  constructor
  · intro fine
    refine ⟨_, matchTokens?_fillTokens_append (shape.delimited_take count) filled separators
      (matched fine) true, ?_⟩
    rw [used, List.append_nil]
    exact supply.perm distinct
  · intro stranded
    have bare : placeholdersOf kept = [] := by
      obtain ⟨noFront, rfl, _⟩ := stranded
      rw [used, noFront]
      rfl
    rw [matchTokens?_literals bare]
    exact unmatched stranded

end Signpost

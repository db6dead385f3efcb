import Signpost.Proofs.Pattern.BuiltinType
import Signpost.Pattern.Compiled

/-!
# Matching tokens without regular expressions

`matchTokens?` is what a pattern with built-in types means: a path is gone through from left to
right, token by token, and where a placeholder leaves a choice the choices are tried in order until
the rest of the path can be matched as well.  Whatever it answers, the literal texts, the separators
and the values that it has gone through make up the path (`Placeholder.mem_takings`), and it reports
only names of the pattern, in their order (`keys_matchTokens?`).
-/

namespace Signpost

/-- What a placeholder makes of a text. -/
structure Taking where
  /-- The value that it takes, if it takes one. -/
  value : Option Text
  /-- The text after it. -/
  rest : Text
  deriving DecidableEq, Repr

namespace Placeholder

/-- The built-in type that a placeholder names. -/
def type? (p : Placeholder) : Option BuiltinType :=
  BuiltinType.ofKey? p.typeKey

/-- The values that a placeholder can take at the start of a text, with what follows them. -/
def values (p : Placeholder) (text : Text) : List (Text × Text) :=
  match p.type? with
  | none => []
  | some type => type.values text

/-- What a placeholder can make of the start of a text, in order of preference: separator and value;
if it may be absent, the separator alone; and then nothing at all. -/
def takings (p : Placeholder) (text : Text) : List Taking :=
  let absent (rest : Text) : List Taking := if p.optional then [⟨none, rest⟩] else []
  let present : List Taking := match text.dropPrefix? p.separator with
    | none => []
    | some rest => (p.values rest).map (fun (value, left) => ⟨some value, left⟩) ++ absent rest
  present ++ absent text

/-- The parameters with the value of a placeholder put before them. -/
def record (p : Placeholder) (value : Option Text) (params : Params) : Params :=
  match value with
  | none => params
  | some value => if p.name.isEmpty then params else (p.name, value) :: params

end Placeholder

/-- The parameters of a path under tokens, found by trying the choices in order. -/
def matchTokens? : List Token → Text → Option Params
  | [], path => if path.isEmpty then some [] else none
  | .literal text :: others, path => (path.dropPrefix? text).bind (matchTokens? others)
  | .placeholder p :: others, path =>
      (p.takings path).findSome? fun taking =>
        (matchTokens? others taking.rest).map (p.record taking.value)

/-- The value that parameters have for a name. -/
def Params.value? (params : Params) (name : Text) : Option Text :=
  params.lookup name

theorem Params.value?_cons_self {name value : Text} (others : Params) :
    value? ((name, value) :: others) name = some value :=
  List.lookup_cons_self

theorem Params.value?_cons_of_ne {name : Text} {first : Text × Text} {others : Params}
    (apart : name ≠ first.1) : value? (first :: others) name = value? others name := by
  rw [value?, List.lookup_cons, beq_false_of_ne apart]
  rfl

/-- The names that placeholders report, in order. -/
def namesOf (parts : List Token) : List Text :=
  ((placeholdersOf parts).map Placeholder.name).filter fun name => !name.isEmpty

@[simp] theorem placeholdersOf_nil : placeholdersOf [] = [] := rfl

@[simp] theorem placeholdersOf_literal (text : Text) (others : List Token) :
    placeholdersOf (.literal text :: others) = placeholdersOf others := rfl

@[simp] theorem placeholdersOf_placeholder (p : Placeholder) (others : List Token) :
    placeholdersOf (.placeholder p :: others) = p :: placeholdersOf others := rfl

@[simp] theorem namesOf_nil : namesOf [] = [] := rfl

@[simp] theorem namesOf_literal (text : Text) (others : List Token) :
    namesOf (.literal text :: others) = namesOf others := rfl

theorem namesOf_placeholder (p : Placeholder) (others : List Token) :
    namesOf (.placeholder p :: others) =
      if p.name.isEmpty then namesOf others else p.name :: namesOf others := by
  by_cases unnamed : p.name.isEmpty <;> simp [namesOf, unnamed]

theorem mem_namesOf {parts : List Token} {name : Text} :
    name ∈ namesOf parts ↔ name ≠ [] ∧ ∃ p ∈ placeholdersOf parts, p.name = name := by
  simp [namesOf, and_comm]

theorem mem_namesOf_self {p : Placeholder} (named : p.name ≠ []) (others : List Token) :
    p.name ∈ namesOf (.placeholder p :: others) :=
  mem_namesOf.mpr ⟨named, p, List.mem_cons_self, rfl⟩

theorem mem_namesOf_cons {others : List Token} {name : Text} (member : name ∈ namesOf others)
    (p : Placeholder) : name ∈ namesOf (.placeholder p :: others) := by
  obtain ⟨given, q, inside, rfl⟩ := mem_namesOf.mp member
  exact mem_namesOf.mpr ⟨given, q, List.mem_cons_of_mem _ inside, rfl⟩

/-- A placeholder takes its separator and a value of its type, or no value where it may be absent,
and what it has gone through stands at the start of the text. -/
theorem Placeholder.mem_takings {p : Placeholder} {text : Text} {taking : Taking}
    (member : taking ∈ p.takings text) :
    (∃ value type, taking.value = some value ∧ p.type? = some type ∧
        (value, taking.rest) ∈ type.values (value ++ taking.rest) ∧
        text = p.separator ++ (value ++ taking.rest)) ∨
      (taking.value = none ∧ p.optional = true ∧
        (text = p.separator ++ taking.rest ∨ text = taking.rest)) := by
  have ofAbsent {rest : Text} (inside : taking ∈ if p.optional then [⟨none, rest⟩] else []) :
      taking.value = none ∧ p.optional = true ∧ rest = taking.rest := by
    by_cases optional : p.optional
    · simp only [optional, ↓reduceIte, List.mem_singleton] at inside
      subst inside
      exact ⟨rfl, optional, rfl⟩
    · simp [optional] at inside
  simp only [takings, List.mem_append] at member
  rcases member with present | absent
  · cases found : text.dropPrefix? p.separator with
    | none => simp [found] at present
    | some rest =>
        have whole := dropPrefix?_eq_some.mp found
        simp only [found, List.mem_append, List.mem_map, Prod.exists] at present
        rcases present with ⟨value, left, among, rfl⟩ | alone
        · left
          cases typed : p.type? with
          | none => simp [values, typed] at among
          | some type =>
              simp only [values, typed] at among
              obtain ⟨parted, _, _⟩ := BuiltinType.mem_values among
              rw [parted] at among whole
              exact ⟨value, type, rfl, rfl, among, whole⟩
        · obtain ⟨valueless, optional, rfl⟩ := ofAbsent alone
          exact Or.inr ⟨valueless, optional, Or.inl whole⟩
  · obtain ⟨valueless, optional, rfl⟩ := ofAbsent absent
    exact Or.inr ⟨valueless, optional, Or.inr rfl⟩

/-- A match of tokens after a placeholder comes from one of the takings of the placeholder. -/
theorem matchTokens?_placeholder {p : Placeholder} {others : List Token} {path : Text}
    {params : Params} (matched : matchTokens? (.placeholder p :: others) path = some params) :
    ∃ taking ∈ p.takings path, ∃ later, matchTokens? others taking.rest = some later ∧
      params = p.record taking.value later := by
  obtain ⟨taking, member, answer⟩ := List.exists_of_findSome?_eq_some matched
  obtain ⟨later, rest, rfl⟩ := Option.map_eq_some_iff.mp answer
  exact ⟨taking, member, later, rest, rfl⟩

theorem matchTokens?_literal {text : Text} {others : List Token} {path : Text} {params : Params} :
    matchTokens? (.literal text :: others) path = some params ↔
      ∃ rest, path = text ++ rest ∧ matchTokens? others rest = some params := by
  simp only [matchTokens?, Option.bind_eq_some_iff, dropPrefix?_eq_some]

/-- The reported names are names of the pattern, in their order. -/
theorem keys_matchTokens? {parts : List Token} {path : Text} {params : Params}
    (matched : matchTokens? parts path = some params) :
    (params.map Prod.fst).Sublist (namesOf parts) := by
  induction parts generalizing path params with
  | nil =>
      by_cases done : path.isEmpty
      · simp only [matchTokens?, done, ↓reduceIte, Option.some.injEq] at matched
        subst matched
        exact List.Sublist.refl _
      · simp [matchTokens?, done] at matched
  | cons token others ih =>
      cases token with
      | literal text =>
          obtain ⟨rest, _, matched⟩ := matchTokens?_literal.mp matched
          exact ih matched
      | placeholder p =>
          obtain ⟨taking, _, later, rest, rfl⟩ := matchTokens?_placeholder matched
          have sub := ih rest
          rw [namesOf_placeholder]
          cases taking.value with
          | none =>
              by_cases unnamed : p.name.isEmpty
              · simpa [Placeholder.record, unnamed] using sub
              · simpa [Placeholder.record, unnamed] using sub.cons p.name
          | some value =>
              by_cases unnamed : p.name.isEmpty
              · simpa [Placeholder.record, unnamed] using sub
              · simpa [Placeholder.record, unnamed] using sub

end Signpost

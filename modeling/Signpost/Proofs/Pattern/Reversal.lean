import Signpost.Proofs.Pattern.Refinement
import Signpost.Route.Url

/-!
# URLs from the parameters of a path

If the parameters that a path has under a pattern name every placeholder, then filling them into the
pattern gives the path back (`buildUrl_match?`): whichever way the placeholders have divided the
path among themselves, literal texts, separators and values tile it, and the URL is written from the
same tiles (`fillTokens_matchTokens?`).
-/

namespace Signpost

/-- Filling depends on the values of the names of the tokens alone. -/
theorem fillTokens_congr {parts : List Token} {values others : Text → Option Text}
    (same : ∀ name ∈ namesOf parts, values name = others name) (isFirst : Bool) :
    fillTokens values isFirst parts = fillTokens others isFirst parts := by
  induction parts generalizing isFirst with
  | nil => rfl
  | cons token rest ih =>
      cases token with
      | literal text =>
          rw [fillTokens, fillTokens, ih same isFirst]
      | placeholder p =>
          have later : ∀ name ∈ namesOf rest, values name = others name :=
            fun name member => same name (mem_namesOf_cons member p)
          have filled : p.fill values isFirst = p.fill others isFirst := by
            by_cases unnamed : p.name.isEmpty
            · simp only [Placeholder.fill, unnamed, ↓reduceIte]
            · have member := mem_namesOf_self (by simpa using unnamed) rest
              simp only [Placeholder.fill, unnamed, same _ member]
          rw [fillTokens, fillTokens, filled, ih later false]

/-- A placeholder with a value is written as its separator and the value. -/
theorem Placeholder.fill_of_value {p : Placeholder} {values : Text → Option Text} {value : Text}
    (named : p.name ≠ []) (given : values p.name = some value) (isFirst : Bool) :
    p.fill values isFirst = p.separator ++ value := by
  have notEmpty : p.name.isEmpty = false := by simpa using named
  simp only [fill, notEmpty, Bool.false_eq_true, ↓reduceIte, given]

/-- Filling the parameters of a text into the tokens that they were found with gives the text. -/
theorem fillTokens_matchTokens? {parts : List Token} {text : Text} {params : Params}
    (matched : matchTokens? parts text = some params) (distinct : (namesOf parts).Nodup)
    (named : ∀ p ∈ placeholdersOf parts, p.name ≠ [])
    (complete : ∀ p ∈ placeholdersOf parts, p.name ∈ params.map Prod.fst) (isFirst : Bool) :
    fillTokens params.value? isFirst parts = text := by
  induction parts generalizing text params isFirst with
  | nil =>
      rw [matchTokens?] at matched
      split at matched
      · next empty => exact (List.isEmpty_iff.mp empty).symm
      · cases matched
  | cons token others ih =>
      cases token with
      | literal front =>
          obtain ⟨rest, rfl, later⟩ := matchTokens?_literal.mp matched
          rw [fillTokens, ih later distinct named complete isFirst]
      | placeholder p =>
          have given : p.name ≠ [] := named p List.mem_cons_self
          have unfolded : namesOf (.placeholder p :: others) = p.name :: namesOf others := by
            rw [namesOf_placeholder, if_neg (by simpa using given)]
          rw [unfolded, List.nodup_cons] at distinct
          obtain ⟨apart, distinct⟩ := distinct
          obtain ⟨taking, member, later, rest, rfl⟩ := matchTokens?_placeholder matched
          have keys := keys_matchTokens? rest
          have reported := complete p List.mem_cons_self
          rcases Placeholder.mem_takings member with
            ⟨value, type, valued, _, _, rfl⟩ | ⟨valueless, _, _⟩
          · have recorded : p.record taking.value later = (p.name, value) :: later := by
              simp [Placeholder.record, valued, given]
            have others_complete : ∀ q ∈ placeholdersOf others, q.name ∈ later.map Prod.fst := by
              intro q inside
              have found := complete q (List.mem_cons_of_mem _ inside)
              rw [recorded, List.map_cons, List.mem_cons] at found
              rcases found with same | found
              · have clash : p.name ∈ namesOf others :=
                  mem_namesOf.mpr ⟨given, q, inside, same⟩
                exact absurd clash apart
              · exact found
            have looked : ∀ name ∈ namesOf others,
                (p.record taking.value later).value? name = later.value? name := by
              intro name inside
              have other : name ≠ p.name := fun same => apart (same ▸ inside)
              rw [recorded, Params.value?_cons_of_ne other]
            have first : (p.record taking.value later).value? p.name = some value := by
              rw [recorded, Params.value?_cons_self]
            rw [fillTokens, Placeholder.fill_of_value given first, fillTokens_congr looked,
              ih rest distinct (fun q inside => named q (List.mem_cons_of_mem _ inside))
                others_complete false, List.append_assoc]
          · have skipped : p.record taking.value later = later := by
              rw [valueless]
              rfl
            rw [skipped] at reported
            exact absurd (keys.subset reported) apart

theorem identifiers_namesOf {parts : List Token}
    (identifiers : ∀ p ∈ placeholdersOf parts, Unicode.isIdentifier p.name = true) :
    ∀ name ∈ namesOf parts, Unicode.isIdentifier name = true := by
  intro name member
  obtain ⟨_, p, inside, rfl⟩ := mem_namesOf.mp member
  exact identifiers p inside

/-- **Filling in the parameters of a path gives the path.** A pattern whose placeholders are all
named, by distinct identifiers, and have known types is compiled; and whenever the parameters of a
path name every placeholder, the URL of the pattern with these parameters is the path. -/
theorem buildUrl_match? [Unicode.Names] (strict : Bool) (pattern : Text) (parts : List Token)
    (read : tokens pattern = .ok parts)
    (known : ∀ p ∈ placeholdersOf parts, p.type?.isSome = true)
    (identifiers : ∀ p ∈ placeholdersOf parts, Unicode.isIdentifier p.name = true)
    (distinct : ((placeholdersOf parts).map Placeholder.name).Nodup) :
    ∃ compiled, compilePlaceholders ⟨MatchTypes.builtin, strict⟩ pattern = .ok compiled ∧
      ∀ path params, compiled.match? path = some params →
        (∀ p ∈ placeholdersOf parts, p.name ∈ params.map Prod.fst) →
          buildUrl [] pattern params.value? = .ok path := by
  have named : ∀ p ∈ placeholdersOf parts, p.name ≠ [] :=
    fun p member => identifier_ne_nil (identifiers p member)
  have apart : (namesOf parts).Nodup := distinct.filter _
  obtain ⟨compiled, compiles, answers⟩ := exists_compiled read
    (fun p member => keepsBuiltin_builtin (known p member) strict)
    (identifiers_namesOf identifiers) apart
  refine ⟨compiled, compiles, ?_⟩
  intro path params matched complete
  rw [answers] at matched
  have filled := fillTokens_matchTokens? matched apart named complete true
  simp only [buildUrl, tokensOrFault, read, Except.mapError, Except.map, filled, List.nil_append]

/-- A wildcard is as long as the rest of the path needs it to be. -/
theorem buildUrl_match?_wildcard :
    ∃ compiled,
      compilePlaceholders ⟨MatchTypes.builtin, true⟩ "/[*:dir]/[:file].[:ext]?".toList =
          .ok compiled ∧
        compiled.match? "/a/b/c.gz".toList = some [("dir".toList, "a/b".toList),
          ("file".toList, "c".toList), ("ext".toList, "gz".toList)] ∧
        buildUrl [] "/[*:dir]/[:file].[:ext]?".toList
          (Params.value? [("dir".toList, "a/b".toList), ("file".toList, "c".toList),
            ("ext".toList, "gz".toList)]) = .ok "/a/b/c.gz".toList := by
  obtain ⟨compiled, compiles, back⟩ := buildUrl_match? true "/[*:dir]/[:file].[:ext]?".toList
    [.placeholder ⟨some .slash, none, ['*'], some "dir".toList, false⟩,
      .placeholder ⟨some .slash, none, [], some "file".toList, false⟩,
      .placeholder ⟨some .point, none, [], some "ext".toList, true⟩]
    (by decide) (by decide) (by decide) (by decide)
  have matched : (compilePlaceholders ⟨MatchTypes.builtin, true⟩
      "/[*:dir]/[:file].[:ext]?".toList).map (·.match? "/a/b/c.gz".toList) =
        .ok (some [("dir".toList, "a/b".toList), ("file".toList, "c".toList),
          ("ext".toList, "gz".toList)]) := by
    decide +kernel
  rw [compiles] at matched
  have answer := Except.ok.inj matched
  exact ⟨compiled, compiles, answer, back _ _ answer (by decide)⟩

end Signpost

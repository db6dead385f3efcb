import Signpost.Proofs.Route.Matching
import Signpost.Proofs.Router.Reachable

/-!
# The parameters that a router delivers

A handler converts the parameters of its route without checking them.  `Params.Conform` is what it
relies on: every placeholder that must be there has a value, nothing else is reported, and a value
is a non-empty text of characters of its type.  Whichever way a pattern is matched, its parameters
conform to its tokens (`conform_matchTokens?`), and so do the parameters of every hit of a router
(`Router.request_conform`), as long as the table has the built-in fragments for the pattern at the
time of the request.
-/

namespace Signpost

/-- What can be relied on of the parameters that a path has under tokens. -/
structure Params.Conform (params : Params) (parts : List Token) : Prop where
  required : ∀ p ∈ placeholdersOf parts, p.name ≠ [] → p.optional = false →
    p.name ∈ params.map Prod.fst
  /-- Each parameter has the name of a placeholder, and a value of its type. -/
  values : ∀ entry ∈ params, ∃ p ∈ placeholdersOf parts, ∃ type, p.name = entry.1 ∧ p.name ≠ [] ∧
    p.type? = some type ∧ entry.2 ≠ [] ∧ ∀ c ∈ entry.2, type.accepts c = true
  distinct : (params.map Prod.fst).Nodup

/-- A parameter that is recorded is the value of a named placeholder. -/
theorem Placeholder.mem_record {p : Placeholder} {value : Option Text} {params : Params}
    {entry : Text × Text} (member : entry ∈ p.record value params) :
    entry ∈ params ∨ p.name ≠ [] ∧ entry.1 = p.name ∧ value = some entry.2 := by
  cases value with
  | none => exact .inl member
  | some text =>
      by_cases unnamed : p.name.isEmpty = true
      · rw [record, if_pos unnamed] at member
        exact .inl member
      · rw [record, if_neg unnamed] at member
        rcases List.mem_cons.mp member with rfl | old
        · exact .inr ⟨by simpa using unnamed, rfl, rfl⟩
        · exact .inl old

theorem Placeholder.map_fst_subset_record (p : Placeholder) (value : Option Text)
    (params : Params) : params.map Prod.fst ⊆ (p.record value params).map Prod.fst := by
  intro name member
  cases value with
  | none => exact member
  | some text =>
      rw [record]
      split
      · exact member
      · exact List.mem_cons_of_mem _ member

/-- A value of a type is not empty and has characters of the type only. -/
theorem Placeholder.value_of_mem_takings {p : Placeholder} {text value : Text} {taking : Taking}
    (member : taking ∈ p.takings text) (taken : taking.value = some value) :
    ∃ type, p.type? = some type ∧ value ≠ [] ∧ ∀ c ∈ value, type.accepts c = true := by
  rcases mem_takings member with ⟨other, type, same, typed, among, _⟩ | ⟨none, _⟩
  · obtain rfl := Option.some.inj (taken.symm.trans same)
    obtain ⟨_, present, accepted⟩ := BuiltinType.mem_values among
    exact ⟨type, typed, present, accepted⟩
  · rw [none] at taken
    cases taken

/-- A placeholder that must be there takes a value. -/
theorem Placeholder.exists_value_of_required {p : Placeholder} {text : Text} {taking : Taking}
    (member : taking ∈ p.takings text) (required : p.optional = false) :
    ∃ value, taking.value = some value := by
  rcases mem_takings member with ⟨value, _, taken, _⟩ | ⟨_, optional, _⟩
  · exact ⟨value, taken⟩
  · rw [required] at optional
    cases optional

/-- **The parameters of a path conform to the tokens** that the path has been matched with,
whichever of the choices led to the match. -/
theorem conform_matchTokens? {parts : List Token} {path : Text} {params : Params}
    (distinct : (namesOf parts).Nodup) (matched : matchTokens? parts path = some params) :
    params.Conform parts := by
  have once := (keys_matchTokens? matched).nodup distinct
  induction parts generalizing path params with
  | nil =>
      rw [matchTokens?] at matched
      split at matched
      · cases matched
        exact ⟨by simp, by simp, once⟩
      · cases matched
  | cons token others ih =>
      cases token with
      | literal text =>
          obtain ⟨rest, _, later⟩ := matchTokens?_literal.mp matched
          obtain ⟨required, values, _⟩ := ih distinct later once
          exact ⟨required, values, once⟩
      | placeholder p =>
          obtain ⟨taking, member, later, rest, rfl⟩ := matchTokens?_placeholder matched
          have fewer : (namesOf others).Nodup := by
            rw [namesOf_placeholder] at distinct
            split at distinct
            · exact distinct
            · exact (List.nodup_cons.mp distinct).2
          obtain ⟨required, values, _⟩ := ih fewer rest ((keys_matchTokens? rest).nodup fewer)
          refine ⟨fun q inside named needed => ?_, fun entry inside => ?_, once⟩
          · rcases List.mem_cons.mp inside with rfl | old
            · obtain ⟨value, taken⟩ := Placeholder.exists_value_of_required member needed
              simp [Placeholder.record, taken, named]
            · exact p.map_fst_subset_record taking.value later (required q old named needed)
          · rcases Placeholder.mem_record inside with old | ⟨named, same, taken⟩
            · obtain ⟨q, among, type, found⟩ := values entry old
              exact ⟨q, List.mem_cons_of_mem _ among, type, found⟩
            · obtain ⟨type, typed, present, accepted⟩ :=
                Placeholder.value_of_mem_takings member taken
              exact ⟨p, List.mem_cons_self, type, same.symm, named, typed, present, accepted⟩

namespace Router

variable {τ : Type}

/-- **Handlers get what their patterns promise.** Take any router that an application can get to,
after whatever replacements of match types, and any hit that it answers a request with.  If the
pattern of the route has a bracket and is no regular expression itself, its tokens have distinct
identifiers as names, and the present table has the built-in fragments for their types, then the
parameters of the hit conform to the tokens. -/
theorem request_conform [Unicode.Names] {router : Router τ} (reached : router.Reachable)
    {method url : Text} {hit : Hit τ} (found : (router.request method url).1 = .ok (some hit))
    (bracket : hasPlaceholders hit.route.pattern = true) (notRaw : isRaw hit.route.pattern = false)
    {parts : List Token} (read : tokens hit.route.pattern = .ok parts)
    (identifiers : ∀ name ∈ namesOf parts, Unicode.isIdentifier name = true)
    (distinct : (namesOf parts).Nodup)
    (builtin : ∀ p ∈ placeholdersOf parts, router.compiler.resolver.KeepsBuiltin p) :
    hit.params.Conform parts := by
  have sound := reached.sound
  rw [request] at found
  split at found
  · cases found
  · next path _ =>
    obtain ⟨used, grown, answered⟩ := Route.match?_of_firstHit found
    have special : hit.route.pattern = catchAll → path = catchAll := by
      intro all
      rw [all] at bracket
      cases bracket
    rw [Route.match?] at answered
    split at answered
    · rw [matchPattern?_eq_matchTokens? (grown.later.coherent sound.coherent) notRaw read
        (grown.resolver ▸ builtin) identifiers distinct special] at answered
      exact conform_matchTokens? distinct (Except.ok.inj answered)
    · cases answered

/-- The type of digits is replaced, used, and then given its own fragment back. -/
theorem request_conform_restored_type :
    let route : Route Nat := ⟨['*'], "/u/[i:id][.h:code]/[:rest]?".toList, 1, none⟩
    let built : Router Nat := { config := {}, routes := [route], compiler := Config.compiler {} }
    let router := (built.run {} [.addMatchTypes [(['i'], some "[a-z]+".toList)],
      .request (some ['G']) (some "/u/ada".toList), .compile,
      .addMatchTypes [(['i'], some "[0-9]++".toList)]]).2
    let parts : List Token := [.literal "/u".toList,
      .placeholder ⟨some .slash, none, ['i'], some "id".toList, false⟩,
      .placeholder ⟨none, some .point, ['h'], some "code".toList, false⟩,
      .placeholder ⟨some .slash, none, [], some "rest".toList, true⟩]
    ∃ hit, (router.request ['G'] "/u/12/x?q".toList).1 = .ok (some hit) ∧
      hit.params.Conform parts := by
  intro route built router parts
  have made : build { routes := .entries [.route route] } = .ok built := rfl
  have reached : router.Reachable := (Reachable.built made).run {} _
  have found : (router.request ['G'] "/u/12/x?q".toList).1 =
      .ok (some ⟨route, [("id".toList, "12".toList), ("rest".toList, ['x'])]⟩) := by
    decide +kernel
  have builtin : ∀ p ∈ placeholdersOf parts, router.compiler.resolver.KeepsBuiltin p := by
    have present : router.compiler.resolver = router.config.compiler.resolver :=
      reached.sound.resolver
    rw [present]
    intro p member
    change p ∈ [_, _, _] at member
    simp only [List.mem_cons, List.not_mem_nil, or_false] at member
    rcases member with rfl | rfl | rfl
    · exact ⟨.digits, rfl, by decide +kernel⟩
    · exact ⟨.hexadecimal, rfl, by decide +kernel⟩
    · exact ⟨.segment, rfl, by decide +kernel⟩
  exact ⟨_, found, request_conform reached found (by decide) rfl (by decide) (by decide) (by decide)
    builtin⟩

end Router

end Signpost

import Signpost.Proofs.Pattern.Omission
import Signpost.Proofs.Route.Matching

/-!
# Routes with values left out

The URL of a pattern with an optional tail is accepted by the routes with that pattern, and gives
the parameters back that it was built from, wherever values of the tail are left out
(`Route.match?_of_omitted`).  The exception is a URL that ends in a stranded separator, as the slash
of `/[.i:page]` is without a page: no route with the pattern accepts it.
-/

namespace Signpost

/-- **A URL with values left out is accepted again.** Take a pattern with an optional tail, and
parameters for the placeholders of its front and any number of the first ones of its tail.  A URL
can be built.  A route with the pattern finds just the parameters in it, for every method that the
filter admits, unless an outer separator is stranded; and then it does not accept the URL. -/
theorem Route.match?_of_omitted [Unicode.Names] {pattern : Text} {front : List Token}
    {tail : List Placeholder} (notRaw : isRaw pattern = false)
    (read : tokens pattern = .ok (front ++ tail.map .placeholder))
    (shape : OptionalTail front tail) {params : Params} {count : Nat}
    (supply : params.Supply (placeholdersOf front ++ tail.take count)) :
    ∃ path, buildUrl [] pattern params.value? = .ok path ∧
      ∀ (τ : Type) (route : Route τ) (exact : Bool) (method : Text) (compiler : Compiler),
        route.pattern = pattern → admits exact route.methods method = true →
          compiler.Coherent → compiler.resolver.KeepsTame →
            (¬ Stranded front tail count →
              ∃ found, (route.match? exact method path compiler).1 = .ok (some found) ∧
                found.Perm params) ∧
            (Stranded front tail count →
              (route.match? exact method path compiler).1 = .ok none) := by
  let parts := front ++ tail.map Token.placeholder
  let path := fillTokens params.value? true parts
  have placeholders : placeholdersOf parts = placeholdersOf front ++ tail := by
    rw [placeholdersOf_append, placeholdersOf_map]
  have identifiers : ∀ p ∈ placeholdersOf parts, Unicode.isIdentifier p.name = true := by
    rw [placeholders]
    exact shape.identifiers
  have distinct : (namesOf parts).Nodup := by
    rw [namesOf, placeholders]
    exact shape.distinct.filter _
  have special : pattern = catchAll → path = catchAll := by
    rintro rfl
    have literal : tokens catchAll = .ok [.literal catchAll] := by decide
    have whole : parts = [.literal catchAll] := Except.ok.inj (read.symm.trans literal)
    simp only [path, whole]
    rfl
  refine ⟨path, ?_, ?_⟩
  · simp [buildUrl, tokensOrFault, read, Except.mapError, Except.map, path, parts]
  rintro τ route exact method compiler rfl admitted coherent tame
  have builtin : ∀ p ∈ placeholdersOf parts, compiler.resolver.KeepsBuiltin p := by
    rw [placeholders]
    exact fun p member => tame.builtin (shape.typed p member)
  have answer : (route.match? exact method path compiler).1 = .ok (matchTokens? parts path) := by
    rw [Route.match?, if_pos admitted]
    exact matchPattern?_eq_matchTokens? coherent notRaw read builtin
      (identifiers_namesOf identifiers) distinct special
  obtain ⟨accepted, refused⟩ := matchTokens?_of_omitted shape supply
  constructor
  · intro fine
    obtain ⟨found, matched, same⟩ := accepted fine
    exact ⟨found, answer.trans (congrArg Except.ok matched), same⟩
  · intro stranded
    exact answer.trans (congrArg Except.ok (refused stranded))

/-- Two of three optional segments are left out. -/
theorem Route.match?_of_omitted_last_two :
    let route : Route Nat :=
      ⟨"GET".toList, "/log/[i:year]/x[/a:month]/[h:day]?.[:kind]?".toList, 1, none⟩
    let params : Params := [("month".toList, "may".toList), ("year".toList, "2024".toList)]
    ∃ found, buildUrl [] route.pattern params.value? = .ok "/log/2024/x/may".toList ∧
      (route.match? false "get".toList "/log/2024/x/may".toList (Compiler.new [] true)).1 =
        .ok (some found) ∧ found.Perm params := by
  intro route params
  let front : List Token :=
    [.literal "/log".toList, .placeholder ⟨some .slash, none, ['i'], some "year".toList, false⟩,
      .literal "/x".toList]
  let tail : List Placeholder :=
    [⟨none, some .slash, ['a'], some "month".toList, false⟩,
      ⟨some .slash, none, ['h'], some "day".toList, true⟩,
      ⟨some .point, none, [], some "kind".toList, true⟩]
  have shape : OptionalTail front tail :=
    ⟨by decide, by decide, by decide, by decide, by decide, by decide,
      .cons_cons trivial (.cons_cons ⟨.slash, rfl⟩ (.cons_cons trivial (.cons_cons trivial
        (.cons_cons trivial (.singleton _)))))⟩
  have supply : params.Supply (placeholdersOf front ++ tail.take 1) := by
    refine ⟨by decide, fun p member type typed value given => ?_⟩
    change p ∈ [_, _] at member
    rcases List.mem_pair.mp member with rfl | rfl <;>
      (cases typed; cases given; exact ⟨by decide, List.all_eq_true.mp (by decide)⟩)
  have fine : ¬ Stranded front tail 1 := by
    rintro ⟨_, impossible, _⟩
    cases impossible
  have notRaw : isRaw route.pattern = false := by decide
  have read : tokens route.pattern = .ok (front ++ tail.map .placeholder) := by decide
  obtain ⟨path, built, answers⟩ := Route.match?_of_omitted notRaw read shape supply
  have written : buildUrl [] route.pattern params.value? = .ok "/log/2024/x/may".toList := by
    decide
  obtain rfl := Except.ok.inj (written.symm.trans built)
  obtain ⟨found, matched, same⟩ := (answers Nat route false "get".toList (Compiler.new [] true) rfl
    (by decide) (Compiler.coherent_new _ _) (keepsTame_new true)).1 fine
  exact ⟨found, written, matched, same⟩

/-- An outer separator is stranded if a segment has another one inside its bracket and no value. -/
theorem Route.match?_of_omitted_stranded :
    let p : Placeholder := ⟨some .slash, some .point, ['i'], some ['x'], false⟩
    let route : Route Nat := ⟨['*'], "/[.i:x]".toList, 1, none⟩
    tokens route.pattern = .ok [.placeholder p] ∧ OptionalTail [] [p] ∧
      Params.Supply [] ([p].take 0) ∧ admits false route.methods "GET".toList = true ∧
      buildUrl [] route.pattern (Params.value? []) = .ok ['/'] ∧
      (route.match? false "GET".toList ['/'] (Compiler.new [] true)).1 = .ok none := by
  intro p route
  refine ⟨by decide, ⟨by decide, by decide, by decide, by decide, by decide, by decide, ?_⟩,
    ⟨by decide, by simp⟩, by decide, by decide, by decide +kernel⟩
  exact List.isChain_singleton _

end Signpost

import Signpost.Proofs.Pattern.Filling
import Signpost.Proofs.Route.Matching
import Signpost.Proofs.Router.Reachable

/-!
# Requests for generated URLs

A URL that a router has generated for a named route is found again by the same router, and gives the
parameters back that it was built from (`Router.request_generate`).  An earlier route may take the
request before the named one.  What the pattern needs for that is `Reversible`, and what the
parameters need is `Params.Fits`.
-/

namespace Signpost

/-- A pattern whose placeholders must all be there, under distinct identifiers, with types whose
values hold no separators, each stopped by what follows it; and no query starts in its literal
text. -/
structure Reversible (parts : List Token) : Prop where
  placeholder : placeholdersOf parts ≠ []
  required : ∀ p ∈ placeholdersOf parts, p.optional = false
  identifiers : ∀ p ∈ placeholdersOf parts, Unicode.isIdentifier p.name = true
  distinct : ((placeholdersOf parts).map Placeholder.name).Nodup
  typed : ∀ p ∈ placeholdersOf parts, ∃ type ∈ p.type?, type.wild = false
  literals : ∀ token ∈ parts, token.placeholder? = none → '?' ∉ token.text
  delimited : Delimited parts

/-- Parameters for just the placeholders of a pattern, with values of their types in which no query
starts. -/
structure Params.Fits (params : Params) (parts : List Token) : Prop where
  keys : (params.map Prod.fst).Perm ((placeholdersOf parts).map Placeholder.name)
  values : ∀ p ∈ placeholdersOf parts, ∀ type ∈ p.type?, ∀ value ∈ params.value? p.name,
    value ≠ [] ∧ (∀ c ∈ value, type.accepts c = true) ∧ '?' ∉ value

namespace Params.Fits

variable {params : Params} {parts : List Token}

theorem supply (fits : params.Fits parts) : params.Supply (placeholdersOf parts) where
  keys := fits.keys
  values p member type typed value given := by
    obtain ⟨present, accepted, _⟩ := fits.values p member type typed value given
    exact ⟨present, accepted⟩

/-- No query starts in what is filled in. -/
theorem no_query (fits : params.Fits parts) (reversible : Reversible parts) (isFirst : Bool) :
    '?' ∉ fillTokens params.value? isFirst parts := by
  have literals : ∀ text, Token.literal text ∈ parts → '?' ∉ text :=
    fun text member => reversible.literals _ member rfl
  refine not_mem_fillTokens rfl literals (fun p member value given => ?_) isFirst
  obtain ⟨type, typed, _⟩ := reversible.typed p member
  exact (fits.values p member type typed value given).2.2

end Params.Fits

theorem pathOf?_append {base path : Text} (baseFree : '?' ∉ base) (pathFree : '?' ∉ path) :
    pathOf? base (base ++ path) = some path := by
  rw [pathOf?, Text.before_append baseFree, Text.before_of_free pathFree]
  simp

/-- A registered name belongs to a route of the table. -/
theorem Router.Sound.exists_route [Unicode.Names] {τ : Type} {router : Router τ}
    (sound : router.Sound) {name pattern : Text}
    (registered : router.named.lookup name = some pattern) :
    ∃ earlier route later, router.routes = earlier ++ route :: later ∧
      route.name = some name ∧ route.pattern = pattern := by
  have entry : (name, pattern) ∈ router.named := by
    obtain ⟨before, after, whole, _⟩ := List.lookup_eq_some_iff.mp registered
    exact whole ▸ List.mem_append_right before List.mem_cons_self
  rw [sound.index] at entry
  obtain ⟨route, member, same⟩ := List.mem_filterMap.mp entry
  obtain ⟨_, named, same⟩ := Option.map_eq_some_iff.mp same
  cases same
  obtain ⟨earlier, later, whole⟩ := List.append_of_mem member
  exact ⟨earlier, route, later, whole, named, rfl⟩

/-- What fitting parameters are filled into is matched by the pattern, with the parameters. -/
theorem matchPattern?_fillTokens [Unicode.Names] {pattern : Text} {parts : List Token}
    {params : Params} {compiler : Compiler} (coherent : compiler.Coherent)
    (tame : compiler.resolver.KeepsTame) (notRaw : isRaw pattern = false)
    (read : tokens pattern = .ok parts) (reversible : Reversible parts) (fits : params.Fits parts) :
    ∃ found, (matchPattern? pattern (fillTokens params.value? true parts) compiler).1 =
      .ok (some found) ∧ found.Perm params := by
  have filled := fits.supply.filled reversible.distinct reversible.identifiers reversible.typed
  have special : pattern ≠ catchAll := by
    rintro rfl
    have literal : tokens catchAll = .ok [.literal catchAll] := by decide
    obtain rfl := Except.ok.inj (read.symm.trans literal)
    exact reversible.placeholder rfl
  refine ⟨_, ?_, fits.supply.perm reversible.distinct⟩
  rw [matchPattern?_eq_matchTokens? coherent notRaw read
    (fun p member => tame.builtin (reversible.typed p member))
    (identifiers_namesOf reversible.identifiers) (reversible.distinct.filter _) (absurd · special),
    matchTokens?_fillTokens reversible.delimited filled true]

namespace Router

variable {τ : Type}

/-- **A generated URL is found again.** Take a router that an application can get to, whose table
still has the fragments of the types without separators and whose base path holds no query.  For a
name that is registered with a reversible pattern, and for parameters that fit it, the router
generates a URL.  Then take a request for that URL with a method that the filter of the route
admits.  If trying the routes before it does not fail, the request has a hit: one of the routes
before it if any of them has a hit, and otherwise the route itself with the parameters. -/
theorem request_generate [Unicode.Names] {router : Router τ} (reached : router.Reachable)
    (tame : router.config.compiler.resolver.KeepsTame) (base : '?' ∉ router.config.basePath)
    {name pattern : Text} (registered : router.named.lookup name = some pattern)
    (notRaw : isRaw pattern = false) {parts : List Token} (read : tokens pattern = .ok parts)
    (reversible : Reversible parts) {params : Params} (fits : params.Fits parts) :
    ∃ earlier route later url path, router.routes = earlier ++ route :: later ∧
      route.name = some name ∧ route.pattern = pattern ∧
      router.generate name params.value? = .ok url ∧
      pathOf? router.config.basePath url = some path ∧
      ∀ method, admits router.config.exactMethods route.methods method = true →
        ∀ tried, (Route.firstHit router.config.exactMethods method path earlier
          router.compiler).1 = .ok tried →
        ∃ hit, (router.request method url).1 = .ok (some hit) ∧
          (tried = some hit ∧ hit.route ∈ earlier ∨
            tried = none ∧ hit.route = route ∧ hit.params.Perm params) := by
  have sound := reached.sound
  obtain ⟨earlier, route, later, table, named, rfl⟩ := sound.exists_route registered
  let path := fillTokens params.value? true parts
  have inside : pathOf? router.config.basePath (router.config.basePath ++ path) = some path :=
    pathOf?_append base (fits.no_query reversible true)
  refine ⟨earlier, route, later, router.config.basePath ++ path, path, table, named, rfl, ?_,
    inside, fun method admitted tried quiet => ?_⟩
  · simp [generate, registered, notRaw, buildUrl, tokensOrFault, read, Except.mapError, Except.map,
      path]
  have requested : (router.request method (router.config.basePath ++ path)).1 =
      (Route.firstHit router.config.exactMethods method path (earlier ++ route :: later)
        router.compiler).1 := by
    rw [request, inside, table]
  rw [requested, Route.firstHit_append]
  have used := (Route.grown_firstHit router.config.exactMethods method path earlier
    router.compiler).later
  -- The earlier routes may have had their patterns compiled, which the compiler has kept.
  cases tried with
  | some hit =>
      refine ⟨hit, ?_, .inl ⟨rfl, Route.mem_of_firstHit quiet⟩⟩
      split
      · next outcome =>
        rw [outcome] at quiet
        cases quiet
      · exact quiet
  | none =>
      obtain ⟨found, matched, same⟩ := matchPattern?_fillTokens (used.coherent sound.coherent)
        (used.resolver.trans sound.resolver ▸ tame) notRaw read reversible fits
      refine ⟨⟨route, found⟩, ?_, .inr ⟨rfl, rfl, same⟩⟩
      split
      · next after outcome =>
        rw [outcome] at matched
        rw [Route.firstHit, Route.match?, if_pos admitted]
        rcases accepted : matchPattern? route.pattern path after with ⟨result, last⟩
        rw [accepted] at matched
        cases matched
        rfl
      · next other => exact (other _ (Prod.ext quiet rfl)).elim

/-- A router with a literal route before a named one that has two placeholders. -/
theorem request_generate_named :
    let users : Route Nat :=
      ⟨"GET|POST".toList, "/users/[a:name].[h:code]".toList, 2, some "user".toList⟩
    let params : Params := [("code".toList, "ff".toList), ("name".toList, "ada".toList)]
    let router : Router Nat :=
      { config := {}
        routes := [⟨['*'], "/about".toList, 1, none⟩, users]
        named := [("user".toList, users.pattern)]
        compiler := Config.compiler {} }
    ∃ url hit, router.generate "user".toList params.value? = .ok url ∧
      (router.request "POST".toList url).1 = .ok (some hit) ∧ hit.route = users ∧
      hit.params.Perm params := by
  intro users params router
  let parts : List Token :=
    [.literal "/users".toList, .placeholder ⟨some .slash, none, ['a'], some "name".toList, false⟩,
      .placeholder ⟨some .point, none, ['h'], some "code".toList, false⟩]
  have reversible : Reversible parts :=
    ⟨by decide, by decide, by decide, by decide, by decide, by decide,
      show Placeholder.separator _ ≠ [] by decide, trivial, trivial⟩
  have fits : params.Fits parts := by
    refine ⟨by decide, fun p member type typed value given => ?_⟩
    change p ∈ [_, _] at member
    rcases List.mem_pair.mp member with rfl | rfl <;>
      (cases typed; cases given; exact ⟨by decide, List.all_eq_true.mp (by decide), by decide⟩)
  let settings : Settings Nat :=
    { routes := .entries [.route ⟨['*'], "/about".toList, 1, none⟩, .route users] }
  have made : build settings = .ok router := by decide +kernel
  have registered : router.named.lookup "user".toList = some users.pattern := rfl
  have read : tokens users.pattern = .ok parts := by decide
  obtain ⟨earlier, route, later, url, path, table, named, _, generated, found, answers⟩ :=
    request_generate (.built made) (keepsTame_new true) (by decide) registered rfl read reversible fits
  have split : earlier = [⟨['*'], "/about".toList, 1, none⟩] ∧ route = users := by
    rcases earlier with _ | ⟨first, _ | ⟨second, rest⟩⟩
    · cases table
      cases named
    · cases table
      exact ⟨rfl, rfl⟩
    · injection table with _ table
      injection table with _ table
      cases rest <;> cases table
  obtain ⟨rfl, rfl⟩ := split
  have written : router.generate "user".toList params.value? = .ok "/users/ada.ff".toList := by
    decide
  have stripped : pathOf? router.config.basePath "/users/ada.ff".toList =
      some "/users/ada.ff".toList := by decide
  obtain rfl := Except.ok.inj (written.symm.trans generated)
  obtain rfl := Option.some.inj (stripped.symm.trans found)
  obtain ⟨hit, answer, taken⟩ := answers "POST".toList (by decide) none (by rfl)
  rcases taken with ⟨impossible, _⟩ | ⟨_, same, perm⟩
  · cases impossible
  · exact ⟨_, hit, generated, answer, same, perm⟩

end Router

end Signpost

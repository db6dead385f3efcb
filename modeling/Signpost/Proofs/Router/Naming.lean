import Signpost.Proofs.Pattern.Filling
import Signpost.Proofs.Router.Rebuilding

/-!
# The names of a router's routes

The table of a router and its index of names say the same, whatever has been done to the router and
whatever has failed: names are distinct and not empty, and the index has the patterns of the named
routes in the order of the table.  So what `Router.generate` answers can be told from the table
alone (`Router.generate_of_reachable`).
-/

namespace Signpost

theorem checkPattern_eq_ok {pattern : Text} (readable : Router.checkPattern pattern = .ok ())
    (notRaw : isRaw pattern = false) : ∃ parts, tokens pattern = .ok parts := by
  rw [Router.checkPattern, notRaw, if_neg Bool.false_ne_true] at readable
  obtain ⟨parts, read, _⟩ := map_eq_ok readable
  exact ⟨parts, mapError_eq_ok read⟩

/-- A pattern with tokens always gives a URL. -/
theorem buildUrl_of_tokens {pattern : Text} {parts : List Token} (read : tokens pattern = .ok parts)
    (base : Text) (values : Text → Option Text) :
    buildUrl base pattern values = .ok (base ++ fillTokens values true parts) := by
  rw [buildUrl, tokensOrFault, read]
  rfl

namespace Router

variable {τ : Type} {router : Router τ}

theorem names_indexOf (routes : List (Route τ)) :
    (indexOf routes).map Prod.fst = routes.filterMap Route.name := by
  rw [indexOf, List.map_filterMap]
  congr 1
  funext route
  cases route.name <;> simp

theorem mem_indexOf {routes : List (Route τ)} {entry : Text × Text} :
    entry ∈ indexOf routes ↔
      ∃ route ∈ routes, route.name = some entry.1 ∧ route.pattern = entry.2 := by
  obtain ⟨name, pattern⟩ := entry
  simp [indexOf]

namespace Sound

variable [Unicode.Names]

/-- A name that is not in the table is not in the index. -/
theorem lookup_of_unknown (sound : router.Sound) {name : Text}
    (unknown : ∀ route ∈ router.routes, route.name ≠ some name) :
    router.named.lookup name = none := by
  rw [List.lookup_eq_none_iff]
  intro entry member
  rw [show router.named = indexOf router.routes from sound.index] at member
  obtain ⟨route, inside, named, _⟩ := mem_indexOf.mp member
  simpa using fun same : name = entry.1 => unknown route inside (same ▸ named)

/-- The index has the pattern of the one route with a name. -/
theorem lookup_of_named (sound : router.Sound) {route : Route τ} (member : route ∈ router.routes)
    {name : Text} (named : route.name = some name) :
    router.named.lookup name = some route.pattern := by
  have entry : (name, route.pattern) ∈ router.named := by
    rw [show router.named = indexOf router.routes from sound.index]
    exact mem_indexOf.mpr ⟨route, member, named, rfl⟩
  exact Params.value?_of_mem sound.distinct entry

variable (values : Text → Option Text)

theorem generate_of_unknown (sound : router.Sound) {name : Text}
    (unknown : ∀ route ∈ router.routes, route.name ≠ some name) :
    router.generate name values = .error (.unknownRoute name) := by
  rw [generate, sound.lookup_of_unknown unknown]

theorem generate_of_raw (sound : router.Sound) {route : Route τ} (member : route ∈ router.routes)
    {name : Text} (named : route.name = some name) (raw : isRaw route.pattern = true) :
    router.generate name values = .error (.invalidPattern route.pattern .irreversible) := by
  rw [generate, sound.lookup_of_named member named]
  exact if_pos raw

theorem generate_of_reversible (sound : router.Sound) {route : Route τ}
    (member : route ∈ router.routes) {name : Text} (named : route.name = some name)
    (notRaw : isRaw route.pattern = false) :
    ∃ url, buildUrl router.config.basePath route.pattern values = .ok url ∧
      router.generate name values = .ok url := by
  obtain ⟨parts, read⟩ := checkPattern_eq_ok (sound.readable route member) notRaw
  have built := buildUrl_of_tokens read router.config.basePath values
  refine ⟨_, built, ?_⟩
  rw [generate, sound.lookup_of_named member named, ← built]
  exact if_neg (by simp [notRaw])

theorem generate_unknown_iff (sound : router.Sound) (name : Text) :
    (∃ other, router.generate name values = .error (.unknownRoute other)) ↔
      ∀ route ∈ router.routes, route.name ≠ some name := by
  constructor
  · rintro ⟨other, refused⟩ route member named
    cases raw : isRaw route.pattern with
    | true =>
        rw [sound.generate_of_raw values member named raw] at refused
        cases refused
    | false =>
        obtain ⟨url, _, generated⟩ := sound.generate_of_reversible values member named raw
        rw [generated] at refused
        cases refused
  · intro unknown
    exact ⟨name, sound.generate_of_unknown values unknown⟩

theorem generate_invalid_iff (sound : router.Sound) (name : Text) :
    (∃ pattern flaw, router.generate name values = .error (.invalidPattern pattern flaw)) ↔
      ∃ route ∈ router.routes, route.name = some name ∧ isRaw route.pattern = true := by
  constructor
  · rintro ⟨pattern, flaw, refused⟩
    by_contra none
    simp only [not_exists, not_and, Bool.not_eq_true] at none
    by_cases known : ∃ route ∈ router.routes, route.name = some name
    · obtain ⟨route, member, named⟩ := known
      obtain ⟨url, _, generated⟩ :=
        sound.generate_of_reversible values member named (none route member named)
      rw [generated] at refused
      cases refused
    · simp only [not_exists, not_and] at known
      rw [sound.generate_of_unknown values known] at refused
      cases refused
  · rintro ⟨route, member, named, raw⟩
    exact ⟨_, _, sound.generate_of_raw values member named raw⟩

end Sound

/-- **Table and index agree, and a URL is generated from the table.** In every router that an
application can get to, route names are distinct and not empty, the index has the patterns of the
named routes in the order of the table, and every pattern that is no regular expression itself has
tokens.  Asked for the URL of a name, the router says that the route is unknown exactly if no route
has the name, and that the pattern is invalid exactly if a route with the name has a regular
expression for its pattern; in all other cases it gives the URL that is built from the pattern of
that route and the present base path. -/
theorem generate_of_reachable [Unicode.Names] (reached : router.Reachable) :
    (router.routes.filterMap Route.name).Nodup ∧
    (∀ route ∈ router.routes, route.name ≠ some []) ∧
    router.named = indexOf router.routes ∧
    (∀ route ∈ router.routes, isRaw route.pattern = false →
      ∃ parts, tokens route.pattern = .ok parts) ∧
    ∀ name values,
      ((∃ other, router.generate name values = .error (.unknownRoute other)) ↔
        ∀ route ∈ router.routes, route.name ≠ some name) ∧
      ((∃ pattern flaw, router.generate name values = .error (.invalidPattern pattern flaw)) ↔
        ∃ route ∈ router.routes, route.name = some name ∧ isRaw route.pattern = true) ∧
      ∀ route ∈ router.routes, route.name = some name → isRaw route.pattern = false →
        ∃ url, buildUrl router.config.basePath route.pattern values = .ok url ∧
          router.generate name values = .ok url := by
  have sound := reached.sound
  have index : router.named = indexOf router.routes := sound.index
  have names : router.named.map Prod.fst = router.routes.filterMap Route.name := by
    rw [index, names_indexOf]
  refine ⟨names ▸ sound.distinct, ?given, index, ?readable, fun name values =>
    ⟨sound.generate_unknown_iff values name, sound.generate_invalid_iff values name,
      fun route member => sound.generate_of_reversible values member⟩⟩
  case given =>
    intro route member empty
    have listed : [] ∈ router.named.map Prod.fst := by
      rw [names]
      exact List.mem_filterMap.mpr ⟨route, member, empty⟩
    exact sound.given [] listed rfl
  case readable =>
    intro route member
    exact checkPattern_eq_ok (sound.readable route member)

/-- After a name that is taken, a stray bracket in the middle of a batch and a new base path. -/
theorem generate_of_reachable_after_faults :
    let route (pattern : String) (target : Nat) (name : Option Text) : Entry Nat :=
      .route ⟨['*'], pattern.toList, target, name⟩
    let built : Router Nat := { config := {}, compiler := Config.compiler {} }
    let router := (built.run {} [
      .add (route "/u/[i:id]" 1 (some ['u'])),
      .add (route "/v" 2 (some ['u'])),
      .addAll (.entries [route "@/x" 3 (some ['x']), route "/y[" 4 (some ['y']),
        route "/z" 5 (some ['z'])]),
      .add (route "/w" 6 (some [])),
      .setBasePath "/app".toList]).2
    let values : Text → Option Text := fun name => if name = "id".toList then some ['7'] else none
    router.named = [(['u'], "/u/[i:id]".toList), (['x'], "@/x".toList)] ∧
      (∃ other, router.generate ['y'] values = .error (.unknownRoute other)) ∧
      (∃ pattern flaw, router.generate ['x'] values = .error (.invalidPattern pattern flaw)) ∧
      router.generate ['u'] values = .ok "/app/u/7".toList := by
  intro route built router values
  have made : build (τ := Nat) {} = .ok built := rfl
  have table : router.routes = [⟨['*'], "/u/[i:id]".toList, 1, some ['u']⟩,
      ⟨['*'], "@/x".toList, 3, some ['x']⟩, ⟨['*'], "/w".toList, 6, none⟩] := by decide +kernel
  obtain ⟨_, _, index, _, answers⟩ := generate_of_reachable ((Reachable.built made).run {} _)
  refine ⟨index.trans (by rw [table]; rfl), (answers ['y'] values).1.mpr ?_,
    (answers ['x'] values).2.1.mpr ?_, ?_⟩
  · rw [table]
    decide
  · rw [table]
    decide
  · obtain ⟨url, written, generated⟩ := (answers ['u'] values).2.2
      ⟨['*'], "/u/[i:id]".toList, 1, some ['u']⟩ (by rw [table]; exact List.mem_cons_self) rfl rfl
    have base : router.config.basePath = "/app".toList := by decide +kernel
    rw [base] at written
    rw [generated, ← written]
    decide +kernel

end Router

end Signpost

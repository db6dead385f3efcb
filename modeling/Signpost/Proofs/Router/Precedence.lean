import Mathlib.Data.List.Basic
import Signpost.Proofs.Router.Reachable

/-!
# Precedence of routes

A request is answered by the first route that accepts it, and for good: routes that are registered
later come after it.  `Router.Extends` says what registering, compiling and serving do to a router,
whether they succeed or fail: the settings stay and the table only grows at its end.
-/

namespace Signpost

variable {τ : Type}

/-- Whether an operation leaves the base path and the match types alone. -/
def Operation.keepsSettings : Operation τ → Bool
  | .setBasePath _ | .addMatchTypes _ => false
  | .add _ | .addAll _ | .compile | .request _ _ | .generate _ _ => true

namespace Router

/-- The second router has the settings of the first one and its routes, perhaps with more routes
after them. -/
structure Extends (before after : Router τ) : Prop where
  config : after.config = before.config
  table : ∃ added, after.routes = before.routes ++ added

namespace Extends

theorem refl (router : Router τ) : Extends router router :=
  ⟨rfl, [], (List.append_nil _).symm⟩

theorem trans {first second third : Router τ} (one : Extends first second)
    (two : Extends second third) : Extends first third := by
  obtain ⟨sameOne, added, tableOne⟩ := one
  obtain ⟨sameTwo, more, tableTwo⟩ := two
  exact ⟨sameTwo.trans sameOne, added ++ more, by rw [tableTwo, tableOne, List.append_assoc]⟩

variable (router : Router τ)

theorem addRoute (route : Route τ) : Extends router (router.addRoute route).2 := by
  unfold Router.addRoute
  dsimp only
  split
  · exact refl router
  split
  · split
    · exact refl router
    · exact ⟨rfl, _, rfl⟩
  · exact ⟨rfl, _, rfl⟩

theorem addEntry (entry : Entry τ) : Extends router (router.addEntry entry).2 := by
  cases entry with
  | route route => exact addRoute router route
  | misfit flaw => exact refl router

theorem addEntries (entries : List (Entry τ)) : Extends router (router.addEntries entries).2 := by
  induction entries generalizing router with
  | nil => exact refl router
  | cons entry others ih =>
      have added := addEntry router entry
      unfold Router.addEntries
      split
      · next outcome => rwa [outcome] at added
      · next after outcome =>
          rw [outcome] at added
          exact added.trans (ih after)

theorem addBatch (batch : Batch τ) : Extends router (router.addBatch batch).2 := by
  cases batch with
  | entries items => exact addEntries router items
  | other typeName => exact refl router

variable [Unicode.Names]

theorem request (method url : Text) : Extends router (router.request method url).2 := by
  unfold Router.request
  split
  · exact refl router
  · exact ⟨rfl, [], (List.append_nil _).symm⟩

theorem perform (around : Surroundings) {operation : Operation τ}
    (keeps : operation.keepsSettings = true) :
    Extends router (router.perform around operation).2 := by
  cases operation with
  | add entry => exact addEntry router entry
  | addAll batch => exact addBatch router batch
  | setBasePath basePath => cases keeps
  | addMatchTypes types => cases keeps
  | compile => exact ⟨rfl, [], (List.append_nil _).symm⟩
  | request method url => exact request router _ _
  | generate name values => exact refl router

/-- A run that leaves the settings alone only adds routes at the end of the table, whichever of its
operations fail. -/
theorem run (around : Surroundings) {operations : List (Operation τ)}
    (keep : ∀ operation ∈ operations, operation.keepsSettings = true) :
    Extends router (router.run around operations).2 := by
  induction operations generalizing router with
  | nil => exact refl router
  | cons operation others ih =>
      rw [List.forall_mem_cons] at keep
      exact (perform router around keep.1).trans (ih _ keep.2)

end Extends

/-- What a route answers to a path by itself: the answer of a compiler that has compiled nothing
yet. -/
def alone [Unicode.Names] (router : Router τ) (route : Route τ) (method path : Text) :
    Except Fault (Option Params) :=
  (route.match? router.config.exactMethods method path router.config.compiler).1

namespace Sound

variable {router : Router τ}

variable [Unicode.Names]

/-- A request inside the base path is answered by a search that starts with nothing compiled. -/
theorem request_fst (sound : router.Sound) (method url : Text) :
    (router.request method url).1 =
      match pathOf? router.config.basePath url with
      | none => .ok none
      | some path => (Route.firstHit router.config.exactMethods method path router.routes
          router.config.compiler).1 := by
  unfold Router.request
  cases pathOf? router.config.basePath url with
  | none => rfl
  | some path =>
      exact Route.firstHit_fst_congr _ _ _ _ sound.coherent (Compiler.coherent_new _ _)
        sound.resolver

/-- A request hits the first route that accepts its path by itself. -/
theorem request_eq_some_iff (sound : router.Sound) {method url : Text} {hit : Hit τ} :
    (router.request method url).1 = .ok (some hit) ↔
      ∃ path, pathOf? router.config.basePath url = some path ∧
        ∃ earlier later, router.routes = earlier ++ hit.route :: later ∧
          router.alone hit.route method path = .ok (some hit.params) ∧
          ∀ other ∈ earlier, router.alone other method path = .ok none := by
  rw [sound.request_fst]
  cases pathOf? router.config.basePath url with
  | none => simp
  | some path =>
      simp only [Option.some.injEq, exists_eq_left']
      exact Route.firstHit_eq_some_iff

variable {after : Router τ} {method url : Text} {hit : Hit τ}

/-- A router that extends another one hits what the other one hits. -/
theorem request_of_extends (sound : router.Sound) (soundAfter : after.Sound)
    (extended : Extends router after)
    (found : (router.request method url).1 = .ok (some hit)) :
    (after.request method url).1 = .ok (some hit) := by
  obtain ⟨path, inside, earlier, later, table, accepted, rejected⟩ :=
    sound.request_eq_some_iff.mp found
  obtain ⟨same, added, grown⟩ := extended
  rw [soundAfter.request_eq_some_iff, same]
  refine ⟨path, inside, earlier, later ++ added, ?_, ?_, ?_⟩
  · rw [grown, table, List.append_assoc, List.cons_append]
  · rwa [alone, same]
  · intro other member
    rw [alone, same]
    exact rejected other member

/-- Where a router hits nothing, one that extends it hits nothing but a route that it has in
addition. -/
theorem request_added (sound : router.Sound) (soundAfter : after.Sound)
    (extended : Extends router after) (missed : (router.request method url).1 = .ok none)
    (found : (after.request method url).1 = .ok (some hit)) :
    ∃ earlier later, after.routes = router.routes ++ (earlier ++ hit.route :: later) := by
  obtain ⟨same, added, grown⟩ := extended
  rw [sound.request_fst] at missed
  rw [soundAfter.request_fst, same] at found
  cases place : pathOf? router.config.basePath url with
  | none =>
      rw [place] at found
      cases found
  | some path =>
      rw [place] at missed found
      dsimp only at missed found
      rw [grown, Route.firstHit_append_fst, missed] at found
      obtain ⟨earlier, later, parted⟩ := List.append_of_mem (Route.mem_of_firstHit found)
      exact ⟨earlier, later, by rw [grown, parted]⟩

end Sound

/-- **The first route that accepts a request answers it, and for good.** Take any router that an
application can get to and any request.

The router hits a route with parameters exactly if the URL lies in the base path, the route by
itself accepts the path with these parameters, and each route before it rejects the path without a
fault.  After any run that leaves base path and match types alone, whatever is added, compiled,
requested or fails in it, a request that hit a route hits the same route with the same parameters,
and a request that hit none hits none or a route that the run has added. -/
theorem request_precedence [Unicode.Names] {router : Router τ} (reached : router.Reachable)
    (method url : Text) :
    (∀ route params, (router.request method url).1 = .ok (some ⟨route, params⟩) ↔
      ∃ path, pathOf? router.config.basePath url = some path ∧
        ∃ earlier later, router.routes = earlier ++ route :: later ∧
          router.alone route method path = .ok (some params) ∧
          ∀ other ∈ earlier, router.alone other method path = .ok none) ∧
    ∀ around operations, (∀ operation ∈ operations, operation.keepsSettings = true) →
      let after := (router.run around operations).2
      (∀ hit, (router.request method url).1 = .ok (some hit) →
        (after.request method url).1 = .ok (some hit)) ∧
      ∀ hit, (router.request method url).1 = .ok none →
        (after.request method url).1 = .ok (some hit) →
        ∃ earlier later, after.routes = router.routes ++ (earlier ++ hit.route :: later) := by
  refine ⟨fun route params => reached.sound.request_eq_some_iff, ?_⟩
  intro around operations keep after
  have soundAfter : after.Sound := (reached.run around operations).sound
  have extended : Extends router after := Extends.run router around keep
  exact ⟨fun hit => reached.sound.request_of_extends soundAfter extended,
    fun hit => reached.sound.request_added soundAfter extended⟩

/-- A path with two routes that accept it and a path with none, before and after a batch of which
only the first item can be added. -/
theorem request_precedence_partial_batch :
    let user : Route Nat := ⟨['*'], "/u/[i:id]".toList, 1, some ['u']⟩
    let late : Route Nat := ⟨['*'], "/[a:page]".toList, 3, none⟩
    let built : Router Nat :=
      { config := {}, routes := [user, ⟨['*'], "/u/[:tag]".toList, 2, none⟩],
        named := [(['u'], user.pattern)], compiler := Config.compiler {} }
    let batch : Batch Nat :=
      .entries [.route late, .misfit .wrongShape, .route ⟨['*'], "/w".toList, 4, none⟩]
    let operations : List (Operation Nat) := [.addAll batch,
      .request (some ['G']) (some "/u/12".toList), .add (.route { late with name := some ['u'] }),
      .compile]
    let after := (built.run {} operations).2
    (∀ operation ∈ operations, operation.keepsSettings = true) ∧
      (after.request ['G'] "/u/12".toList).1 =
        .ok (some ⟨user, [("id".toList, "12".toList)]⟩) ∧
      (built.request ['G'] "/w".toList).1 = .ok none ∧
      ∃ earlier later, after.routes = built.routes ++ (earlier ++ late :: later) := by
  intro user late built batch operations after
  have made : build (τ := Nat)
      { routes := .entries [.route user, .route ⟨['*'], "/u/[:tag]".toList, 2, none⟩] } =
        .ok built := by decide +kernel
  have keep : ∀ operation ∈ operations, operation.keepsSettings = true := by decide +kernel
  have missed : (built.request ['G'] "/w".toList).1 = .ok none := by decide +kernel
  obtain ⟨_, onUser⟩ := request_precedence (.built made) ['G'] "/u/12".toList
  obtain ⟨_, onPage⟩ := request_precedence (.built made) ['G'] "/w".toList
  refine ⟨keep, ?_, missed, ?_⟩
  · exact (onUser {} operations keep).1 _ (by decide +kernel)
  · exact (onPage {} operations keep).2 ⟨late, [("page".toList, ['w'])]⟩ missed
      (by decide +kernel)

end Router

end Signpost

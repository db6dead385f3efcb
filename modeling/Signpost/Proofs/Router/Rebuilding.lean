import Mathlib.Data.List.Basic
import Signpost.Proofs.Router.Reachable

/-!
# Routers built anew

What a router has compiled so far shows in none of its answers: a router that is built anew from the
present configuration and the present routes answers every request alike
(`Router.request_eq_rebuilt`).  Building it cannot fail, since the routes of a table can be added to
an empty one in their order (`Router.addEntries_of_fresh`).
-/

namespace Signpost

namespace Router

variable {τ : Type}

/-- The names of routes with their patterns. -/
def indexOf (routes : List (Route τ)) : List (Text × Text) :=
  routes.filterMap fun route => route.name.map fun name => (name, route.pattern)

theorem indexOf_cons (route : Route τ) (others : List (Route τ)) :
    indexOf (route :: others) =
      (route.name.map fun name => (name, route.pattern)).toList ++ indexOf others := by
  cases named : route.name <;> simp [indexOf, named]

/-- A route is added as it is if its pattern can be read and its name is neither empty nor taken. -/
theorem addRoute_of_fresh {router : Router τ} {route : Route τ}
    (readable : checkPattern route.pattern = .ok ())
    (given : ∀ name, route.name = some name → name ≠ [])
    (fresh : ∀ name, route.name = some name → router.named.lookup name = none) :
    router.addRoute route = (.ok route, router.append route) := by
  have kept : givenName route.name = route.name := by
    cases named : route.name with
    | none => rfl
    | some name =>
        have present : name.isEmpty = false := by simpa using given name named
        simp [givenName, Option.filter, present]
  rw [addRoute, readable]
  dsimp only
  rw [kept]
  cases named : route.name with
  | none =>
      dsimp only
      rw [← named]
  | some name =>
      dsimp only
      rw [fresh name named, ← named]
      rfl

/-- Routes are added as they are if their patterns can be read and their names are distinct, and
neither empty nor taken. -/
theorem addEntries_of_fresh {router : Router τ} {routes : List (Route τ)}
    (readable : ∀ route ∈ routes, checkPattern route.pattern = .ok ())
    (given : ∀ name ∈ (indexOf routes).map Prod.fst, name ≠ [])
    (distinct : (router.named.map Prod.fst ++ (indexOf routes).map Prod.fst).Nodup) :
    router.addEntries (routes.map .route) = (.ok (), { router with
      routes := router.routes ++ routes
      named := router.named ++ indexOf routes }) := by
  induction routes generalizing router with
  | nil => simp [addEntries, indexOf]
  | cons route others ih =>
      rw [indexOf_cons, List.map_append] at given distinct
      have named : ∀ name, route.name = some name →
          name ∈ ((route.name.map fun name => (name, route.pattern)).toList).map Prod.fst := by
        intro name same
        simp [same]
      have added : router.addRoute route = (.ok route, router.append route) := by
        apply addRoute_of_fresh
        · exact readable route List.mem_cons_self
        · intro name same
          exact given name (List.mem_append_left _ (named name same))
        · intro name same
          rw [List.lookup_eq_none_iff]
          intro entry member
          have apart := (List.nodup_append.mp distinct).2.2 entry.1 (List.mem_map_of_mem member)
            name (List.mem_append_left _ (named name same))
          simpa using Ne.symm apart
      rw [List.map_cons, addEntries, addEntry, added]
      dsimp only
      rw [ih]
      · simp [append, indexOf_cons]
      · exact fun other member => readable other (List.mem_cons_of_mem route member)
      · exact fun name member => given name (List.mem_append_right _ member)
      · rw [append, List.map_append, List.append_assoc]
        exact distinct

/-- The routes of a sound router can be added to one without routes. -/
theorem build_of_sound [Unicode.Names] {router : Router τ} (sound : router.Sound) :
    build { config := router.config, routes := .entries (router.routes.map .route) } =
      .ok { router with compiler := router.config.compiler } := by
  have index : indexOf router.routes = router.named := sound.index.symm
  have given : ∀ name ∈ (indexOf router.routes).map Prod.fst, name ≠ [] := by
    rw [index]
    exact sound.given
  have distinct : ((ofConfig router.config : Router τ).named.map Prod.fst ++
      (indexOf router.routes).map Prod.fst).Nodup := by
    rw [index]
    exact sound.distinct
  have added := addEntries_of_fresh sound.readable given distinct
  rw [index] at added
  unfold build
  split
  next failed => cases added.symm.trans failed
  next done =>
    cases added.symm.trans done
    rfl

/-- **What a router has compiled shows in none of its answers.** Take any router that an application
can get to.  A router can be built from its configuration and its routes, and for every request the
two give the same hit, the same lack of one, or the same fault, although the new one has compiled
nothing yet.  For the compiler of the first router resolves types by its present configuration, what
it has kept is what compiling gives under this configuration, and it keeps no pattern that cannot be
compiled. -/
theorem request_eq_rebuilt [Unicode.Names] {router : Router τ} (reached : router.Reachable) :
    (∃ rebuilt, build { config := router.config, routes := .entries (router.routes.map .route) } =
        .ok rebuilt ∧
      rebuilt.config = router.config ∧ rebuilt.routes = router.routes ∧
      rebuilt.compiler.kept = [] ∧
      ∀ method url, (router.request method url).1 = (rebuilt.request method url).1) ∧
    router.compiler.resolver =
      ⟨MatchTypes.builtin.overlay router.config.matchTypes, router.config.strictMatchTypes⟩ ∧
    (∀ entry ∈ router.compiler.kept,
      compilePattern router.compiler.resolver entry.1 = .ok entry.2) ∧
    ∀ pattern fault, compilePattern router.compiler.resolver pattern = .error fault →
      pattern ∉ router.compiler.kept.map Prod.fst := by
  have sound := reached.sound
  obtain ⟨resolver, added, kept, compiled⟩ := reached.current
  have faithful : ∀ entry ∈ router.compiler.kept,
      compilePattern router.compiler.resolver entry.1 = .ok entry.2 := by
    intro entry member
    rw [resolver]
    rw [kept] at member
    exact compiled entry ((List.mem_append.mp member).resolve_left List.not_mem_nil)
  refine ⟨⟨_, build_of_sound sound, rfl, rfl, rfl, fun method url => ?_⟩, resolver, faithful, ?_⟩
  · unfold request
    cases pathOf? router.config.basePath url with
    | none => rfl
    | some path =>
        exact Route.firstHit_fst_congr router.config.exactMethods method path router.routes
          sound.coherent (Compiler.coherent_new _ _) sound.resolver
  · intro pattern fault failed member
    obtain ⟨entry, inside, rfl⟩ := List.mem_map.mp member
    have form := faithful entry inside
    rw [failed] at form
    cases form

/-- The type `i` is replaced after a path has been matched with it. -/
theorem request_eq_rebuilt_replaced_type :
    let route : Route Nat := ⟨['*'], "/u/[i:id]".toList, 1, none⟩
    let built : Router Nat := { config := {}, routes := [route], compiler := Config.compiler {} }
    let router := (built.run {} [.request (some ['G']) (some "/u/12".toList),
      .addMatchTypes [(['i'], some "[0-9]".toList)], .compile]).2
    ∃ rebuilt,
      build { config := router.config, routes := .entries (router.routes.map .route) } =
          .ok rebuilt ∧
        (built.request ['G'] "/u/12".toList).1 = .ok (some ⟨route, [("id".toList, "12".toList)]⟩) ∧
        (rebuilt.request ['G'] "/u/12".toList).1 = .ok none := by
  intro route built router
  have made : build { routes := .entries [.route route] } = .ok built := rfl
  obtain ⟨rebuilt, rebuiltMade, _, _, _, answers⟩ :=
    (request_eq_rebuilt ((Reachable.built made).run {} _)).1
  refine ⟨rebuilt, rebuiltMade, by decide +kernel, ?_⟩
  rw [← answers]
  decide +kernel

end Router

end Signpost

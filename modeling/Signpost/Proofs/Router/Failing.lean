import Signpost.Proofs.Router.Agreement
import Signpost.Router.Unchecked

/-!
# Failing operations

An operation that fails leaves no trace in a router (`Router.failing_operations_leave_no_trace`),
except that it may have compiled patterns on the way and that a route list has had its items added
up to the one that fails.  So a router is always one that its successful operations alone have led
to (`Router.exists_successes`).
-/

namespace Signpost

variable {τ : Type}

namespace Router

/-- The second router has the routes, the names, the configuration and the effective types of the
first one, and it has kept what the first one has compiled. -/
structure Intact (before after : Router τ) : Prop where
  routes : after.routes = before.routes
  named : after.named = before.named
  config : after.config = before.config
  types : after.compiler.resolver.types = before.compiler.resolver.types
  strict : after.compiler.resolver.strict = before.compiler.resolver.strict
  kept : before.compiler.kept <+: after.compiler.kept

namespace Intact

variable {before after : Router τ}

theorem refl (router : Router τ) : Intact router router :=
  ⟨rfl, rfl, rfl, rfl, rfl, List.prefix_refl _⟩

theorem agree (intact : Intact before after) : Agree before after :=
  ⟨intact.routes, intact.named, intact.config⟩

variable [Unicode.Names]

/-- Using the compiler leaves a router intact. -/
theorem withCompiler {compiler : Compiler} (grown : Compiler.Grown before.compiler compiler) :
    Intact before { before with compiler := compiler } where
  routes := rfl
  named := rfl
  config := rfl
  types := congrArg Resolver.types grown.resolver
  strict := congrArg Resolver.strict grown.resolver
  kept := by
    obtain ⟨_, added, kept, _⟩ := grown
    exact ⟨added, kept.symm⟩

theorem compile (router : Router τ) : Intact router router.compile.2 :=
  withCompiler (Route.grown_compileAll router.routes router.compiler)

theorem request (router : Router τ) (method url : Text) :
    Intact router (router.request method url).2 := by
  unfold Router.request
  split
  · exact refl router
  · exact withCompiler (Route.grown_firstHit _ _ _ _ _)

end Intact

variable {router : Router τ} {fault : Fault}

theorem addRoute_error {route : Route τ} (failed : (router.addRoute route).1 = .error fault) :
    (router.addRoute route).2 = router := by
  unfold addRoute at failed ⊢
  dsimp only at failed ⊢
  split
  · rfl
  next readable =>
    rw [readable] at failed
    split
    next name named =>
      rw [named] at failed
      split
      · rfl
      next free => simp [free] at failed
    next unnamed =>
      rw [unnamed] at failed
      cases failed

theorem addEntry_error {entry : Entry τ} (failed : (router.addEntry entry).1 = .error fault) :
    (router.addEntry entry).2 = router := by
  cases entry with
  | route route => exact addRoute_error failed
  | misfit flaw => rfl

/-- A route list that fails does so on its first item that cannot be added. -/
theorem addEntries_error {items : List (Entry τ)} {after : Router τ}
    (failed : router.addEntries items = (.error fault, after)) :
    ∃ earlier entry later, items = earlier ++ entry :: later ∧
      router.addEntries earlier = (.ok (), after) ∧
      after.addEntry entry = (.error fault, after) := by
  induction items generalizing router with
  | nil => cases failed
  | cons entry others ih =>
      rw [addEntries] at failed
      rcases outcome : router.addEntry entry with ⟨reason | route, next⟩
      · rw [outcome] at failed
        cases failed
        have same := addEntry_error (congrArg Prod.fst outcome)
        rw [outcome] at same
        cases same
        exact ⟨[], entry, others, rfl, rfl, outcome⟩
      · rw [outcome] at failed
        obtain ⟨earlier, stopped, later, rfl, added, refused⟩ := ih failed
        refine ⟨entry :: earlier, stopped, later, rfl, ?_, refused⟩
        rw [addEntries, outcome]
        exact added

section

variable [Unicode.Names]

/-- Adding a route list is adding its items one after the other. -/
theorem run_of_addEntries {items : List (Entry τ)} {after : Router τ} (around : Surroundings)
    (added : router.addEntries items = (.ok (), after)) :
    ∃ routes : List (Route τ),
      router.run around (items.map .add) = (routes.map fun route => .ok (.added route), after) := by
  induction items generalizing router with
  | nil =>
      cases added
      exact ⟨[], rfl⟩
  | cons entry others ih =>
      rw [addEntries] at added
      rcases outcome : router.addEntry entry with ⟨reason | route, next⟩
      · rw [outcome] at added
        cases added
      · rw [outcome] at added
        obtain ⟨routes, rest⟩ := ih added
        have first : router.perform around (.add entry) = (.ok (.added route), next) := by
          rw [perform, outcome]
          rfl
        refine ⟨route :: routes, ?_⟩
        rw [List.map_cons, run_cons, first, rest]
        rfl

/-- An operation that fails, if it does not add a route list, leaves the router intact. -/
theorem intact_of_error {around : Surroundings} {operation : Operation τ}
    (single : ∀ batch, operation ≠ .addAll batch)
    (failed : (router.perform around operation).1 = .error fault) :
    Intact router (router.perform around operation).2 := by
  cases operation with
  | add entry =>
      have same : (router.perform around (.add entry)).2 = router :=
        addEntry_error (map_eq_error failed)
      rw [same]
      exact Intact.refl router
  | addAll batch => exact absurd rfl (single batch)
  | setBasePath basePath => cases failed
  | addMatchTypes types => cases failed
  | compile => exact Intact.compile router
  | request method url => exact Intact.request router _ _
  | generate name values => exact Intact.refl router

/-- A route list that fails leaves the router that its items lead to, up to the one that fails. -/
theorem addAll_error {around : Surroundings} {items : List (Entry τ)} {after : Router τ}
    (failed : router.perform around (.addAll (.entries items)) = (.error fault, after)) :
    ∃ earlier entry later, ∃ added : List (Route τ), items = earlier ++ entry :: later ∧
      router.run around (earlier.map .add) = (added.map fun route => .ok (.added route), after) ∧
      after.perform around (.add entry) = (.error fault, after) := by
  have last : (router.addEntries items).2 = after := congrArg Prod.snd failed
  have stopped : router.addEntries items = (.error fault, after) :=
    Prod.ext (map_eq_error (congrArg Prod.fst failed)) last
  obtain ⟨earlier, entry, later, rfl, added, refused⟩ := addEntries_error stopped
  obtain ⟨routes, ran⟩ := run_of_addEntries around added
  refine ⟨earlier, entry, later, routes, rfl, ran, ?_⟩
  rw [perform, refused]
  rfl

/-- What an operation does to a router, successful operations alone do to one that agrees. -/
theorem exists_successes_of_perform {other : Router τ} (agree : Agree router other)
    (sound : router.Sound) (soundToo : other.Sound) (around : Surroundings)
    (operation : Operation τ) :
    ∃ successes, (∀ answer ∈ (other.run around successes).1, ∃ value, answer = .ok value) ∧
      Agree (router.perform around operation).2 (other.run around successes).2 := by
  rcases outcome : router.perform around operation with ⟨fault | value, after⟩
  · by_cases single : ∀ batch, operation ≠ .addAll batch
    · have intact := intact_of_error single (congrArg Prod.fst outcome)
      rw [outcome] at intact
      exact ⟨[], by simp [run], intact.agree.symm.trans agree⟩
    · obtain ⟨batch, rfl⟩ : ∃ batch, operation = .addAll batch := by simpa using single
      cases batch with
      | other typeName =>
          cases outcome
          exact ⟨[], by simp [run], agree⟩
      | entries items =>
          obtain ⟨earlier, _, _, added, _, ran, _⟩ := addAll_error outcome
          obtain ⟨answers, agreeAfter⟩ := agree.run sound soundToo around (earlier.map .add)
          rw [ran] at answers agreeAfter
          refine ⟨earlier.map .add, ?_, agreeAfter⟩
          rw [← answers]
          simp
  · obtain ⟨answer, agreeAfter⟩ := agree.perform sound soundToo around operation
    rw [outcome] at answer agreeAfter
    refine ⟨[operation], ?_, agreeAfter⟩
    rw [run_cons, ← answer]
    simp [run]

/-- **A router is one that successful operations alone have led to.** -/
theorem exists_successes {other : Router τ} (agree : Agree router other) (sound : router.Sound)
    (soundToo : other.Sound) (around : Surroundings) (operations : List (Operation τ)) :
    ∃ successes, (∀ answer ∈ (other.run around successes).1, ∃ value, answer = .ok value) ∧
      Agree (router.run around operations).2 (other.run around successes).2 := by
  induction operations generalizing router other with
  | nil => exact ⟨[], by simp [run], agree⟩
  | cons operation others ih =>
      obtain ⟨first, succeedFirst, agreeFirst⟩ :=
        exists_successes_of_perform agree sound soundToo around operation
      obtain ⟨rest, succeedRest, agreeRest⟩ :=
        ih agreeFirst (sound.perform around operation) (soundToo.run around first)
      refine ⟨first ++ rest, ?_, ?_⟩
      · rw [run_append]
        exact List.forall_mem_append.mpr ⟨succeedFirst, succeedRest⟩
      · rw [run_append]
        exact agreeRest

/-- **Failing operations leave no trace.** Take any router that an application can get to.

A single route, new match types, compiling, a request or a URL that fails leaves the routes, the
names, the configuration and the effective types as they were, and takes back nothing that has been
compiled.  Match types that are no table leave the very router that there was.  A route list that
fails leaves the very router that adding its items one by one leads to, with a success for each, up
to the first one that cannot be added; that one changes nothing, and those after it are not looked
at.  A text, or any other value without items, is no route list: it is refused with a fault of the
configuration, and nothing is registered.

So over a whole run, whichever of its operations fail, the router ends as one that operations which
all succeed have led to. -/
theorem failing_operations_leave_no_trace (reached : router.Reachable) (around : Surroundings) :
    (∀ operation fault, (∀ batch, operation ≠ .addAll batch) →
      (router.perform around operation).1 = .error fault →
        Intact router (router.perform around operation).2) ∧
    (∀ value typeName, (router.addTypesOf value).1 = .error typeName →
      (router.addTypesOf value).2 = router) ∧
    (∀ items fault after, router.perform around (.addAll (.entries items)) = (.error fault, after) →
      ∃ earlier entry later, ∃ added : List (Route τ), items = earlier ++ entry :: later ∧
        router.run around (earlier.map .add) =
          (added.map fun route => .ok (.added route), after) ∧
        after.perform around (.add entry) = (.error fault, after)) ∧
    (∀ typeName, (Fault.notRoutes typeName).isConfiguration = true ∧
      router.perform around (.addAll (.other typeName)) = (.error (.notRoutes typeName), router)) ∧
    (∀ value : Value, (∀ items, value ≠ .list items) → (∀ entries, value ≠ .dict entries) →
      Batch.ofValue value = some (.other value.typeName)) ∧
    ∀ operations, ∃ successes,
      (∀ answer ∈ (router.run around successes).1, ∃ value, answer = .ok value) ∧
        Agree (router.run around operations).2 (router.run around successes).2 := by
  have sound := reached.sound
  refine ⟨fun _ _ => intact_of_error, ?types, fun _ _ _ => addAll_error, fun _ => ⟨rfl, rfl⟩,
    ?values, exists_successes (Agree.refl router) sound sound around⟩
  case types =>
    intro value typeName failed
    unfold addTypesOf at failed ⊢
    split
    · rfl
    next accepted =>
      rw [accepted] at failed
      cases failed
  case values =>
    intro value noList noTable
    cases value with
    | list items => exact absurd rfl (noList items)
    | dict entries => exact absurd rfl (noTable entries)
    | _ => rfl

end

/-- A name that is taken, a pattern with an unknown type after a good one, a list with a misfit in
the middle, and types that are a text. -/
theorem failing_operations_leave_no_trace_misfit :
    let user : Route Nat := ⟨['*'], "/u/[i:id]".toList, 1, some ['u']⟩
    let tagged : Route Nat := ⟨['*'], "/t/[tag:name]".toList, 2, none⟩
    let late : Route Nat := ⟨['*'], "/late".toList, 3, none⟩
    let built : Router Nat :=
      { config := {}, routes := [user, tagged], named := [(['u'], user.pattern)],
        compiler := Config.compiler {} }
    let items : List (Entry Nat) := [.route late, .misfit .wrongShape, .route user]
    let added := (built.perform {} (.addAll (.entries items))).2
    Intact built (built.perform {} (.add (.route { late with name := some ['u'] }))).2 ∧
      Intact built (built.perform {} .compile).2 ∧
      (built.perform {} .compile).2.compiler.kept.map Prod.fst = [user.pattern] ∧
      (built.addTypesOf (.text "i".toList)).2 = built ∧
      added.routes = built.routes ++ [late] ∧
      (∃ earlier entry later, ∃ routes : List (Route Nat), items = earlier ++ entry :: later ∧
        built.run {} (earlier.map .add) = (routes.map fun route => .ok (.added route), added) ∧
        added.perform {} (.add entry) = (.error (.badEntry .wrongShape), added)) ∧
      Batch.ofValue (.text "GET /".toList) = some (.other "str".toList) := by
  intro user tagged late built items added
  have made : build (τ := Nat) { routes := .entries [.route user, .route tagged] } = .ok built := by
    decide +kernel
  have taken : (built.perform {} (.add (.route { late with name := some ['u'] }))).1 =
      .error (.duplicateName ['u']) := by decide +kernel
  have unknown : (built.perform {} .compile).1 =
      .error (.unknownMatchType tagged.pattern "tag".toList) := by decide +kernel
  have stopped : (built.perform {} (.addAll (.entries items))).1 =
      .error (.badEntry .wrongShape) := by decide +kernel
  obtain ⟨single, types, lists, _, values, _⟩ :=
    failing_operations_leave_no_trace (.built made) {}
  refine ⟨single _ _ (by simp) taken, single _ _ (by simp) unknown, by decide +kernel,
    types _ "str".toList rfl, by decide +kernel, lists items _ added (Prod.ext stopped rfl),
    values (.text _) (by simp) (by simp)⟩

end Router

end Signpost

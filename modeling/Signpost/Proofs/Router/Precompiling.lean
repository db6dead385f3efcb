import Signpost.Proofs.Route.Compiling
import Signpost.Proofs.Route.Footprint
import Signpost.Proofs.Router.Reachable

/-!
# Compiling before the first request

An application may compile all its patterns at the start (`Router.compile_is_complete`).  If that
succeeds, then from then on the router stays as it is for as long as it only serves, and no request
fails.  If it fails, then on the first route that cannot be compiled, and it does fail wherever some
request would.
-/

namespace Signpost

variable {τ : Type}

namespace Operation

/-- Whether an operation uses the routes and changes neither them nor the configuration. -/
def serves : Operation τ → Bool
  | .compile | .request _ _ | .generate _ _ => true
  | .add _ | .addAll _ | .setBasePath _ | .addMatchTypes _ => false

/-- An operation has succeeded, unless it asks for the URL of a route. -/
def Succeeds (operation : Operation τ) (outcome : Except Fault (Answer τ)) : Prop :=
  (∃ answer, outcome = .ok answer) ∨ ∃ name values, operation = .generate name values

end Operation

namespace Router

variable {router : Router τ}

section

variable [Unicode.Names]

theorem request_of_prepared (prepared : Route.Prepared router.routes router.compiler)
    (method url : Text) : ∃ hit, router.request method url = (.ok hit, router) := by
  unfold request
  split
  · exact ⟨none, rfl⟩
  next path _ =>
    obtain ⟨hit, found⟩ :=
      Route.firstHit_of_prepared prepared router.config.exactMethods method path
    rw [found]
    exact ⟨hit, rfl⟩

/-- A prepared router serves without a fault, and stays as it is. -/
theorem perform_of_prepared (prepared : Route.Prepared router.routes router.compiler)
    (around : Surroundings) {operation : Operation τ} (serves : operation.serves = true) :
    (router.perform around operation).2 = router ∧
      operation.Succeeds (router.perform around operation).1 := by
  cases operation with
  | add entry => cases serves
  | addAll batch => cases serves
  | setBasePath basePath => cases serves
  | addMatchTypes types => cases serves
  | compile =>
      rw [perform, compile, Route.compileAll_of_prepared prepared]
      exact ⟨rfl, .inl ⟨.done, rfl⟩⟩
  | request method url =>
      obtain ⟨hit, answered⟩ :=
        request_of_prepared prepared (methodOf around method) (urlOf around url)
      rw [perform, answered]
      exact ⟨rfl, .inl ⟨.found hit, rfl⟩⟩
  | generate name values => exact ⟨rfl, .inr ⟨name, values, rfl⟩⟩

/-- A prepared router goes through a run that only serves without a fault, and stays as it is. -/
theorem run_of_prepared (prepared : Route.Prepared router.routes router.compiler)
    (around : Surroundings) {operations : List (Operation τ)}
    (serves : ∀ operation ∈ operations, operation.serves = true) :
    (router.run around operations).2 = router ∧
      List.Forall₂ Operation.Succeeds operations (router.run around operations).1 := by
  induction operations with
  | nil => exact ⟨rfl, .nil⟩
  | cons operation others ih =>
      obtain ⟨same, succeeds⟩ :=
        perform_of_prepared prepared around (serves operation List.mem_cons_self)
      obtain ⟨rest, succeed⟩ :=
        ih fun other member => serves other (List.mem_cons_of_mem operation member)
      rw [run]
      rcases outcome : router.perform around operation with ⟨answer, after⟩
      rw [outcome] at same succeeds
      obtain rfl : after = router := same
      exact ⟨rest, .cons succeeds succeed⟩

/-- Where a request fails, so does compiling. -/
theorem compile_fails_of_request (coherent : router.compiler.Coherent) {method url : Text}
    {fault : Fault} (failed : (router.request method url).1 = .error fault) :
    ∃ other, router.compile.1 = .error other := by
  unfold request at failed
  split at failed
  · cases failed
  cases outcome : router.compile.1 with
  | error other => exact ⟨other, rfl⟩
  | ok nothing =>
      -- Everything has been compiled, and so has the pattern that the request has failed on.
      have done : Route.compileAll router.routes router.compiler =
          (.ok (), router.compile.2.compiler) := Prod.ext outcome rfl
      obtain ⟨route, member, _, refused⟩ := Route.exists_of_firstHit_error failed
      obtain ⟨compiled, form, _⟩ := Route.compiled_of_compileAll coherent done route member
      rw [refused] at form
      cases form

/-- **Compiling at the start is complete.** Take any router that an application can get to.

If compiling succeeds, then in any later run of requests, URLs and further compiling no request and
no compiling fails, and nothing is compiled any more: the run leaves the router as it is, with all
that its compiler keeps.  If some request fails, then compiling fails.  And if compiling fails, then
on the first route in the table whose pattern has no compiled form, with the fault of that pattern.
The patterns of the routes before it that need a regular expression are kept then, and whatever else
is kept was kept before. -/
theorem compile_is_complete (reached : router.Reachable) :
    (router.compile.1 = .ok () →
      ∀ around operations, (∀ operation ∈ operations, operation.serves = true) →
        (router.compile.2.run around operations).2 = router.compile.2 ∧
          List.Forall₂ Operation.Succeeds operations
            (router.compile.2.run around operations).1) ∧
    (∀ method url fault, (router.request method url).1 = .error fault →
      ∃ other, router.compile.1 = .error other) ∧
    ∀ fault, router.compile.1 = .error fault →
      ∃ earlier route later, router.routes = earlier ++ route :: later ∧
        compilePattern router.compiler.resolver route.pattern = .error fault ∧
        (∀ other ∈ earlier, ∃ compiled,
          compilePattern router.compiler.resolver other.pattern = .ok compiled ∧
            (other.needsRegex = true →
              router.compile.2.compiler.find? other.pattern = some compiled)) ∧
        ∀ pattern ∈ router.compile.2.compiler.kept.map Prod.fst,
          pattern ∈ router.compiler.kept.map Prod.fst ∨
            ∃ other ∈ earlier, other.needsRegex = true ∧ other.pattern = pattern := by
  have coherent := reached.sound.coherent
  refine ⟨fun done => ?_, fun _ _ _ => compile_fails_of_request coherent, fun fault failed => ?_⟩
  · have outcome : Route.compileAll router.routes router.compiler =
        (.ok (), router.compile.2.compiler) := Prod.ext done rfl
    intro around operations
    exact run_of_prepared (Route.prepared_of_compileAll outcome) around
  · have outcome : Route.compileAll router.routes router.compiler =
        (.error fault, router.compile.2.compiler) := Prod.ext failed rfl
    obtain ⟨earlier, route, later, table, done, refused⟩ := Route.compileAll_error outcome
    exact ⟨earlier, route, later, table, refused, Route.compiled_of_compileAll coherent done,
      fun pattern => Route.kept_of_compileAll done⟩

end

/-- Two sound routes, and two more of which the first is malformed. -/
theorem compile_is_complete_malformed_third :
    let user : Route Nat := ⟨['*'], "/u/[i:id]".toList, 2, none⟩
    let malformed : Route Nat := ⟨['*'], "@(".toList, 3, none⟩
    let routes : List (Route Nat) := [⟨['*'], "/about".toList, 1, none⟩, user]
    let sound : Router Nat := { config := {}, routes := routes, compiler := Config.compiler {} }
    let router : Router Nat :=
      { sound with routes := routes ++ [malformed, ⟨['*'], "/v/[a:tag]".toList, 4, none⟩] }
    sound.compile.1 = .ok () ∧
      (∀ around, (sound.compile.2.run around [.request none (some "/u/7".toList), .compile,
        .generate "none".toList fun _ => none]).2 = sound.compile.2) ∧
      (∃ fault, router.compile.1 = .error fault) ∧
      router.compile.1 = .error (.invalidPattern malformed.pattern .badRegex) ∧
      ∃ compiled, router.compile.2.compiler.find? user.pattern = some compiled := by
  intro user malformed routes sound router
  have made : build { routes := .entries (sound.routes.map .route) } = .ok sound := by
    decide +kernel
  have madeToo : build { routes := .entries (router.routes.map .route) } = .ok router := by
    decide +kernel
  have compiled : sound.compile.1 = .ok () := by decide +kernel
  have failed : router.compile.1 = .error (.invalidPattern malformed.pattern .badRegex) := by
    decide +kernel
  have requested : (router.request ['G'] "/none".toList).1 =
      .error (.invalidPattern malformed.pattern .badRegex) := by
    decide +kernel
  obtain ⟨stays, _, _⟩ := compile_is_complete (.built made)
  obtain ⟨_, fails, stops⟩ := compile_is_complete (.built madeToo)
  obtain ⟨earlier, route, later, table, refused, kept, _⟩ := stops _ failed
  refine ⟨compiled, fun around => (stays compiled around _ (by simp [Operation.serves])).1,
    fails _ _ _ requested, failed, ?_⟩
  rcases earlier with _ | ⟨first, _ | ⟨second, rest⟩⟩
  · cases table
    exact absurd refused (by decide +kernel)
  · cases table
    exact absurd refused (by decide +kernel)
  · injection table with _ table
    injection table with isUser _
    obtain ⟨form, _, found⟩ := kept second (List.mem_cons_of_mem first List.mem_cons_self)
    rw [← isUser] at found
    exact ⟨form, found rfl⟩

end Router

end Signpost

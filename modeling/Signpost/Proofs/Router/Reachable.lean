import Signpost.Proofs.Route.Search
import Signpost.Proofs.Router.Registering

/-!
# Reachable routers

The routers that an application can get to: one that has been built, and any that an operation on
such a router leaves behind, also an operation that fails.  `Router.Sound` collects what holds of
all of them (`Router.Reachable.sound`): the index of names agrees with the table, names are distinct
and not empty, every pattern can be read, and the compiler is one for the present types whose kept
forms are what compiling gives.
-/

namespace Signpost

namespace Router

variable {τ : Type} [Unicode.Names]

/-- The routers that an application can get to. -/
inductive Reachable : Router τ → Prop where
  | built {settings : Settings τ} {router : Router τ} (made : build settings = .ok router) :
      Reachable router
  /-- What an operation leaves behind, whether it has failed or not. -/
  | performed {router : Router τ} (around : Surroundings) (operation : Operation τ)
      (reached : Reachable router) : Reachable (router.perform around operation).2

/-- What holds of every reachable router. -/
structure Sound (router : Router τ) : Prop where
  /-- The compiler resolves types as the configuration says. -/
  resolver : router.compiler.resolver = router.config.compiler.resolver
  /-- The compiler keeps nothing but what compiling gives. -/
  coherent : router.compiler.Coherent
  /-- The index has the names of the routes with their patterns. -/
  index : router.named =
    router.routes.filterMap fun route => route.name.map fun name => (name, route.pattern)
  distinct : (router.named.map Prod.fst).Nodup
  given : ∀ name ∈ router.named.map Prod.fst, name ≠ []
  readable : ∀ route ∈ router.routes, checkPattern route.pattern = .ok ()

namespace Sound

theorem ofConfig (config : Config) : (Router.ofConfig config : Router τ).Sound where
  resolver := rfl
  coherent := Compiler.coherent_new _ _
  index := rfl
  distinct := List.nodup_nil
  given := by simp [Router.ofConfig]
  readable := by simp [Router.ofConfig]

variable {router : Router τ}

theorem setBasePath (sound : router.Sound) (basePath : Text) : (router.setBasePath basePath).Sound :=
  { sound with resolver := sound.resolver }

theorem addMatchTypes (sound : router.Sound) (types : MatchTypes) :
    (router.addMatchTypes types).Sound :=
  { sound with
    resolver := rfl
    coherent := Compiler.coherent_new _ _ }

/-- Using the compiler keeps a router sound. -/
theorem withCompiler (sound : router.Sound) {compiler : Compiler}
    (later : Compiler.Later router.compiler compiler) :
    { router with compiler := compiler }.Sound :=
  { sound with
    resolver := later.resolver.trans sound.resolver
    coherent := later.coherent sound.coherent }

theorem compile (sound : router.Sound) : router.compile.2.Sound :=
  sound.withCompiler (Route.grown_compileAll router.routes router.compiler).later

theorem request (sound : router.Sound) (method url : Text) : (router.request method url).2.Sound := by
  unfold Router.request
  split
  · exact sound
  · exact sound.withCompiler (Route.grown_firstHit _ _ _ _ _).later

/-- A route can be appended if its pattern can be read and its name is neither taken nor empty. -/
theorem append (sound : router.Sound) {route : Route τ}
    (readable : checkPattern route.pattern = .ok ())
    (fresh : ∀ name, route.name = some name → name ∉ router.named.map Prod.fst)
    (given : ∀ name, route.name = some name → name ≠ []) : (router.append route).Sound where
  resolver := sound.resolver
  coherent := sound.coherent
  index := by
    simp only [Router.append, sound.index, List.filterMap_append]
    cases named : route.name <;> simp [named]
  distinct := by
    cases named : route.name with
    | none => simpa [Router.append, named] using sound.distinct
    | some name =>
        simp only [Router.append, named, Option.map_some, Option.toList_some, List.map_append,
          List.map_cons, List.map_nil]
        refine List.nodup_append.mpr ⟨sound.distinct, by simp, ?_⟩
        intro other member new isNew
        obtain rfl := List.mem_singleton.mp isNew
        rintro rfl
        exact fresh _ named member
  given := by
    intro name member
    rw [Router.append, List.map_append, List.mem_append] at member
    rcases member with old | new
    · exact sound.given name old
    · cases named : route.name with
      | none => simp [named] at new
      | some text =>
          obtain rfl : name = text := by simpa [named] using new
          exact given name named
  readable := by
    intro other member
    rcases List.mem_append.mp member with old | new
    · exact sound.readable other old
    · obtain rfl := List.mem_singleton.mp new
      exact readable

/-- Adding a route keeps a router sound, whether the route is taken or refused. -/
theorem addRoute (sound : router.Sound) (route : Route τ) : (router.addRoute route).2.Sound := by
  have given : ∀ name, givenName route.name = some name → name ≠ [] := by
    intro name isGiven
    simpa using (Option.filter_eq_some_iff.mp isGiven).2
  unfold Router.addRoute
  dsimp only
  split
  · exact sound
  next readable =>
    split
    · next name named =>
      split
      · exact sound
      · next fresh =>
        refine sound.append readable (fun other isName => ?_) given
        obtain rfl : name = other := Option.some.inj (named.symm.trans isName)
        have missing : router.named.lookup name = none :=
          Option.isNone_iff_eq_none.mp (by simpa only [Option.isSome_eq_false_iff,
            Bool.not_eq_true] using fresh)
        intro member
        obtain ⟨entry, inside, same⟩ := List.mem_map.mp member
        have apart := List.lookup_eq_none_iff.mp missing entry inside
        simp [same] at apart
    · next unnamed =>
      refine sound.append readable (fun other isName => ?_) given
      rw [unnamed] at isName
      cases isName

theorem addEntry (sound : router.Sound) (entry : Entry τ) : (router.addEntry entry).2.Sound := by
  cases entry with
  | route route => exact sound.addRoute route
  | misfit flaw => exact sound

theorem addEntries (sound : router.Sound) (entries : List (Entry τ)) :
    (router.addEntries entries).2.Sound := by
  induction entries generalizing router with
  | nil => exact sound
  | cons entry others ih =>
      have after := sound.addEntry entry
      unfold Router.addEntries
      split
      · next outcome => rwa [outcome] at after
      · next outcome =>
          rw [outcome] at after
          exact ih after

theorem addBatch (sound : router.Sound) (batch : Batch τ) : (router.addBatch batch).2.Sound := by
  cases batch with
  | entries items => exact sound.addEntries items
  | other typeName => exact sound

/-- Every operation keeps a router sound, also when it fails. -/
theorem perform (sound : router.Sound) (around : Surroundings) (operation : Operation τ) :
    (router.perform around operation).2.Sound := by
  cases operation with
  | add entry => exact sound.addEntry entry
  | addAll batch => exact sound.addBatch batch
  | setBasePath basePath => exact sound.setBasePath basePath
  | addMatchTypes types => exact sound.addMatchTypes types
  | compile => exact sound.compile
  | request method url => exact sound.request _ _
  | generate name values => exact sound

theorem run (sound : router.Sound) (around : Surroundings) (operations : List (Operation τ)) :
    (router.run around operations).2.Sound := by
  induction operations generalizing router with
  | nil => exact sound
  | cons operation others ih => exact ih (sound.perform around operation)

theorem build {settings : Settings τ} (made : Router.build settings = .ok router) :
    router.Sound := by
  have added := (ofConfig (τ := τ) settings.effective).addBatch settings.routes
  unfold Router.build at made
  split at made
  · cases made
  · next outcome =>
      cases made
      rwa [outcome] at added

end Sound

/-- **Every reachable router is sound.** -/
theorem Reachable.sound {router : Router τ} (reached : Reachable router) : router.Sound := by
  induction reached with
  | built made => exact Sound.build made
  | performed around operation _ ih => exact ih.perform around operation

/-- Several operations lead from a reachable router to a reachable one. -/
theorem Reachable.run {router : Router τ} (reached : Reachable router) (around : Surroundings)
    (operations : List (Operation τ)) : Reachable (router.run around operations).2 := by
  induction operations generalizing router with
  | nil => exact reached
  | cons operation others ih => exact ih (.performed around operation reached)

/-- The compiler of a router is that of its configuration, with patterns kept. -/
def Current (router : Router τ) : Prop :=
  Compiler.Grown router.config.compiler router.compiler

namespace Current

theorem ofConfig (config : Config) : (Router.ofConfig config : Router τ).Current :=
  Compiler.Grown.refl _

variable {router other : Router τ}

theorem alike (current : router.Current) (same : Alike router other) : other.Current := by
  rw [Current, same.config, same.compiler]
  exact current

theorem request (current : router.Current) (method url : Text) :
    (router.request method url).2.Current := by
  unfold Router.request
  split
  · exact current
  · exact Compiler.Grown.trans current (Route.grown_firstHit _ _ _ _ _)

theorem perform (current : router.Current) (around : Surroundings) (operation : Operation τ) :
    (router.perform around operation).2.Current := by
  cases operation with
  | add entry => exact current.alike (Alike.addEntry router entry)
  | addAll batch => exact current.alike (Alike.addBatch router batch)
  | setBasePath basePath => exact current
  | addMatchTypes types => exact Compiler.Grown.refl _
  | compile => exact Compiler.Grown.trans current (Route.grown_compileAll _ _)
  | request method url => exact current.request _ _
  | generate name values => exact current

end Current

/-- **The compiler of a reachable router has nothing to do with earlier match types**: whatever it
keeps, it has compiled by the present ones. -/
theorem Reachable.current {router : Router τ} (reached : Reachable router) : router.Current := by
  induction reached with
  | @built settings router made =>
      have added := Alike.addBatch (ofConfig (τ := τ) settings.effective) settings.routes
      unfold build at made
      split at made
      · cases made
      next outcome =>
        cases made
        rw [outcome] at added
        exact (Current.ofConfig settings.effective).alike added
  | performed around operation _ ih => exact ih.perform around operation

end Router

end Signpost

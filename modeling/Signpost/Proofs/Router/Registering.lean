import Signpost.Router.Operation

/-!
# Registering routes

Registering routes reads and writes the table and the index of names alone.  So a router that is
given another configuration and another compiler (`Router.refit`) registers the same routes and
fails alike, and registering leaves both as they are.
-/

namespace Signpost

namespace Router

variable {τ : Type}

/-- The router with another configuration and another compiler. -/
def refit (router : Router τ) (config : Config) (compiler : Compiler) : Router τ :=
  { router with config := config, compiler := compiler }

variable (router : Router τ) (config : Config) (compiler : Compiler)

theorem addRoute_refit (route : Route τ) :
    (router.refit config compiler).addRoute route =
      ((router.addRoute route).1, (router.addRoute route).2.refit config compiler) := by
  simp only [addRoute, refit]
  cases checkPattern route.pattern with
  | error fault => rfl
  | ok readable =>
      cases givenName route.name with
      | none => rfl
      | some name =>
          by_cases taken : (router.named.lookup name).isSome = true
          · simp only [taken, ↓reduceIte]
          · simp only [taken]
            rfl

theorem addEntry_refit (entry : Entry τ) :
    (router.refit config compiler).addEntry entry =
      ((router.addEntry entry).1, (router.addEntry entry).2.refit config compiler) := by
  cases entry with
  | route route => exact router.addRoute_refit config compiler route
  | misfit flaw => rfl

theorem addEntries_refit (entries : List (Entry τ)) :
    (router.refit config compiler).addEntries entries =
      ((router.addEntries entries).1, (router.addEntries entries).2.refit config compiler) := by
  induction entries generalizing router with
  | nil => rfl
  | cons entry others ih =>
      rw [addEntries, addEntries, addEntry_refit]
      rcases router.addEntry entry with ⟨fault | added, after⟩
      · rfl
      · exact ih after

/-- **Registering depends on neither configuration nor compiler.** -/
theorem addBatch_refit (batch : Batch τ) :
    (router.refit config compiler).addBatch batch =
      ((router.addBatch batch).1, (router.addBatch batch).2.refit config compiler) := by
  cases batch with
  | entries items => exact router.addEntries_refit config compiler items
  | other typeName => rfl

/-- Two routers with one configuration and one compiler. -/
structure Alike (router other : Router τ) : Prop where
  config : other.config = router.config
  compiler : other.compiler = router.compiler

namespace Alike

theorem of_refit {router after : Router τ}
    (same : after = after.refit router.config router.compiler) : Alike router after := by
  rw [same]
  exact ⟨rfl, rfl⟩

theorem addEntry (router : Router τ) (entry : Entry τ) : Alike router (router.addEntry entry).2 :=
  of_refit (congrArg Prod.snd (router.addEntry_refit router.config router.compiler entry))

/-- Adding routes changes neither the configuration nor the compiler, also where it fails. -/
theorem addBatch (router : Router τ) (batch : Batch τ) : Alike router (router.addBatch batch).2 :=
  of_refit (congrArg Prod.snd (router.addBatch_refit router.config router.compiler batch))

end Alike

end Router

namespace Operation

variable {τ : Type}

/-- Whether an operation registers routes. -/
def registers : Operation τ → Bool
  | .add _ | .addAll _ => true
  | .setBasePath _ | .addMatchTypes _ | .compile | .request _ _ | .generate _ _ => false

end Operation

namespace Router

variable {τ : Type} (router : Router τ) (config : Config) (compiler : Compiler)
  (around : Surroundings) [Unicode.Names]

theorem perform_refit {operation : Operation τ} (registers : operation.registers = true) :
    (router.refit config compiler).perform around operation =
      ((router.perform around operation).1,
        (router.perform around operation).2.refit config compiler) := by
  cases operation with
  | add entry => rw [perform, addEntry_refit]; rfl
  | addAll batch => rw [perform, addBatch_refit]; rfl
  | setBasePath basePath => cases registers
  | addMatchTypes types => cases registers
  | compile => cases registers
  | request method url => cases registers
  | generate name values => cases registers

theorem run_refit {operations : List (Operation τ)}
    (register : ∀ operation ∈ operations, operation.registers = true) :
    (router.refit config compiler).run around operations =
      ((router.run around operations).1,
        (router.run around operations).2.refit config compiler) := by
  induction operations generalizing router with
  | nil => rfl
  | cons operation others ih =>
      rw [List.forall_mem_cons] at register
      rw [run, run, perform_refit router config compiler around register.1]
      dsimp only
      rw [ih _ register.2]

theorem Alike.perform {operation : Operation τ} (registers : operation.registers = true) :
    Alike router (router.perform around operation).2 :=
  of_refit (congrArg Prod.snd
    (router.perform_refit router.config router.compiler around registers))

end Router

end Signpost

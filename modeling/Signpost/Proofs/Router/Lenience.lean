import Signpost.Proofs.Pattern.Lenience
import Signpost.Proofs.Router.Agreement
import Signpost.Router.Unchecked

/-!
# Strict and lenient routers

Two routers that are built alike, the one strict about unknown types and the other lenient, do the
same as long as the strict one refuses no pattern for its types (`Router.run_lenient`): every
operation is answered alike, and the lenient router stays what `Router.lenient` makes of the strict
one, down to the patterns that are kept.  The lenient one never refuses a pattern for its types
(`Router.knowsTypes_run_lenient`).
-/

namespace Signpost

variable {τ : Type}

namespace Route

variable {compiler after : Compiler} {exact : Bool} {method path : Text} [Unicode.Names]

theorem match?_lenient {route : Route τ} {result : Except Fault (Option Params)}
    (outcome : route.match? exact method path compiler = (result, after))
    (known : KnowsTypes result) :
    route.match? exact method path compiler.lenient = (result, after.lenient) := by
  rcases route.match?_cases exact method path with ⟨answer, answers⟩ | ⟨_, asks⟩
  · rw [answers] at outcome
    cases outcome
    exact answers compiler.lenient
  · rw [asks] at outcome
    rw [asks, Compiler.match?_lenient outcome known]

/-- A search that fails on no unknown type does the same without strictness. -/
theorem firstHit_lenient {routes : List (Route τ)} {result : Except Fault (Option (Hit τ))}
    (outcome : firstHit exact method path routes compiler = (result, after))
    (known : KnowsTypes result) :
    firstHit exact method path routes compiler.lenient = (result, after.lenient) := by
  induction routes generalizing compiler with
  | nil =>
      cases outcome
      rfl
  | cons route others ih =>
      rw [firstHit] at outcome ⊢
      rcases tried : route.match? exact method path compiler with ⟨fault | _ | params, next⟩
      · rw [tried] at outcome
        cases outcome
        rw [match?_lenient tried known.error]
      · rw [tried] at outcome
        rw [match?_lenient tried (knowsTypes_ok none)]
        exact ih outcome
      · rw [tried] at outcome
        cases outcome
        rw [match?_lenient tried (knowsTypes_ok (some params))]

theorem compileAll_lenient {routes : List (Route τ)} {result : Except Fault Unit}
    (outcome : compileAll routes compiler = (result, after)) (known : KnowsTypes result) :
    compileAll routes compiler.lenient = (result, after.lenient) := by
  induction routes generalizing compiler with
  | nil =>
      cases outcome
      rfl
  | cons route others ih =>
      rw [compileAll] at outcome ⊢
      split at outcome
      next needed =>
        rw [if_pos needed]
        rcases form : compiler.compile route.pattern with ⟨fault | compiled, next⟩
        · rw [form] at outcome
          cases outcome
          rw [Compiler.compile_lenient form known.error]
        · rw [form] at outcome
          rw [Compiler.compile_lenient form (knowsTypes_ok compiled)]
          exact ih outcome
      next spared =>
        rw [if_neg spared]
        exact ih outcome

theorem knowsTypes_firstHit_lenient (routes : List (Route τ)) :
    KnowsTypes (firstHit exact method path routes compiler.lenient).1 := by
  intro pattern key failed
  obtain ⟨route, _, _, refused⟩ := exists_of_firstHit_error failed
  exact knowsTypes_compilePattern_lenient route.pattern pattern key refused

theorem knowsTypes_compileAll_lenient (routes : List (Route τ)) :
    KnowsTypes (compileAll routes compiler.lenient).1 := by
  intro pattern key failed
  obtain ⟨_, route, _, _, _, refused⟩ := compileAll_error (Prod.ext failed rfl)
  exact knowsTypes_compilePattern_lenient route.pattern pattern key refused

end Route

/-- The configuration that is lenient about unknown types. -/
def Config.lenient (config : Config) : Config :=
  { config with strictMatchTypes := false }

namespace Router

/-- The router that is lenient about unknown types: its configuration says so, and its compiler
takes an unknown key for a fragment.  Everything else is as it is. -/
def lenient (router : Router τ) : Router τ :=
  { router with config := router.config.lenient, compiler := router.compiler.lenient }

variable {router after : Router τ} {around : Surroundings}

theorem knowsTypes_checkPattern (pattern : Text) : KnowsTypes (checkPattern pattern) := by
  unfold checkPattern
  split
  · exact knowsTypes_ok ()
  · exact knowsTypes_map.mpr (knowsTypes_tokensOrFault pattern)

theorem knowsTypes_addRoute (router : Router τ) (route : Route τ) :
    KnowsTypes (router.addRoute route).1 := by
  unfold addRoute
  dsimp only
  split
  next fault refused =>
    have known := knowsTypes_checkPattern route.pattern
    rw [refused] at known
    exact known.error
  · split
    · split <;> nofun
    · exact knowsTypes_ok _

theorem knowsTypes_addEntry (router : Router τ) (entry : Entry τ) :
    KnowsTypes (router.addEntry entry).1 := by
  cases entry with
  | route route => exact router.knowsTypes_addRoute route
  | misfit flaw => nofun

theorem knowsTypes_addEntries (router : Router τ) (entries : List (Entry τ)) :
    KnowsTypes (router.addEntries entries).1 := by
  induction entries generalizing router with
  | nil => exact knowsTypes_ok ()
  | cons entry others ih =>
      have first := router.knowsTypes_addEntry entry
      unfold addEntries
      split
      next fault next outcome =>
        rw [outcome] at first
        exact first.error
      next next _ => exact ih next

/-- Registering does not look at types. -/
theorem knowsTypes_addBatch (router : Router τ) (batch : Batch τ) :
    KnowsTypes (router.addBatch batch).1 := by
  cases batch with
  | entries items => exact router.knowsTypes_addEntries items
  | other typeName => nofun

theorem knowsTypes_generate (router : Router τ) (name : Text) (values : Text → Option Text) :
    KnowsTypes (router.generate name values) := by
  unfold generate
  split
  · nofun
  · split
    · nofun
    · exact knowsTypes_map.mpr (knowsTypes_tokensOrFault _)

theorem lenient_eq_refit (router : Router τ) :
    router.lenient = router.refit router.config.lenient router.compiler.lenient :=
  rfl

theorem lenient_lenient (router : Router τ) : router.lenient.lenient = router.lenient :=
  rfl

theorem Alike.lenient {other : Router τ} (same : Alike router other) :
    other.lenient = other.refit router.config.lenient router.compiler.lenient := by
  rw [lenient_eq_refit, same.config, same.compiler]

variable [Unicode.Names]

theorem compile_lenient {result : Except Fault Unit}
    (outcome : router.compile = (result, after)) (known : KnowsTypes result) :
    router.lenient.compile = (result, after.lenient) := by
  rcases compiled : Route.compileAll router.routes router.compiler with ⟨found, next⟩
  rw [compile, compiled] at outcome
  cases outcome
  have same : Route.compileAll router.lenient.routes router.lenient.compiler =
      (result, next.lenient) := Route.compileAll_lenient compiled known
  rw [compile, same]
  rfl

theorem request_lenient {method url : Text} {result : Except Fault (Option (Hit τ))}
    (outcome : router.request method url = (result, after)) (known : KnowsTypes result) :
    router.lenient.request method url = (result, after.lenient) := by
  rw [request] at outcome
  have base : router.lenient.config.basePath = router.config.basePath := rfl
  rw [request, base]
  cases inside : pathOf? router.config.basePath url with
  | none =>
      rw [inside] at outcome
      cases outcome
      rfl
  | some path =>
      rcases searched : Route.firstHit router.config.exactMethods method path router.routes
        router.compiler with ⟨found, next⟩
      rw [inside] at outcome
      dsimp only at outcome ⊢
      rw [searched] at outcome
      cases outcome
      have same : Route.firstHit router.lenient.config.exactMethods method path
          router.lenient.routes router.lenient.compiler = (found, next.lenient) :=
        Route.firstHit_lenient searched known
      rw [same]
      rfl

theorem registering_lenient {operation : Operation τ} (registers : operation.registers = true) :
    router.lenient.perform around operation =
      ((router.perform around operation).1, (router.perform around operation).2.lenient) := by
  rw [lenient_eq_refit, perform_refit _ _ _ _ registers,
    (Alike.perform router around registers).lenient]

/-- **One operation without strictness**: unless it fails on an unknown type, the answer is the
same, and the router afterwards differs by its leniency alone. -/
theorem perform_lenient {operation : Operation τ} {answer : Except Fault (Answer τ)}
    (outcome : router.perform around operation = (answer, after)) (known : KnowsTypes answer) :
    router.lenient.perform around operation = (answer, after.lenient) := by
  cases operation with
  | add entry => rw [registering_lenient rfl, outcome]
  | addAll batch => rw [registering_lenient rfl, outcome]
  | setBasePath basePath =>
      cases outcome
      rfl
  | addMatchTypes types =>
      cases outcome
      rfl
  | compile =>
      rcases done : router.compile with ⟨result, next⟩
      rw [perform, done] at outcome
      cases outcome
      rw [perform, compile_lenient done (knowsTypes_map.mp known)]
  | request method url =>
      rcases done : router.request (methodOf around method) (urlOf around url) with ⟨result, next⟩
      rw [perform, done] at outcome
      cases outcome
      rw [perform, request_lenient done (knowsTypes_map.mp known)]
  | generate name values =>
      cases outcome
      rfl

theorem knowsTypes_request_lenient (router : Router τ) (method url : Text) :
    KnowsTypes (router.lenient.request method url).1 := by
  rw [request]
  split
  · exact knowsTypes_ok none
  · exact Route.knowsTypes_firstHit_lenient router.routes

/-- No operation of a lenient router fails on an unknown type. -/
theorem knowsTypes_perform_lenient (router : Router τ) (around : Surroundings)
    (operation : Operation τ) : KnowsTypes (router.lenient.perform around operation).1 := by
  cases operation with
  | add entry => exact knowsTypes_map.mpr (router.lenient.knowsTypes_addEntry entry)
  | addAll batch => exact knowsTypes_map.mpr (router.lenient.knowsTypes_addBatch batch)
  | setBasePath basePath => exact knowsTypes_ok _
  | addMatchTypes types => exact knowsTypes_ok _
  | compile => exact knowsTypes_map.mpr (Route.knowsTypes_compileAll_lenient router.routes)
  | request method url => exact knowsTypes_map.mpr (router.knowsTypes_request_lenient _ _)
  | generate name values =>
      exact knowsTypes_map.mpr (router.lenient.knowsTypes_generate name values)

theorem lenient_perform (router : Router τ) (around : Surroundings) (operation : Operation τ) :
    (router.lenient.perform around operation).2.lenient =
      (router.lenient.perform around operation).2 := by
  have again := perform_lenient (Prod.eta (router.lenient.perform around operation)).symm
    (router.knowsTypes_perform_lenient around operation)
  rw [lenient_lenient] at again
  exact (congrArg Prod.snd again).symm

/-- **A run without strictness**: as long as no answer is the fault of an unknown type, the answers
are the same, and the router at the end differs by its leniency alone. -/
theorem run_lenient {operations : List (Operation τ)} {answers : List (Except Fault (Answer τ))}
    (ran : router.run around operations = (answers, after))
    (known : ∀ answer ∈ answers, KnowsTypes answer) :
    router.lenient.run around operations = (answers, after.lenient) := by
  induction operations generalizing router answers with
  | nil =>
      cases ran
      rfl
  | cons operation others ih =>
      rcases first : router.perform around operation with ⟨answer, next⟩
      rcases rest : next.run around others with ⟨later, last⟩
      rw [run_cons, first, rest] at ran
      cases ran
      rw [List.forall_mem_cons] at known
      rw [run_cons, perform_lenient first known.1, ih rest known.2]

theorem knowsTypes_run_lenient (router : Router τ) (around : Surroundings)
    (operations : List (Operation τ)) :
    ∀ answer ∈ (router.lenient.run around operations).1, KnowsTypes answer := by
  induction operations generalizing router with
  | nil => simp [run]
  | cons operation others ih =>
      rw [run_cons, ← router.lenient_perform, List.forall_mem_cons]
      exact ⟨router.knowsTypes_perform_lenient around operation, ih _⟩

end Router

/-- The settings with the given strictness about unknown types. -/
def Settings.withStrictness (settings : Settings τ) (strict : Bool) : Settings τ :=
  { settings with config := { settings.config with strictMatchTypes := strict } }

namespace Router

theorem ofConfig_lenient (settings : Settings τ) :
    (ofConfig (settings.withStrictness false).effective : Router τ) =
      (ofConfig (settings.withStrictness true).effective).lenient := by
  have bare : (settings.withStrictness false).effective =
      (settings.withStrictness true).effective.lenient := by
    unfold Settings.effective Settings.withStrictness
    dsimp only
    split <;> rfl
  rw [bare]
  rfl

theorem addBatch_lenient (router : Router τ) (batch : Batch τ) :
    router.lenient.addBatch batch =
      ((router.addBatch batch).1, (router.addBatch batch).2.lenient) := by
  rw [lenient_eq_refit, addBatch_refit, (Alike.addBatch router batch).lenient]

theorem build_lenient (settings : Settings τ) :
    build (settings.withStrictness false) =
      (build (settings.withStrictness true)).map lenient := by
  have batch : (settings.withStrictness false).routes = (settings.withStrictness true).routes :=
    rfl
  rw [build, ofConfig_lenient, batch, addBatch_lenient, build]
  rcases (ofConfig (settings.withStrictness true).effective).addBatch
    (settings.withStrictness true).routes with ⟨fault | nothing, router⟩ <;> rfl

theorem addTypesOf_lenient (router : Router τ) (value : Value) :
    router.lenient.addTypesOf value =
      ((router.addTypesOf value).1, (router.addTypesOf value).2.lenient) := by
  unfold addTypesOf
  split <;> rfl

variable {router after : Router τ} {around : Surroundings}

/-- No operation changes the strictness. -/
theorem strictness_perform [Unicode.Names] (operation : Operation τ) :
    (router.perform around operation).2.config.strictMatchTypes =
      router.config.strictMatchTypes := by
  cases operation with
  | add entry => exact congrArg Config.strictMatchTypes (Alike.perform router around rfl).config
  | addAll batch => exact congrArg Config.strictMatchTypes (Alike.perform router around rfl).config
  | setBasePath basePath => rfl
  | addMatchTypes types => rfl
  | compile => rfl
  | request method url => exact congrArg Config.strictMatchTypes (Agree.requested router _ _).config
  | generate name values => rfl

theorem strictness_run [Unicode.Names] (operations : List (Operation τ)) :
    (router.run around operations).2.config.strictMatchTypes =
      router.config.strictMatchTypes := by
  induction operations generalizing router with
  | nil => rfl
  | cons operation others ih =>
      rw [run_cons]
      exact ih.trans (strictness_perform operation)

theorem config_of_build {settings : Settings τ} (made : build settings = .ok router) :
    router.config = settings.effective := by
  have added := Alike.addBatch (ofConfig settings.effective : Router τ) settings.routes
  unfold build at made
  split at made
  · cases made
  next outcome =>
    cases made
    rw [outcome] at added
    exact added.config

/-- **Lenient types extend strict ones.** Settings that differ in their strictness about unknown
types alone are both refused, for the same fault, or make two routers of which the second is what
`lenient` makes of the first.

Take two routers that are made in this way, and do the same operations to both.  As long as no
answer of the strict one is the fault of an unknown type, the answers of the lenient one are the
same, faults included, and it stays what `lenient` makes of the strict one: it has the same routes,
names, base path, method filters and types, and it has kept the same patterns.  That also goes for
match types that come unchecked.  No answer of the lenient one is ever the fault of an unknown type.
The strict one stays strict, whatever is done to it. -/
theorem lenient_extends_strict [Unicode.Names] (settings : Settings τ) (around : Surroundings) :
    build (settings.withStrictness false) =
      (build (settings.withStrictness true)).map lenient ∧
    ∀ strict other, build (settings.withStrictness true) = .ok strict →
      build (settings.withStrictness false) = .ok other →
      (∀ operations,
        let ran := strict.run around operations
        (∀ answer ∈ ran.1, KnowsTypes answer) →
          other.run around operations = (ran.1, ran.2.lenient) ∧
          ∀ value, ran.2.lenient.addTypesOf value =
            ((ran.2.addTypesOf value).1, (ran.2.addTypesOf value).2.lenient)) ∧
      (∀ operations, ∀ answer ∈ (other.run around operations).1, KnowsTypes answer) ∧
      ∀ operations, (strict.run around operations).2.config.strictMatchTypes = true ∧
        (strict.run around operations).2.compiler.resolver.strict = true := by
  refine ⟨build_lenient settings, fun strict other made madeToo => ?_⟩
  obtain rfl : strict.lenient = other := by
    have mapped := build_lenient settings
    rw [made, madeToo] at mapped
    exact (Except.ok.inj mapped).symm
  refine ⟨?alike, strict.knowsTypes_run_lenient around, ?strict⟩
  case alike =>
    intro operations ran known
    exact ⟨run_lenient (Prod.eta _).symm known, ran.2.addTypesOf_lenient⟩
  case strict =>
    intro operations
    have atStart : strict.config.strictMatchTypes = true := by
      rw [config_of_build made]
      unfold Settings.effective Settings.withStrictness
      dsimp only
      split <;> rfl
    have atEnd : (strict.run around operations).2.config.strictMatchTypes = true :=
      (strictness_run operations).trans atStart
    have sound : (strict.run around operations).2.Sound := (Sound.build made).run around operations
    refine ⟨atEnd, ?_⟩
    rw [sound.resolver]
    exact atEnd

/-- A run with a name that is taken and a type that is replaced, and then a type that is unknown:
the strict router refuses its pattern, and the lenient one reads it as it is written. -/
theorem lenient_extends_strict_unknown_tag :
    let user : Route Nat := ⟨['*'], "/u/[i:id]".toList, 1, some ['u']⟩
    let tagged : Route Nat := ⟨['*'], "/t/[tag:name]".toList, 2, none⟩
    let settings : Settings Nat := { routes := .entries [.route user, .route tagged] }
    let strict : Router Nat :=
      { config := {}, routes := [user, tagged], named := [(['u'], user.pattern)],
        compiler := Config.compiler {} }
    let found (id : Text) : Answer Nat := .found (some ⟨user, [("id".toList, id)]⟩)
    let operations : List (Operation Nat) := [.request none (some "/u/12".toList),
      .add (.route user), .addMatchTypes [(['i'], some "[0-9]".toList)],
      .request none (some "/u/7".toList)]
    let answers : List (Except Fault (Answer Nat)) := [.ok (found "12".toList),
      .error (.duplicateName ['u']), .ok .done, .ok (found ['7'])]
    let after := (strict.run {} operations).2
    build (settings.withStrictness true) = .ok strict ∧
      build (settings.withStrictness false) = .ok strict.lenient ∧
      (strict.run {} operations).1 = answers ∧
      strict.lenient.run {} operations = (answers, after.lenient) ∧
      (after.request ['G'] "/t/tag".toList).1 =
        .error (.unknownMatchType tagged.pattern "tag".toList) ∧
      (after.lenient.request ['G'] "/t/tag".toList).1 =
        .ok (some ⟨tagged, [("name".toList, "tag".toList)]⟩) := by
  intro user tagged settings strict found operations answers after
  have made : build (settings.withStrictness true) = .ok strict := by decide +kernel
  have madeToo : build (settings.withStrictness false) = .ok strict.lenient := by decide +kernel
  have answered : (strict.run {} operations).1 = answers := by decide +kernel
  have known : ∀ answer ∈ (strict.run {} operations).1, KnowsTypes answer := by
    rw [answered]
    simp [answers, KnowsTypes]
  obtain ⟨_, runs⟩ := lenient_extends_strict settings {}
  obtain ⟨alike, _⟩ := runs strict strict.lenient made madeToo
  obtain ⟨same, _⟩ := alike operations known
  rw [answered] at same
  exact ⟨made, madeToo, answered, same, by decide +kernel, by decide +kernel⟩

end Router

end Signpost

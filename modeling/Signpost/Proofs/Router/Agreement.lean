import Signpost.Proofs.Router.Precompiling

/-!
# Routers that agree

Two routers agree if they have the same routes, names and configuration.  They may have compiled
different patterns, but that shows in no answer: whatever is done to both of them is answered alike,
and they agree afterwards (`Router.Agree.run`).  Serving and compiling leave a router in agreement
with what it was (`Router.Agree.served`).
-/

namespace Signpost

variable {τ : Type}

namespace Router

theorem run_cons [Unicode.Names] (router : Router τ) (around : Surroundings)
    (operation : Operation τ) (others : List (Operation τ)) :
    router.run around (operation :: others) =
      ((router.perform around operation).1 ::
          ((router.perform around operation).2.run around others).1,
        ((router.perform around operation).2.run around others).2) := rfl

theorem run_append [Unicode.Names] (router : Router τ) (around : Surroundings)
    (first second : List (Operation τ)) :
    router.run around (first ++ second) =
      ((router.run around first).1 ++ ((router.run around first).2.run around second).1,
        ((router.run around first).2.run around second).2) := by
  induction first generalizing router with
  | nil => rfl
  | cons operation others ih => rw [List.cons_append, run_cons, ih, run_cons, List.cons_append]

/-- Two routers with the same routes, names and configuration, whatever each of them has
compiled. -/
structure Agree (router other : Router τ) : Prop where
  routes : other.routes = router.routes
  named : other.named = router.named
  config : other.config = router.config

namespace Agree

theorem refl (router : Router τ) : Agree router router :=
  ⟨rfl, rfl, rfl⟩

theorem trans {first second third : Router τ} (one : Agree first second)
    (two : Agree second third) : Agree first third :=
  ⟨two.routes.trans one.routes, two.named.trans one.named, two.config.trans one.config⟩

variable {router other : Router τ}

theorem symm (agree : Agree router other) : Agree other router :=
  ⟨agree.routes.symm, agree.named.symm, agree.config.symm⟩

theorem eq_refit (agree : Agree router other) :
    other = router.refit router.config other.compiler := by
  obtain ⟨routes, named, config⟩ := agree
  cases router
  cases other
  cases routes
  cases named
  cases config
  rfl

variable [Unicode.Names]

theorem resolver (agree : Agree router other) (sound : router.Sound) (soundToo : other.Sound) :
    router.compiler.resolver = other.compiler.resolver := by
  rw [sound.resolver, soundToo.resolver, agree.config]

theorem registering (agree : Agree router other) (around : Surroundings) {operation : Operation τ}
    (registers : operation.registers = true) :
    (router.perform around operation).1 = (other.perform around operation).1 ∧
      Agree (router.perform around operation).2 (other.perform around operation).2 := by
  have config := (Alike.perform router around registers).config
  rw [agree.eq_refit, perform_refit _ _ _ _ registers]
  exact ⟨rfl, rfl, rfl, config.symm⟩

theorem request (agree : Agree router other) (sound : router.Sound) (soundToo : other.Sound)
    (method url : Text) :
    (router.request method url).1 = (other.request method url).1 ∧
      Agree (router.request method url).2 (other.request method url).2 := by
  unfold Router.request
  rw [agree.config, agree.routes]
  cases pathOf? router.config.basePath url with
  | none => exact ⟨rfl, agree⟩
  | some path =>
      exact ⟨Route.firstHit_fst_congr _ _ _ _ sound.coherent soundToo.coherent
        (agree.resolver sound soundToo), rfl, agree.named, rfl⟩

/-- Sound routers that agree answer every operation alike, and agree afterwards. -/
theorem perform (agree : Agree router other) (sound : router.Sound) (soundToo : other.Sound)
    (around : Surroundings) (operation : Operation τ) :
    (router.perform around operation).1 = (other.perform around operation).1 ∧
      Agree (router.perform around operation).2 (other.perform around operation).2 := by
  cases operation with
  | add entry => exact agree.registering around rfl
  | addAll batch => exact agree.registering around rfl
  | setBasePath basePath =>
      have config := congrArg (Config.withBasePath · basePath) agree.config
      exact ⟨rfl, agree.routes, agree.named, config⟩
  | addMatchTypes types =>
      have config := congrArg (Config.withMatchTypes · types) agree.config
      exact ⟨rfl, agree.routes, agree.named, config⟩
  | compile =>
      refine ⟨congrArg (Except.map fun _ => Answer.done) ?_, agree.routes, agree.named,
        agree.config⟩
      rw [agree.routes]
      exact Route.compileAll_fst_congr _ sound.coherent soundToo.coherent
        (agree.resolver sound soundToo)
  | request method url =>
      obtain ⟨answer, after⟩ :=
        agree.request sound soundToo (methodOf around method) (urlOf around url)
      exact ⟨congrArg (Except.map Answer.found) answer, after⟩
  | generate name values =>
      refine ⟨congrArg (Except.map Answer.url) ?_, agree⟩
      rw [generate, generate, agree.named, agree.config]

theorem run (agree : Agree router other) (sound : router.Sound) (soundToo : other.Sound)
    (around : Surroundings) (operations : List (Operation τ)) :
    (router.run around operations).1 = (other.run around operations).1 ∧
      Agree (router.run around operations).2 (other.run around operations).2 := by
  induction operations generalizing router other with
  | nil => exact ⟨rfl, agree⟩
  | cons operation others ih =>
      obtain ⟨answer, after⟩ := agree.perform sound soundToo around operation
      obtain ⟨answers, last⟩ :=
        ih after (sound.perform around operation) (soundToo.perform around operation)
      rw [run_cons, run_cons]
      exact ⟨congrArg₂ List.cons answer answers, last⟩

theorem requested (router : Router τ) (method url : Text) :
    Agree router (router.request method url).2 := by
  unfold Router.request
  split
  · exact refl router
  · exact ⟨rfl, rfl, rfl⟩

theorem serving (router : Router τ) (around : Surroundings) {operation : Operation τ}
    (serves : operation.serves = true) : Agree router (router.perform around operation).2 := by
  cases operation with
  | add entry => cases serves
  | addAll batch => cases serves
  | setBasePath basePath => cases serves
  | addMatchTypes types => cases serves
  | compile => exact ⟨rfl, rfl, rfl⟩
  | request method url => exact requested router _ _
  | generate name values => exact refl router

/-- A run that only serves changes nothing but what has been compiled. -/
theorem served (router : Router τ) (around : Surroundings) {operations : List (Operation τ)}
    (serve : ∀ operation ∈ operations, operation.serves = true) :
    Agree router (router.run around operations).2 := by
  induction operations generalizing router with
  | nil => exact refl router
  | cons operation others ih =>
      rw [List.forall_mem_cons] at serve
      exact (serving router around serve.1).trans (ih _ serve.2)

end Agree

end Router

end Signpost

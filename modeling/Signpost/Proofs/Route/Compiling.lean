import Signpost.Proofs.Route.Literal
import Signpost.Proofs.Route.Search

/-!
# Compiling the patterns of routes

Compiling the patterns of routes either keeps all of those that need a regular expression
(`Route.prepared_of_compileAll`) or stops at the first one that has none
(`Route.compileAll_error`).  Once they are all kept, a search through the routes neither fails nor
changes the compiler (`Route.firstHit_of_prepared`), since a route asks for no other pattern.
-/

namespace Signpost

open Compiler

variable [Unicode.Names]

/-- Literal text is compiled whatever the types are. -/
theorem compilePattern_of_free {resolver : Resolver} {pattern : Text}
    (notRaw : isRaw pattern = false) (free : '[' ∉ pattern) :
    ∃ compiled, compilePattern resolver pattern = .ok compiled := by
  obtain ⟨compiled, written, _⟩ := exists_compiled_of_free free
  rw [compilePattern, notRaw]
  exact ⟨compiled, written resolver⟩

namespace Route

variable {τ : Type}

/-- A pattern that needs no regular expression could be compiled all the same. -/
theorem compilePattern_of_not_needsRegex {route : Route τ} (spared : route.needsRegex = false)
    (resolver : Resolver) : ∃ compiled, compilePattern resolver route.pattern = .ok compiled := by
  rw [needsRegex, Bool.and_eq_false_iff, bne_eq_false_iff_eq, Bool.or_eq_false_iff] at spared
  rcases spared with all | ⟨notRaw, bare⟩
  · rw [all]
    exact compilePattern_of_free (by decide) (by decide)
  · refine compilePattern_of_free notRaw fun bracket => ?_
    rw [hasPlaceholders, List.contains_iff_mem.mpr bracket] at bare
    cases bare

/-- Every pattern that needs a regular expression is kept. -/
def Prepared (routes : List (Route τ)) (compiler : Compiler) : Prop :=
  ∀ route ∈ routes, route.needsRegex = true →
    ∃ compiled, compiler.find? route.pattern = some compiled

variable {routes : List (Route τ)} {compiler after : Compiler}

theorem match?_of_kept {route : Route τ}
    (kept : route.needsRegex = true → ∃ compiled, compiler.find? route.pattern = some compiled)
    (exact : Bool) (method path : Text) :
    ∃ answer, route.match? exact method path compiler = (.ok answer, compiler) := by
  rcases route.match?_cases exact method path with ⟨answer, answers⟩ | ⟨needed, asks⟩
  · exact ⟨answer, answers compiler⟩
  · obtain ⟨compiled, found⟩ := kept needed
    refine ⟨compiled.match? path, ?_⟩
    rw [asks, match?_eq, compile_of_find? found]
    rfl

/-- A search through prepared routes does not fail, and compiles nothing. -/
theorem firstHit_of_prepared (prepared : Prepared routes compiler) (exact : Bool)
    (method path : Text) :
    ∃ hit, firstHit exact method path routes compiler = (.ok hit, compiler) := by
  induction routes with
  | nil => exact ⟨none, rfl⟩
  | cons route others ih =>
      obtain ⟨answer, answers⟩ :=
        match?_of_kept (prepared route List.mem_cons_self) exact method path
      rw [firstHit, answers]
      cases answer with
      | none => exact ih fun other member => prepared other (List.mem_cons_of_mem route member)
      | some params => exact ⟨some ⟨route, params⟩, rfl⟩

theorem compileAll_of_prepared (prepared : Prepared routes compiler) :
    compileAll routes compiler = (.ok (), compiler) := by
  induction routes with
  | nil => rfl
  | cons route others ih =>
      have rest := ih fun other member => prepared other (List.mem_cons_of_mem route member)
      rw [compileAll]
      split
      · next needed =>
        obtain ⟨compiled, found⟩ := prepared route List.mem_cons_self needed
        rw [compile_of_find? found]
        exact rest
      · exact rest

/-- Routes are prepared once their patterns have been compiled without a fault. -/
theorem prepared_of_compileAll (done : compileAll routes compiler = (.ok (), after)) :
    Prepared routes after := by
  induction routes generalizing compiler with
  | nil =>
      intro route member
      cases member
  | cons route others ih =>
      rw [compileAll] at done
      split at done
      · split at done
        · cases done
        next compiled next outcome =>
          have grown := grown_compileAll others next
          rw [done] at grown
          intro other member needed
          rcases List.mem_cons.mp member with rfl | later
          · exact ⟨compiled, grown.find? (compile_ok outcome).1⟩
          · exact ih done other later needed
      next spared =>
        intro other member needed
        rcases List.mem_cons.mp member with rfl | later
        · exact absurd needed spared
        · exact ih done other later needed

/-- What is kept after compiling the patterns of routes was kept before, or is one of them. -/
theorem kept_of_compileAll {result : Except Fault Unit}
    (ran : compileAll routes compiler = (result, after)) {pattern : Text}
    (kept : pattern ∈ after.kept.map Prod.fst) :
    pattern ∈ compiler.kept.map Prod.fst ∨
      ∃ route ∈ routes, route.needsRegex = true ∧ route.pattern = pattern := by
  induction routes generalizing compiler with
  | nil =>
      cases ran
      exact .inl kept
  | cons route others ih =>
      have extend : (∃ other ∈ others, other.needsRegex = true ∧ other.pattern = pattern) →
          ∃ other ∈ route :: others, other.needsRegex = true ∧ other.pattern = pattern := by
        rintro ⟨other, member, new⟩
        exact ⟨other, List.mem_cons_of_mem route member, new⟩
      rw [compileAll] at ran
      split at ran
      next needed =>
        split at ran
        next outcome =>
          cases ran
          rw [(compile_error outcome).1] at kept
          exact .inl kept
        next compiled next outcome =>
          rcases ih ran with kept | new
          · rcases (mem_kept_of_compile outcome pattern).mp kept with old | same
            · exact .inl old
            · exact .inr ⟨route, List.mem_cons_self, needed, same⟩
          · exact .inr (extend new)
      · exact (ih ran).imp_right extend

/-- Compiling the patterns of routes stops at the first that cannot be compiled, after those of the
routes before it. -/
theorem compileAll_error {fault : Fault}
    (failed : compileAll routes compiler = (.error fault, after)) :
    ∃ earlier route later, routes = earlier ++ route :: later ∧
      compileAll earlier compiler = (.ok (), after) ∧
      compilePattern compiler.resolver route.pattern = .error fault := by
  induction routes generalizing compiler with
  | nil => cases failed
  | cons route others ih =>
      rw [compileAll] at failed
      split at failed
      next needed =>
        split at failed
        next outcome =>
          cases failed
          obtain ⟨rfl, refused⟩ := compile_error outcome
          exact ⟨[], route, others, rfl, rfl, refused⟩
        next compiled next outcome =>
          obtain ⟨earlier, culprit, later, rfl, done, refused⟩ := ih failed
          have used := grown_compile compiler route.pattern
          rw [outcome] at used
          refine ⟨route :: earlier, culprit, later, rfl, ?_, used.resolver ▸ refused⟩
          rw [compileAll, if_pos needed, outcome]
          exact done
      next spared =>
        obtain ⟨earlier, culprit, later, rfl, done, refused⟩ := ih failed
        refine ⟨route :: earlier, culprit, later, rfl, ?_, refused⟩
        rw [compileAll, if_neg spared]
        exact done

/-- Routes whose patterns have been compiled without a fault have compiled forms, and those that
need a regular expression are kept. -/
theorem compiled_of_compileAll (coherent : compiler.Coherent)
    (done : compileAll routes compiler = (.ok (), after)) :
    ∀ route ∈ routes, ∃ compiled, compilePattern compiler.resolver route.pattern = .ok compiled ∧
      (route.needsRegex = true → after.find? route.pattern = some compiled) := by
  have used := (grown_compileAll routes compiler).later
  rw [done] at used
  intro route member
  cases needed : route.needsRegex with
  | false =>
      obtain ⟨compiled, form⟩ := compilePattern_of_not_needsRegex needed compiler.resolver
      exact ⟨compiled, form, nofun⟩
  | true =>
      obtain ⟨compiled, found⟩ := prepared_of_compileAll done route member needed
      have form := used.coherent coherent route.pattern compiled found
      rw [used.resolver] at form
      exact ⟨compiled, form, fun _ => found⟩

end Route

end Signpost

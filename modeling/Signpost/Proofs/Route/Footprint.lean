import Signpost.Proofs.Route.Search

/-!
# What a search compiles

A search examines its routes in order, up to the first one that is hit or that fails.  Of the routes
that it examines, those that ask the compiler have their patterns kept afterwards, and nothing else
is new: a step keeps at most the pattern of its route, and only if the route asks for it
(`Route.mem_kept_of_match?`).  The pattern on which a search fails is not kept, and was not before.
What was kept before stays as it was (`Route.search_compiles_what_it_asks_for`).
-/

namespace Signpost

open Compiler

namespace Route

variable {τ : Type} [Unicode.Names]

/-- The routes that a search examines: those up to the first one that is hit or that fails. -/
def examined (exact : Bool) (method path : Text) : List (Route τ) → Compiler → List (Route τ)
  | [], _ => []
  | route :: others, compiler =>
      match route.match? exact method path compiler with
      | (.ok none, after) => route :: examined exact method path others after
      | _ => [route]

/-- One of the routes asks the compiler for a pattern. -/
def Asked (exact : Bool) (method path : Text) (routes : List (Route τ)) (pattern : Text) : Prop :=
  ∃ route ∈ routes, route.asks exact method path = true ∧ route.pattern = pattern

variable {exact : Bool} {method path : Text} {compiler after : Compiler}

omit [Unicode.Names] in
@[simp] theorem asked_nil (pattern : Text) :
    ¬Asked exact method path ([] : List (Route τ)) pattern := by
  simp [Asked]

omit [Unicode.Names] in
@[simp] theorem asked_cons (route : Route τ) (others : List (Route τ)) (pattern : Text) :
    Asked exact method path (route :: others) pattern ↔
      (route.asks exact method path = true ∧ route.pattern = pattern) ∨
        Asked exact method path others pattern := by
  simp [Asked, or_and_right, exists_or]

/-- A route that answers has its pattern kept if it asks for it, and keeps no other. -/
theorem mem_kept_of_match? {route : Route τ} {answer : Option Params}
    (outcome : route.match? exact method path compiler = (.ok answer, after)) (pattern : Text) :
    pattern ∈ after.kept.map Prod.fst ↔
      pattern ∈ compiler.kept.map Prod.fst ∨
        route.asks exact method path = true ∧ route.pattern = pattern := by
  cases asked : route.asks exact method path with
  | false =>
      obtain ⟨known, same⟩ := exists_of_not_asks asked
      rw [same] at outcome
      cases outcome
      simp
  | true =>
      rw [match?_of_asks asked] at outcome
      rw [Compiler.mem_kept_of_match? outcome]
      simp

/-- A route fails only if it asks for a pattern that cannot be compiled. -/
theorem match?_error {route : Route τ} {fault : Fault}
    (outcome : route.match? exact method path compiler = (.error fault, after)) :
    route.asks exact method path = true ∧ after = compiler ∧
      compilePattern compiler.resolver route.pattern = .error fault ∧
      route.pattern ∉ compiler.kept.map Prod.fst := by
  cases asked : route.asks exact method path with
  | false =>
      obtain ⟨known, same⟩ := exists_of_not_asks asked
      rw [same] at outcome
      cases outcome
  | true =>
      rw [match?_of_asks asked] at outcome
      exact ⟨rfl, Compiler.match?_error outcome⟩

/-- The examined routes are enough for the search. -/
theorem firstHit_examined (exact : Bool) (method path : Text) (routes : List (Route τ))
    (compiler : Compiler) :
    firstHit exact method path (examined exact method path routes compiler) compiler =
      firstHit exact method path routes compiler := by
  induction routes generalizing compiler with
  | nil => rfl
  | cons route others ih =>
      rw [firstHit, examined]
      rcases outcome : route.match? exact method path compiler with ⟨fault | _ | params, after⟩
      · rw [firstHit, outcome]
      · rw [firstHit, outcome]
        exact ih after
      · rw [firstHit, outcome]

/-- A hit or a fault among the examined routes decides the search, whatever follows them. -/
theorem firstHit_examined_append {routes : List (Route τ)}
    (decided : (firstHit exact method path routes compiler).1 ≠ .ok none)
    (later : List (Route τ)) :
    firstHit exact method path (examined exact method path routes compiler ++ later) compiler =
      firstHit exact method path routes compiler := by
  rw [firstHit_append, firstHit_examined]
  split
  · next outcome => exact absurd (congrArg Prod.fst outcome) decided
  · rfl

theorem examined_isPrefix (exact : Bool) (method path : Text) (routes : List (Route τ))
    (compiler : Compiler) : examined exact method path routes compiler <+: routes := by
  induction routes generalizing compiler with
  | nil => exact List.nil_prefix
  | cons route others ih =>
      rw [examined]
      split
      · next after _ => exact List.cons_prefix_cons.mpr ⟨rfl, ih after⟩
      · exact List.cons_prefix_cons.mpr ⟨rfl, List.nil_prefix⟩

/-- Before the last route that a search examines, none is hit and none fails. -/
theorem firstHit_dropLast_examined (exact : Bool) (method path : Text) (routes : List (Route τ))
    (compiler : Compiler) :
    (firstHit exact method path (examined exact method path routes compiler).dropLast
      compiler).1 = .ok none := by
  induction routes generalizing compiler with
  | nil => rfl
  | cons route others ih =>
      rw [examined]
      split
      next after outcome =>
        cases seen : examined exact method path others after with
        | nil => rfl
        | cons second more =>
            have missed := ih after
            rw [seen] at missed
            rw [List.dropLast_cons_cons, firstHit, outcome]
            exact missed
      · rfl

/-- A search without a hit examines every route. -/
theorem examined_of_missed {routes : List (Route τ)}
    (missed : (firstHit exact method path routes compiler).1 = .ok none) :
    examined exact method path routes compiler = routes := by
  induction routes generalizing compiler with
  | nil => rfl
  | cons route others ih =>
      rw [firstHit] at missed
      rw [examined]
      rcases outcome : route.match? exact method path compiler with ⟨fault | _ | params, after⟩
      · rw [outcome] at missed
        cases missed
      · rw [outcome] at missed
        exact congrArg (route :: ·) (ih missed)
      · rw [outcome] at missed
        cases missed

/-- A search with a hit examines no route after it. -/
theorem getLast?_examined {routes : List (Route τ)} {hit : Hit τ}
    (found : (firstHit exact method path routes compiler).1 = .ok (some hit)) :
    (examined exact method path routes compiler).getLast? = some hit.route := by
  induction routes generalizing compiler with
  | nil => cases found
  | cons route others ih =>
      rw [firstHit] at found
      rw [examined]
      rcases outcome : route.match? exact method path compiler with ⟨fault | _ | params, after⟩
      · rw [outcome] at found
        cases found
      · rw [outcome] at found
        rw [List.getLast?_cons, ih found]
        rfl
      · rw [outcome] at found
        cases found
        rfl

/-- A search that answers has kept the patterns for which the examined routes ask. -/
theorem mem_kept_of_firstHit {routes : List (Route τ)} {answer : Option (Hit τ)}
    (answered : (firstHit exact method path routes compiler).1 = .ok answer) (pattern : Text) :
    pattern ∈ (firstHit exact method path routes compiler).2.kept.map Prod.fst ↔
      pattern ∈ compiler.kept.map Prod.fst ∨
        Asked exact method path (examined exact method path routes compiler) pattern := by
  induction routes generalizing compiler with
  | nil => simp [firstHit, examined]
  | cons route others ih =>
      rw [firstHit] at answered ⊢
      rw [examined]
      rcases outcome : route.match? exact method path compiler with ⟨fault | _ | params, after⟩
      · rw [outcome] at answered
        cases answered
      · rw [outcome] at answered
        simp only [ih answered, mem_kept_of_match? outcome, asked_cons, or_assoc]
      · simp only [mem_kept_of_match? outcome, asked_cons, asked_nil, or_false]

/-- A search that fails has kept the patterns for which the examined routes ask, except the one on
which it fails. -/
theorem mem_kept_of_firstHit_error {routes : List (Route τ)} {fault : Fault}
    (failed : (firstHit exact method path routes compiler).1 = .error fault) :
    ∃ culprit, (examined exact method path routes compiler).getLast? = some culprit ∧
      culprit.asks exact method path = true ∧
      compilePattern compiler.resolver culprit.pattern = .error fault ∧
      culprit.pattern ∉ (firstHit exact method path routes compiler).2.kept.map Prod.fst ∧
      ∀ pattern,
        pattern ∈ (firstHit exact method path routes compiler).2.kept.map Prod.fst ↔
          pattern ∈ compiler.kept.map Prod.fst ∨ pattern ≠ culprit.pattern ∧
            Asked exact method path (examined exact method path routes compiler) pattern := by
  induction routes generalizing compiler with
  | nil => cases failed
  | cons route others ih =>
      rw [firstHit] at failed ⊢
      rw [examined]
      rcases outcome : route.match? exact method path compiler with ⟨flaw | _ | params, after⟩
      · rw [outcome] at failed
        cases failed
        obtain ⟨asked, rfl, refused, missing⟩ := match?_error outcome
        refine ⟨route, rfl, asked, refused, missing, fun pattern => ?_⟩
        simp only [asked_cons, asked_nil, or_false]
        refine (or_iff_left ?_).symm
        rintro ⟨other, _, rfl⟩
        exact other rfl
      · rw [outcome] at failed
        have grown := route.grown_match? exact method path compiler
        rw [outcome] at grown
        obtain ⟨culprit, last, asked, refused, missing, footprint⟩ := ih failed
        rw [grown.resolver] at refused
        refine ⟨culprit, ?_, asked, refused, missing, fun pattern => ?_⟩
        · rw [List.getLast?_cons, last]
          rfl
        -- What the route asks for is kept, so it is not what the search fails on.
        have other : route.asks exact method path = true ∧ route.pattern = pattern →
            pattern ≠ culprit.pattern := by
          rintro kept rfl
          apply missing
          rw [footprint, mem_kept_of_match? outcome]
          exact .inl (.inr kept)
        simp only [footprint, mem_kept_of_match? outcome, asked_cons, or_assoc, and_or_left,
          and_iff_right_of_imp other]
      · rw [outcome] at failed
        cases failed

/-- A search fails on a pattern that needs a regular expression and has none. -/
theorem exists_of_firstHit_error {routes : List (Route τ)} {fault : Fault}
    (failed : (firstHit exact method path routes compiler).1 = .error fault) :
    ∃ route ∈ routes, route.needsRegex = true ∧
      compilePattern compiler.resolver route.pattern = .error fault := by
  obtain ⟨culprit, last, asked, refused, _⟩ := mem_kept_of_firstHit_error failed
  have member : culprit ∈ routes :=
    (examined_isPrefix exact method path routes compiler).subset (List.mem_of_getLast? last)
  exact ⟨culprit, member, needsRegex_of_asks asked, refused⟩

/-- **A search compiles what it asks for.** The routes that a search examines are those up to the
first one that is hit or that fails.  Before the last of them, nothing is hit and nothing fails; if
there is no hit and no fault, they are all the routes; and if there is one, it does not matter which
routes follow.  After the search, the compiler has kept what it had, and the patterns for which the
examined routes ask, except the one that could not be compiled if the search has failed, and nothing
else.  What it had kept is as it was.  A route never causes anything to be compiled and never fails
if its filter does not admit the method, if its pattern matches everything, or if its pattern is not
a regular expression itself and has no placeholders or a literal lead that rejects the path. -/
theorem search_compiles_what_it_asks_for (exact : Bool) (method path : Text)
    (routes : List (Route τ)) (compiler : Compiler) :
    let tried := examined exact method path routes compiler
    let outcome := firstHit exact method path routes compiler
    (tried <+: routes ∧ (firstHit exact method path tried.dropLast compiler).1 = .ok none ∧
      (outcome.1 = .ok none → tried = routes) ∧
      (∀ hit, outcome.1 = .ok (some hit) → tried.getLast? = some hit.route) ∧
      (outcome.1 ≠ .ok none →
        ∀ later, firstHit exact method path (tried ++ later) compiler = outcome)) ∧
    ((∃ answer, outcome.1 = .ok answer ∧
        ∀ pattern, pattern ∈ outcome.2.kept.map Prod.fst ↔
          pattern ∈ compiler.kept.map Prod.fst ∨ Asked exact method path tried pattern) ∨
      ∃ fault culprit, outcome.1 = .error fault ∧ tried.getLast? = some culprit ∧
        culprit.asks exact method path = true ∧
        compilePattern compiler.resolver culprit.pattern = .error fault ∧
        culprit.pattern ∉ outcome.2.kept.map Prod.fst ∧
        ∀ pattern, pattern ∈ outcome.2.kept.map Prod.fst ↔
          pattern ∈ compiler.kept.map Prod.fst ∨
            pattern ≠ culprit.pattern ∧ Asked exact method path tried pattern) ∧
    (∀ pattern compiled, compiler.find? pattern = some compiled →
      outcome.2.find? pattern = some compiled) ∧
    ∀ route : Route τ, admits exact route.methods method = false ∨ route.pattern = catchAll ∨
        isRaw route.pattern = false ∧
          (hasPlaceholders route.pattern = false ∨
            leadRejects (literalLead route.pattern) path = true) →
      ∃ answer, ∀ used, route.match? exact method path used = (.ok answer, used) := by
  intro tried outcome
  refine ⟨⟨?_, ?_, examined_of_missed, fun _ => getLast?_examined, firstHit_examined_append⟩,
    ?_, ?_, ?_⟩
  · exact examined_isPrefix exact method path routes compiler
  · exact firstHit_dropLast_examined exact method path routes compiler
  · cases searched : outcome.1 with
    | error fault =>
        obtain ⟨culprit, footprint⟩ := mem_kept_of_firstHit_error searched
        exact .inr ⟨fault, culprit, rfl, footprint⟩
    | ok answer => exact .inl ⟨answer, rfl, mem_kept_of_firstHit searched⟩
  · intro pattern compiled found
    exact (grown_firstHit exact method path routes compiler).find? found
  · intro route spared
    apply exists_of_not_asks
    rcases spared with unadmitted | all | ⟨notRaw, free | rejected⟩
    · rw [asks, unadmitted, Bool.false_and]
    · exact not_asks_of_catchAll all
    · simp [asks, notRaw, free]
    · simp [asks, notRaw, rejected]

end Route

end Signpost

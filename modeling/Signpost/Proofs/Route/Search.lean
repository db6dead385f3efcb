import Signpost.Proofs.Pattern.Compiler
import Signpost.Route.Basic

/-!
# Searching routes

When a route asks the compiler (`Route.asks`), what a search through routes does to the compiler,
and how it goes through routes that stand one after the other: the later ones are tried only if the
earlier ones have neither hit nor failed (`Route.firstHit_append`).  What is compiled on the way
makes no difference to what a search answers (`Route.firstHit_append_fst`), so that it hits the
first route that accepts the request by itself (`Route.firstHit_eq_some_iff`).  Two compilers for
one table answer alike (`Route.firstHit_fst_congr`).
-/

namespace Signpost

open Compiler

namespace Route

variable {τ : Type}

/-- Whether a route asks the compiler about a request: its filter admits the method, and its pattern
is a regular expression itself, or has placeholders after a literal lead that fits the path. -/
def asks (route : Route τ) (exact : Bool) (method path : Text) : Bool :=
  admits exact route.methods method &&
    (isRaw route.pattern ||
      hasPlaceholders route.pattern && !leadRejects (literalLead route.pattern) path)

section

variable {route : Route τ} {exact : Bool} {method path : Text}

theorem not_asks_of_catchAll (all : route.pattern = catchAll) :
    route.asks exact method path = false := by
  rw [asks, all]
  exact Bool.and_false _

theorem ne_catchAll_of_asks (asked : route.asks exact method path = true) :
    route.pattern ≠ catchAll := by
  intro all
  rw [not_asks_of_catchAll all] at asked
  cases asked

theorem needsRegex_of_asks (asked : route.asks exact method path = true) :
    route.needsRegex = true := by
  have special := ne_catchAll_of_asks asked
  rw [asks, Bool.and_eq_true, Bool.or_eq_true, Bool.and_eq_true] at asked
  rw [needsRegex, Bool.and_eq_true, Bool.or_eq_true]
  exact ⟨bne_iff_ne.mpr special, asked.2.imp_right And.left⟩

/-- A route that asks the compiler gives its answer. -/
theorem match?_of_asks [Unicode.Names] (asked : route.asks exact method path = true)
    (compiler : Compiler) :
    route.match? exact method path compiler = compiler.match? route.pattern path := by
  have special := ne_catchAll_of_asks asked
  rw [asks, Bool.and_eq_true, Bool.or_eq_true, Bool.and_eq_true] at asked
  obtain ⟨admitted, raw | ⟨bracket, fits⟩⟩ := asked
  · rw [match?, if_pos admitted, matchPattern?, if_neg special, if_pos raw]
  · rw [Bool.not_eq_true'] at fits
    rw [match?, if_pos admitted, matchPattern?, if_neg special, bracket, fits]
    exact ite_self _

/-- A route that does not ask the compiler has one answer, whatever the compiler is, and leaves it
as it is. -/
theorem exists_of_not_asks [Unicode.Names] (unasked : route.asks exact method path = false) :
    ∃ answer, ∀ compiler, route.match? exact method path compiler = (.ok answer, compiler) := by
  by_cases admitted : admits exact route.methods method = true
  · simp only [match?, matchPattern?, admitted, ↓reduceIte]
    by_cases all : route.pattern = catchAll
    · exact ⟨some [], fun _ => if_pos all⟩
    rw [asks, admitted, Bool.true_and, Bool.or_eq_false_iff] at unasked
    obtain ⟨notRaw, ruled⟩ := unasked
    simp only [all, notRaw, Bool.false_eq_true, ↓reduceIte]
    cases bracket : hasPlaceholders route.pattern with
    | false => exact ⟨_, fun _ => rfl⟩
    | true =>
        rw [bracket, Bool.true_and, Bool.not_eq_false'] at ruled
        exact ⟨none, fun _ => if_pos ruled⟩
  · exact ⟨none, fun _ => if_neg admitted⟩

end

variable [Unicode.Names]

/-- A route asks the compiler only if its pattern needs a regular expression. -/
theorem match?_cases (route : Route τ) (exact : Bool) (method path : Text) :
    (∃ answer, ∀ compiler, route.match? exact method path compiler = (.ok answer, compiler)) ∨
      route.needsRegex = true ∧
        ∀ compiler, route.match? exact method path compiler =
          compiler.match? route.pattern path := by
  cases asked : route.asks exact method path with
  | false => exact .inl (exists_of_not_asks asked)
  | true => exact .inr ⟨needsRegex_of_asks asked, match?_of_asks asked⟩

theorem grown_match? (route : Route τ) (exact : Bool) (method path : Text) (compiler : Compiler) :
    Grown compiler (route.match? exact method path compiler).2 := by
  rcases route.match?_cases exact method path with ⟨answer, same⟩ | ⟨_, same⟩
  · rw [same]
    exact Grown.refl compiler
  · rw [same]
    exact compiler.grown_match? route.pattern path

theorem grown_firstHit (exact : Bool) (method path : Text) (routes : List (Route τ))
    (compiler : Compiler) : Grown compiler (firstHit exact method path routes compiler).2 := by
  induction routes generalizing compiler with
  | nil => exact Grown.refl compiler
  | cons route others ih =>
      have tried := route.grown_match? exact method path compiler
      unfold firstHit
      split
      · next outcome => rwa [outcome] at tried
      · next outcome => rwa [outcome] at tried
      · next after outcome =>
          rw [outcome] at tried
          exact tried.trans (ih after)

theorem grown_compileAll (routes : List (Route τ)) (compiler : Compiler) :
    Grown compiler (compileAll routes compiler).2 := by
  induction routes generalizing compiler with
  | nil => exact Grown.refl compiler
  | cons route others ih =>
      have compiled := compiler.grown_compile route.pattern
      unfold compileAll
      split
      · split
        · next outcome => rwa [outcome] at compiled
        · next after outcome =>
            rw [outcome] at compiled
            exact compiled.trans (ih after)
      · exact ih compiler

/-- Routes after others are tried only if the others have neither hit nor failed. -/
theorem firstHit_append (exact : Bool) (method path : Text) (earlier later : List (Route τ))
    (compiler : Compiler) :
    firstHit exact method path (earlier ++ later) compiler =
      match firstHit exact method path earlier compiler with
      | (.ok none, after) => firstHit exact method path later after
      | outcome => outcome := by
  induction earlier generalizing compiler with
  | nil => rfl
  | cons route others ih =>
      rw [List.cons_append, firstHit, firstHit]
      rcases route.match? exact method path compiler with ⟨fault | _ | params, after⟩
      · rfl
      · exact ih after
      · rfl

/-- A hit is what its route answers to a compiler that the search has come to. -/
theorem match?_of_firstHit {exact : Bool} {method path : Text} {routes : List (Route τ)}
    {compiler : Compiler} {hit : Hit τ}
    (found : (firstHit exact method path routes compiler).1 = .ok (some hit)) :
    ∃ used, Grown compiler used ∧
      (hit.route.match? exact method path used).1 = .ok (some hit.params) := by
  induction routes generalizing compiler with
  | nil => cases found
  | cons route others ih =>
      have tried := route.grown_match? exact method path compiler
      unfold firstHit at found
      split at found
      · cases found
      · next outcome =>
        cases found
        exact ⟨compiler, Grown.refl compiler, congrArg Prod.fst outcome⟩
      · next after outcome =>
        rw [outcome] at tried
        obtain ⟨used, grown, answer⟩ := ih found
        exact ⟨used, tried.trans grown, answer⟩

/-- Using a compiler does not change what a route answers by it. -/
theorem match?_fst_of_grown (route : Route τ) (exact : Bool) (method path : Text)
    {compiler used : Compiler} (grown : Grown compiler used) :
    (route.match? exact method path used).1 = (route.match? exact method path compiler).1 := by
  rcases route.match?_cases exact method path with ⟨answer, answers⟩ | ⟨_, asks⟩
  · rw [answers, answers]
  · rw [asks, asks, grown.match?_fst]

/-- Two compilers for one table answer alike, whatever each of them has kept. -/
theorem match?_fst_congr (route : Route τ) (exact : Bool) (method path : Text)
    {compiler other : Compiler} (coherent : compiler.Coherent) (coherentToo : other.Coherent)
    (same : compiler.resolver = other.resolver) :
    (route.match? exact method path compiler).1 = (route.match? exact method path other).1 := by
  rcases route.match?_cases exact method path with ⟨answer, answers⟩ | ⟨_, asks⟩
  · rw [answers, answers]
  · rw [asks, asks, coherent.match?_fst, coherentToo.match?_fst, same]

/-- A search answers alike with two compilers if each route by itself does. -/
theorem firstHit_fst_of_alike (exact : Bool) (method path : Text) {routes : List (Route τ)}
    {compiler other : Compiler} (alike : ∀ route ∈ routes,
      (route.match? exact method path compiler).1 = (route.match? exact method path other).1) :
    (firstHit exact method path routes compiler).1 =
      (firstHit exact method path routes other).1 := by
  induction routes generalizing compiler other with
  | nil => rfl
  | cons route others ih =>
      obtain ⟨same, sameLater⟩ := List.forall_mem_cons.mp alike
      have used := route.grown_match? exact method path compiler
      have usedToo := route.grown_match? exact method path other
      rw [firstHit, firstHit]
      rcases first : route.match? exact method path compiler with ⟨outcome, after⟩
      rcases second : route.match? exact method path other with ⟨outcomeToo, afterToo⟩
      rw [first, second] at same
      rw [first] at used
      rw [second] at usedToo
      obtain rfl : outcome = outcomeToo := same
      rcases outcome with fault | _ | params
      · rfl
      · refine ih fun later member => ?_
        rw [later.match?_fst_of_grown _ _ _ used, later.match?_fst_of_grown _ _ _ usedToo]
        exact sameLater later member
      · rfl

theorem firstHit_fst_congr (exact : Bool) (method path : Text) (routes : List (Route τ))
    {compiler other : Compiler} (coherent : compiler.Coherent) (coherentToo : other.Coherent)
    (same : compiler.resolver = other.resolver) :
    (firstHit exact method path routes compiler).1 =
      (firstHit exact method path routes other).1 :=
  firstHit_fst_of_alike exact method path fun route _ =>
    route.match?_fst_congr exact method path coherent coherentToo same

/-- Using a compiler does not change what a search answers by it. -/
theorem firstHit_fst_of_grown (exact : Bool) (method path : Text) (routes : List (Route τ))
    {compiler used : Compiler} (grown : Grown compiler used) :
    (firstHit exact method path routes used).1 =
      (firstHit exact method path routes compiler).1 :=
  firstHit_fst_of_alike exact method path fun route _ =>
    route.match?_fst_of_grown exact method path grown

/-- What is compiled for the first route makes no difference to the others. -/
theorem firstHit_cons_fst (exact : Bool) (method path : Text) (route : Route τ)
    (others : List (Route τ)) (compiler : Compiler) :
    (firstHit exact method path (route :: others) compiler).1 =
      match (route.match? exact method path compiler).1 with
      | .error fault => .error fault
      | .ok none => (firstHit exact method path others compiler).1
      | .ok (some params) => .ok (some ⟨route, params⟩) := by
  have used := route.grown_match? exact method path compiler
  rw [firstHit]
  rcases outcome : route.match? exact method path compiler with ⟨fault | _ | params, after⟩
  · rfl
  · rw [outcome] at used
    exact firstHit_fst_of_grown exact method path others used
  · rfl

theorem firstHit_append_fst (exact : Bool) (method path : Text) (earlier later : List (Route τ))
    (compiler : Compiler) :
    (firstHit exact method path (earlier ++ later) compiler).1 =
      match (firstHit exact method path earlier compiler).1 with
      | .ok none => (firstHit exact method path later compiler).1
      | outcome => outcome := by
  induction earlier with
  | nil => rfl
  | cons route others ih =>
      rw [List.cons_append, firstHit_cons_fst, firstHit_cons_fst, ih]
      rcases (route.match? exact method path compiler).1 with fault | _ | params <;> rfl

theorem compileAll_fst_congr (routes : List (Route τ)) {compiler other : Compiler}
    (coherent : compiler.Coherent) (coherentToo : other.Coherent)
    (same : compiler.resolver = other.resolver) :
    (compileAll routes compiler).1 = (compileAll routes other).1 := by
  induction routes generalizing compiler other with
  | nil => rfl
  | cons route others ih =>
      rw [compileAll, compileAll]
      split
      · have alike : (compiler.compile route.pattern).1 = (other.compile route.pattern).1 := by
          rw [coherent.compile_fst, coherentToo.compile_fst, same]
        have used := (compiler.grown_compile route.pattern).later
        have usedToo := (other.grown_compile route.pattern).later
        rcases first : compiler.compile route.pattern with ⟨outcome, after⟩
        rcases second : other.compile route.pattern with ⟨outcomeToo, afterToo⟩
        rw [first, second] at alike
        rw [first] at used
        rw [second] at usedToo
        obtain rfl : outcome = outcomeToo := alike
        rcases outcome with fault | compiled
        · rfl
        · exact ih (used.coherent coherent) (usedToo.coherent coherentToo)
            (used.resolver.trans (same.trans usedToo.resolver.symm))
      · exact ih coherent coherentToo same

/-- A search hits nothing exactly if each route by itself rejects the request. -/
theorem firstHit_eq_none_iff {exact : Bool} {method path : Text} {routes : List (Route τ)}
    {compiler : Compiler} :
    (firstHit exact method path routes compiler).1 = .ok none ↔
      ∀ route ∈ routes, (route.match? exact method path compiler).1 = .ok none := by
  induction routes with
  | nil => simp [firstHit]
  | cons route others ih =>
      rw [firstHit_cons_fst, List.forall_mem_cons, ← ih]
      rcases (route.match? exact method path compiler).1 with fault | _ | params <;> simp

/-- **The hit is the first route that accepts.** A search hits a route exactly if the route by
itself accepts the request and each route before it by itself rejects it. -/
theorem firstHit_eq_some_iff {exact : Bool} {method path : Text} {routes : List (Route τ)}
    {compiler : Compiler} {hit : Hit τ} :
    (firstHit exact method path routes compiler).1 = .ok (some hit) ↔
      ∃ earlier later, routes = earlier ++ hit.route :: later ∧
        (hit.route.match? exact method path compiler).1 = .ok (some hit.params) ∧
        ∀ other ∈ earlier, (other.match? exact method path compiler).1 = .ok none := by
  constructor
  · intro found
    induction routes with
    | nil => cases found
    | cons route others ih =>
        rw [firstHit_cons_fst] at found
        rcases outcome : (route.match? exact method path compiler).1 with fault | _ | params
        · rw [outcome] at found
          cases found
        · rw [outcome] at found
          obtain ⟨earlier, later, rfl, accepted, rejected⟩ := ih found
          exact ⟨route :: earlier, later, rfl, accepted,
            List.forall_mem_cons.mpr ⟨outcome, rejected⟩⟩
        · rw [outcome] at found
          cases found
          exact ⟨[], others, rfl, outcome, by simp⟩
  · rintro ⟨earlier, later, rfl, accepted, rejected⟩
    rw [firstHit_append_fst, firstHit_eq_none_iff.mpr rejected]
    dsimp only
    rw [firstHit_cons_fst, accepted]

/-- A route that is hit is one of those that have been tried. -/
theorem mem_of_firstHit {exact : Bool} {method path : Text} {routes : List (Route τ)}
    {compiler : Compiler} {hit : Hit τ}
    (found : (firstHit exact method path routes compiler).1 = .ok (some hit)) :
    hit.route ∈ routes := by
  obtain ⟨earlier, later, rfl, _⟩ := firstHit_eq_some_iff.mp found
  exact List.mem_append_right earlier List.mem_cons_self

end Route

end Signpost

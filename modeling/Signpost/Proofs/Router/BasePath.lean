import Signpost.Proofs.Router.Agreement

/-!
# Base paths and queries

A base path is taken off the URLs of requests and put before generated ones, and it has no other
effect.  So a router under a base path does with the URLs under it what the router without one does
with the rest of them (`Router.run_under`), over a whole run of operations, and it finds nothing
outside it.  A query has no effect at all (`pathOf?_query`).
-/

namespace Signpost

/-- A URL under a base path has the path that what follows the base path has by itself. -/
theorem pathOf?_under {base : Text} (free : '?' ∉ base) (url : Text) :
    pathOf? base (base ++ url) = pathOf? [] url := by
  rw [pathOf?, Text.before_append free]
  simp [pathOf?]

theorem pathOf?_outside {base url : Text} (outside : ¬ base <+: Text.before '?' url) :
    pathOf? base url = none :=
  if_neg fun starts => outside (List.isPrefixOf_iff_prefix.mp starts)

theorem pathOf?_query (base url query : Text) :
    pathOf? base (url ++ '?' :: query) = pathOf? base url := by
  rw [pathOf?, Text.before_mark, pathOf?]

theorem buildUrl_under (base pattern : Text) (values : Text → Option Text) :
    buildUrl base pattern values = (buildUrl [] pattern values).map (base ++ ·) := by
  rw [buildUrl, buildUrl]
  cases tokensOrFault pattern <;> rfl

variable {τ : Type}

/-- The operation for a router under a base path: the URL of a request gets the base path. -/
def Operation.under (around : Surroundings) (base : Text) : Operation τ → Operation τ
  | .request method url => .request method (some (base ++ Router.urlOf around url))
  | operation => operation

/-- The answer of a router under a base path: a URL gets the base path. -/
def Answer.under (base : Text) : Answer τ → Answer τ
  | .url text => .url (base ++ text)
  | answer => answer

/-- Whether an operation leaves the base path alone. -/
def Operation.keepsBasePath : Operation τ → Bool
  | .setBasePath _ => false
  | .add _ | .addAll _ | .addMatchTypes _ | .compile | .request _ _ | .generate _ _ => true

namespace Router

variable {router : Router τ} {base : Text} {around : Surroundings}

section

variable [Unicode.Names]

theorem request_under (plain : router.config.basePath = []) (free : '?' ∉ base)
    (method url : Text) :
    (router.setBasePath base).request method (base ++ url) =
      ((router.request method url).1, (router.request method url).2.setBasePath base) := by
  have stripped : pathOf? (router.setBasePath base).config.basePath (base ++ url) =
      pathOf? router.config.basePath url := by
    rw [plain]
    exact pathOf?_under free url
  rw [request, stripped, request]
  cases pathOf? router.config.basePath url <;> rfl

theorem request_outside {method url : Text}
    (outside : ¬ router.config.basePath <+: Text.before '?' url) :
    router.request method url = (.ok none, router) := by
  rw [request, pathOf?_outside outside]

theorem request_query (router : Router τ) (method url query : Text) :
    router.request method (url ++ '?' :: query) = router.request method url := by
  rw [request, pathOf?_query, request]

omit [Unicode.Names] in
theorem generate_under (plain : router.config.basePath = []) (name : Text)
    (values : Text → Option Text) :
    (router.setBasePath base).generate name values =
      (router.generate name values).map (base ++ ·) := by
  have index : (router.setBasePath base).named = router.named := rfl
  have path : (router.setBasePath base).config.basePath = base := rfl
  rw [generate, index, path, generate, plain]
  cases router.named.lookup name with
  | none => rfl
  | some pattern =>
      dsimp only
      split
      · rfl
      · exact buildUrl_under base pattern values

theorem registering_under {operation : Operation τ} (registers : operation.registers = true) :
    (router.setBasePath base).perform around operation =
      ((router.perform around operation).1,
        (router.perform around operation).2.setBasePath base) := by
  obtain ⟨config, compiler⟩ := Alike.perform router around registers
  have refitted : (router.setBasePath base).perform around operation = _ :=
    router.perform_refit (router.config.withBasePath base) router.compiler around registers
  rw [refitted, setBasePath, refit, config, compiler]

omit [Unicode.Names] in
theorem map_under {α : Type} {make : α → Answer τ}
    (same : ∀ value, (make value).under base = make value) (outcome : Except Fault α) :
    (outcome.map make).map (Answer.under base) = outcome.map make := by
  cases outcome with
  | error fault => rfl
  | ok value => exact congrArg Except.ok (same value)

/-- Only a generated URL shows the base path. -/
theorem answer_under {operation : Operation τ}
    (other : ∀ name values, operation ≠ .generate name values) :
    (router.perform around operation).1.map (Answer.under base) =
      (router.perform around operation).1 := by
  cases operation with
  | add entry => exact map_under (fun _ => rfl) _
  | addAll batch => exact map_under (fun _ => rfl) _
  | setBasePath basePath => rfl
  | addMatchTypes types => rfl
  | compile => exact map_under (fun _ => rfl) _
  | request method url => exact map_under (fun _ => rfl) _
  | generate name values => exact absurd rfl (other name values)

/-- **One operation under a base path**: the answer has the base path before a URL, and the router
afterwards differs by the base path alone. -/
theorem perform_under (plain : router.config.basePath = []) (free : '?' ∉ base)
    {operation : Operation τ} (keeps : operation.keepsBasePath = true) :
    (router.setBasePath base).perform around (operation.under around base) =
      ((router.perform around operation).1.map (Answer.under base),
        (router.perform around operation).2.setBasePath base) := by
  cases operation with
  | add entry =>
      rw [answer_under (by simp)]
      exact registering_under rfl
  | addAll batch =>
      rw [answer_under (by simp)]
      exact registering_under rfl
  | setBasePath other => cases keeps
  | addMatchTypes types => rfl
  | compile =>
      rw [answer_under (by simp)]
      rfl
  | request method url =>
      rw [answer_under (by simp)]
      have requested := request_under plain free (methodOf around method) (urlOf around url)
      exact congrArg (Prod.map (Except.map Answer.found) id) requested
  | generate name values =>
      have generated : (router.setBasePath base).generate name values = _ :=
        generate_under plain name values
      refine Prod.ext ?_ rfl
      change ((router.setBasePath base).generate name values).map Answer.url =
        ((router.generate name values).map Answer.url).map (Answer.under base)
      rw [generated]
      cases router.generate name values <;> rfl

theorem basePath_perform {operation : Operation τ} (keeps : operation.keepsBasePath = true) :
    (router.perform around operation).2.config.basePath = router.config.basePath := by
  cases operation with
  | add entry => exact congrArg Config.basePath (Alike.perform router around rfl).config
  | addAll batch => exact congrArg Config.basePath (Alike.perform router around rfl).config
  | setBasePath other => cases keeps
  | addMatchTypes types => rfl
  | compile => rfl
  | request method url =>
      change (router.request _ _).2.config.basePath = _
      unfold request
      split <;> rfl
  | generate name values => rfl

/-- **A run under a base path**: every answer has the base path before a URL, and the router at the
end differs by the base path alone. -/
theorem run_under (plain : router.config.basePath = []) (free : '?' ∉ base)
    {operations : List (Operation τ)}
    (keep : ∀ operation ∈ operations, operation.keepsBasePath = true) :
    (router.setBasePath base).run around (operations.map (Operation.under around base)) =
      ((router.run around operations).1.map (Except.map (Answer.under base)),
        (router.run around operations).2.setBasePath base) := by
  induction operations generalizing router with
  | nil => rfl
  | cons operation others ih =>
      rw [List.forall_mem_cons] at keep
      have still : (router.perform around operation).2.config.basePath = [] :=
        (basePath_perform keep.1).trans plain
      rw [List.map_cons, run_cons, run_cons, perform_under plain free keep.1]
      dsimp only
      rw [ih still keep.2]
      rfl

/-- **Base path and query are transparent.** Take any router that an application can get to and that
has no base path.  Let it serve for a while and then give it a base path that holds no question
mark.

From then on a request for a URL with the base path before it is answered as the request for the URL
was at the start: with the same hit, the same lack of one, or the same fault.  The URL of a route is
what it was, with the base path before it, or the same fault.  A request is without a hit if the
base path is not at the start of its URL, even where a route matches everything.  And over a whole
run of operations, other than new base paths, every answer is what it would have been, apart from
the base path in generated URLs.

In every router, with a base path or without, a query changes neither the answer to a request nor
the router that the request leaves behind. -/
theorem basePath_and_query_are_transparent (reached : router.Reachable)
    (plain : router.config.basePath = []) (free : '?' ∉ base) (around : Surroundings)
    {served : List (Operation τ)} (serve : ∀ operation ∈ served, operation.serves = true) :
    let based := ((router.run around served).2.perform around (.setBasePath base)).2
    (∀ method url, (based.request method (base ++ url)).1 = (router.request method url).1) ∧
    (∀ name values,
      based.generate name values = (router.generate name values).map (base ++ ·)) ∧
    (∀ method url, ¬ base <+: Text.before '?' url → (based.request method url).1 = .ok none) ∧
    (∀ operations, (∀ operation ∈ operations, operation.keepsBasePath = true) →
      (based.run around (operations.map (Operation.under around base))).1 =
        (router.run around operations).1.map (Except.map (Answer.under base))) ∧
    ∀ (other : Router τ) method url query,
      other.request method (url ++ '?' :: query) = other.request method url := by
  intro based
  have agree : Agree router (router.run around served).2 := Agree.served router around serve
  have sound := reached.sound
  have soundToo := (reached.run around served).sound
  have stillPlain : (router.run around served).2.config.basePath = [] := by
    rw [agree.config, plain]
  refine ⟨?requests, ?urls, ?outside, ?runs, request_query⟩
  case requests =>
    intro method url
    have under := congrArg Prod.fst (request_under stillPlain free method url)
    exact under.trans (agree.request sound soundToo method url).1.symm
  case urls =>
    intro name values
    have same : router.generate name values =
        (router.run around served).2.generate name values := by
      rw [generate, generate, agree.named, agree.config]
    rw [same]
    exact generate_under stillPlain name values
  case outside =>
    intro method url outside
    have missed : based.request method url = (.ok none, based) := request_outside outside
    rw [missed]
  case runs =>
    intro operations keep
    rw [(agree.run sound soundToo around operations).1]
    exact congrArg Prod.fst (run_under stillPlain free keep)

end

/-- A table with a route that matches everything, which has been asked and compiled before it gets a
base path. -/
theorem basePath_and_query_are_transparent_catchAll :
    let user : Route Nat := ⟨['*'], "/u/[i:id]".toList, 1, some ['u']⟩
    let built : Router Nat :=
      { config := {}, routes := [user, ⟨['*'], catchAll, 2, none⟩],
        named := [(['u'], user.pattern)], compiler := Config.compiler {} }
    let base : Text := "/app".toList
    let served : List (Operation Nat) := [.request none (some "/u/12".toList), .compile]
    let based := ((built.run {} served).2.perform {} (.setBasePath base)).2
    let values : Text → Option Text := fun name => if name = "id".toList then some ['7'] else none
    (based.request ['G'] "/app/u/12?x=?y".toList).1 =
        .ok (some ⟨user, [("id".toList, "12".toList)]⟩) ∧
      based.generate ['u'] values = .ok "/app/u/7".toList ∧
      (based.request ['G'] "/u/12".toList).1 = .ok none ∧
      (based.request ['G'] "/ap?/app".toList).1 = .ok none ∧
      (based.run {} [.generate ['u'] values, .request none (some "/app".toList)]).1 =
        [.ok (.url "/app/u/7".toList), .ok (.found (some ⟨⟨['*'], catchAll, 2, none⟩, []⟩))] := by
  intro user built base served based values
  have made : build (τ := Nat)
      { routes := .entries [.route user, .route ⟨['*'], catchAll, 2, none⟩] } = .ok built := by
    decide +kernel
  have serve : ∀ operation ∈ served, operation.serves = true := by decide +kernel
  have free : '?' ∉ base := by decide
  obtain ⟨requests, urls, outside, runs, queries⟩ :=
    basePath_and_query_are_transparent (.built made) rfl free {} serve
  refine ⟨?_, ?_, outside _ _ (by decide), outside _ _ (by decide), ?_⟩
  · have asked := requests ['G'] "/u/12".toList
    rw [← queries based ['G'] _ "x=?y".toList] at asked
    exact asked.trans (by decide +kernel)
  · exact (urls ['u'] values).trans (by decide +kernel)
  · have ran := runs [.generate ['u'] values, .request none (some [])]
      (by simp [Operation.keepsBasePath])
    exact ran.trans (by decide +kernel)

end Router

end Signpost

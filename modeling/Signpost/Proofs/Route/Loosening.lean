import Signpost.Proofs.Route.Search
import Signpost.Proofs.Text.Occurrence

/-!
# Looser method filters

An exact method filter names whole methods, and any other filter only has to contain the method.
Among ASCII texts the second kind admits whatever the first one does (`admits_loose`).  So a search
that does not ask for exact methods hits a route no later than one that does, unless it fails before
that on a route which the other search has passed over (`Route.loose_search_hits_no_later`).
-/

namespace Signpost

/-- A filter that names an ASCII method contains it. -/
theorem admits_loose {filter method : Text} (ascii : filter.IsAscii)
    (admitted : admits true filter method = true) (asciiMethod : method.IsAscii) :
    admits false filter method = true := by
  unfold admits at admitted ⊢
  split
  · rfl
  next special =>
    simp only [special, ↓reduceIte, List.any_eq_true, beq_iff_eq] at admitted
    obtain ⟨verb, member, same⟩ := admitted
    have within : Text.trim verb <:+: filter :=
      (Text.trim_infix verb).trans (Text.infix_of_mem_pieces member)
    have lowered : Unicode.lowerText (Text.trim verb) = Unicode.lowerText method := by
      rw [← (ascii.of_infix within).lowerText_upperText, same, asciiMethod.lowerText_upperText]
    rw [if_neg Bool.false_ne_true, Text.occursIn_iff, ← lowered]
    exact ascii.lowerText_infix within

/-- Beyond ASCII two texts may share their upper case and not their lower case. -/
example : admits true "SS".toList ['ß'] = true ∧ admits false "SS".toList ['ß'] = false := by
  decide

namespace Route

variable {τ : Type} {exact : Bool} {method path : Text} {routes : List (Route τ)}
  {compiler : Compiler} {position : Nat} {hit : Hit τ}

section

variable [Unicode.Names]

theorem match?_of_admits {route : Route τ} (admitted : admits exact route.methods method = true) :
    route.match? exact method path compiler = matchPattern? route.pattern path compiler :=
  if_pos admitted

theorem admits_of_match? {route : Route τ} {params : Params}
    (accepted : (route.match? exact method path compiler).1 = .ok (some params)) :
    admits exact route.methods method = true := by
  rw [match?] at accepted
  split at accepted
  next admitted => exact admitted
  · cases accepted

/-- A search hits the route at a position: the routes before it give no hit and no fault, and with
it there is a hit. -/
def HitsAt (exact : Bool) (method path : Text) (routes : List (Route τ)) (compiler : Compiler)
    (position : Nat) (hit : Hit τ) : Prop :=
  (firstHit exact method path (routes.take position) compiler).1 = .ok none ∧
    (firstHit exact method path (routes.take (position + 1)) compiler).1 = .ok (some hit)

theorem firstHit_single_eq_some_iff {route : Route τ} :
    (firstHit exact method path [route] compiler).1 = .ok (some hit) ↔
      route = hit.route ∧
        (hit.route.match? exact method path compiler).1 = .ok (some hit.params) := by
  constructor
  · intro found
    rw [firstHit] at found
    split at found
    · cases found
    next outcome =>
      cases found
      exact ⟨rfl, congrArg Prod.fst outcome⟩
    · cases found
  · rintro ⟨rfl, accepted⟩
    rcases outcome : hit.route.match? exact method path compiler with ⟨result, after⟩
    rw [outcome] at accepted
    obtain rfl : result = .ok (some hit.params) := accepted
    rw [firstHit, outcome]

theorem hitsAt_iff : HitsAt exact method path routes compiler position hit ↔
    (firstHit exact method path (routes.take position) compiler).1 = .ok none ∧
      routes[position]? = some hit.route ∧
      (hit.route.match? exact method path compiler).1 = .ok (some hit.params) := by
  rw [HitsAt, List.take_add_one, firstHit_append_fst]
  refine and_congr_right fun missed => ?_
  rw [missed]
  cases routes[position]? with
  | none => simp [firstHit]
  | some route => simp [firstHit_single_eq_some_iff]

/-- The routes after a hit do not matter. -/
theorem HitsAt.append (hits : HitsAt exact method path routes compiler position hit)
    (later : List (Route τ)) :
    HitsAt exact method path (routes ++ later) compiler position hit := by
  obtain ⟨missed, here, accepted⟩ := hitsAt_iff.mp hits
  obtain ⟨inside, _⟩ := List.getElem?_eq_some_iff.mp here
  refine hitsAt_iff.mpr ⟨?_, ?_, accepted⟩
  · rwa [List.take_append_of_le_length inside.le]
  · rwa [List.getElem?_append_left inside]

/-- A search has a hit exactly if it hits a route at some position. -/
theorem firstHit_eq_some_iff_hitsAt :
    (firstHit exact method path routes compiler).1 = .ok (some hit) ↔
      ∃ position, HitsAt exact method path routes compiler position hit := by
  constructor
  · intro found
    obtain ⟨earlier, later, rfl, accepted, rejected⟩ := firstHit_eq_some_iff.mp found
    refine ⟨earlier.length, hitsAt_iff.mpr ⟨?_, by simp, accepted⟩⟩
    rw [List.take_left]
    exact firstHit_eq_none_iff.mpr rejected
  · rintro ⟨position, _, hits⟩
    rw [← List.take_append_drop (position + 1) routes, firstHit_append_fst, hits]

/-- **Without exact methods a search hits no later.** An ASCII filter that names an ASCII method
contains it.

Take routes with such filters, such a method, any path, and any compiler, whatever it has kept.  If
a search for exact methods hits the route at some position, then the search for methods that are
only contained fails on one of the routes before it, or hits a route at that position or before.  It
has the same hit, if it is the same position. -/
theorem loose_search_hits_no_later (ascii : method.IsAscii) (path : Text) (compiler : Compiler) :
    (∀ filter : Text, filter.IsAscii → admits true filter method = true →
      admits false filter method = true) ∧
    ∀ routes : List (Route τ), (∀ route ∈ routes, route.methods.IsAscii) →
      ∀ position hit, HitsAt true method path routes compiler position hit →
        (∃ fault, (firstHit false method path routes compiler).1 = .error fault ∧
          (firstHit false method path (routes.take position) compiler).1 = .error fault) ∨
        ∃ earlier other, earlier ≤ position ∧
          HitsAt false method path routes compiler earlier other ∧
          (earlier = position → other = hit) := by
  refine ⟨fun filter plain admitted => admits_loose plain admitted ascii, ?_⟩
  intro routes filters position hit hits
  obtain ⟨_, here, accepted⟩ := hitsAt_iff.mp hits
  match outcome : (firstHit false method path (routes.take position) compiler).1 with
  | .error fault =>
      refine .inl ⟨fault, ?_, rfl⟩
      rw [← List.take_append_drop position routes, firstHit_append_fst, outcome]
  | .ok none =>
      -- The route is asked, and its filter admits the method.
      have exactly := admits_of_match? accepted
      have loosely := admits_loose (filters hit.route (List.mem_of_getElem? here)) exactly ascii
      refine .inr ⟨position, hit, le_rfl, hitsAt_iff.mpr ⟨outcome, here, ?_⟩, fun _ => rfl⟩
      rwa [match?_of_admits loosely, ← match?_of_admits exactly]
  | .ok (some other) =>
      obtain ⟨earlier, hitsToo⟩ := firstHit_eq_some_iff_hitsAt.mp outcome
      obtain ⟨_, place, _⟩ := hitsAt_iff.mp hitsToo
      have before : earlier < position := by
        obtain ⟨inside, _⟩ := List.getElem?_eq_some_iff.mp place
        rw [List.length_take] at inside
        omega
      refine .inr ⟨earlier, other, before.le, ?_, fun same => absurd same before.ne⟩
      rw [← List.take_append_drop position routes]
      exact hitsToo.append (routes.drop position)

end

/-- A filter that contains the method in a longer word, before one that names it between blanks. -/
theorem loose_search_hits_no_later_longer_word :
    let widget : Route Nat := ⟨"WIDGET".toList, "/[:name]".toList, 1, none⟩
    let item : Route Nat := ⟨"PUT | get".toList, "/[i:id]".toList, 2, none⟩
    let routes : List (Route Nat) := [⟨"POST".toList, "/7".toList, 0, none⟩, widget, item]
    let compiler : Compiler := .new [] true
    let exactly : Hit Nat := ⟨item, [("id".toList, ['7'])]⟩
    HitsAt true "Get".toList "/7".toList routes compiler 2 exactly ∧
      (∃ earlier other, earlier ≤ 2 ∧
        HitsAt false "Get".toList "/7".toList routes compiler earlier other ∧
        (earlier = 2 → other = exactly)) ∧
      HitsAt false "Get".toList "/7".toList routes compiler 1
        ⟨widget, [("name".toList, ['7'])]⟩ := by
  intro widget item routes compiler exactly
  have ascii : Text.IsAscii "Get".toList := by decide
  have filters : ∀ route ∈ routes, route.methods.IsAscii := by decide
  have hits : HitsAt true "Get".toList "/7".toList routes compiler 2 exactly := by
    constructor <;> decide +kernel
  have loosely : HitsAt false "Get".toList "/7".toList routes compiler 1
      ⟨widget, [("name".toList, ['7'])]⟩ := by
    constructor <;> decide +kernel
  obtain ⟨_, later⟩ := loose_search_hits_no_later ascii "/7".toList compiler
  refine ⟨hits, (later routes filters 2 exactly hits).resolve_left ?_, loosely⟩
  rintro ⟨fault, failed, _⟩
  rw [firstHit_eq_some_iff_hitsAt.mpr ⟨1, loosely⟩] at failed
  cases failed

end Route

end Signpost

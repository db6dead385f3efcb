import Signpost.Proofs.Pattern.Expression

/-!
# Compiled patterns match as their tokens do

The regular expression of a pattern with built-in types answers exactly what `matchTokens?` answers
(`match?_eq_matchTokens?`).  The argument goes token by token.  Running the piece of a placeholder
tries the places that its takings lead to (`run_piece`), in the same order; and what the groups have
kept at the end is, group by group, what the takings took (`report_runPieces`).
-/

namespace Signpost

open Regex

theorem findSome?_congr_mem {α β : Type} {items : List α} {f g : α → Option β}
    (same : ∀ item ∈ items, f item = g item) : items.findSome? f = items.findSome? g := by
  induction items with
  | nil => rfl
  | cons item others ih =>
      rw [List.findSome?_cons, List.findSome?_cons, same item List.mem_cons_self,
        ih fun other member => same other (List.mem_cons_of_mem _ member)]

/-- The fragment of a type tries the values of the type. -/
theorem BuiltinType.run_piece (type : BuiltinType) (next : Continuation) (place : Place) :
    type.piece.regex.run next place =
      (type.values place.after).findSome? fun split => next (place.skip split.1.length) := by
  have accepted : type.set.contains = type.accepts := funext type.contains_set
  have possessive : (Regex.repeated (.chars type.set) 1 none .possessive).run next place =
      (if (place.after.takeWhile type.accepts).isEmpty then []
        else [(place.after.takeWhile type.accepts, place.after.dropWhile type.accepts)]).findSome?
          fun split => next (place.skip split.1.length) := by
    rw [run_possessive, accepted]
    split <;> simp
  cases type with
  | shortest =>
      have tried := run_lazy BuiltinType.shortest.set next place
      rw [accepted] at tried
      exact tried
  | digits | alphanumeric | hexadecimal | longest | segment => exact possessive

namespace Placeholder

theorem run_grouped (number : Nat) (value : Piece) (next : Continuation) (place : Place) :
    (grouped number value).regex.run next place =
      value.regex.run (fun later => next (later.keep number (place.stretchTo later))) place := by
  change (sequence [value]).regex.run _ place = _
  rw [run_sequence]
  rfl

/-- A placeholder finds its separator and runs its group, or takes less where it may. -/
theorem run_segment (p : Placeholder) (group : Piece) (next : Continuation) (place : Place) :
    (p.segment (p.separator.map .ofChar).reverse group).regex.run next place =
      ((place.after.dropPrefix? p.separator).bind fun _ =>
        (group.regex.run next (place.skip p.separator.length)).or
          (if p.optional then next (place.skip p.separator.length) else none)).or
        (if p.optional then next place else none) := by
  rw [segment, run_marked]
  change ((sequence _).regex.run next place).or _ = _
  rw [run_sequence, List.reverse_cons, List.reverse_reverse, runPieces_append, runPieces_text]
  simp only [runPieces_cons, runPieces_nil, run_marked]

end Placeholder

/-- The place that a taking leads to, with the value kept under a number. -/
def Taking.reach (taking : Taking) (number : Nat) (place : Place) : Place :=
  let finish := place.skip (place.after.length - taking.rest.length)
  match taking.value with
  | none => finish
  | some value => finish.keep number ⟨value ++ taking.rest, value.length⟩

namespace Placeholder

/-- The piece of a placeholder tries the places that its takings lead to. -/
theorem run_piece {p : Placeholder} {type : BuiltinType} (typed : p.type? = some type)
    (number : Nat) (next : Continuation) (place : Place) :
    (p.piece number).regex.run next place =
      (p.takings place.after).findSome? fun taking => next (taking.reach number place) := by
  have absent (rest : Text) (count : Nat) (left : place.after.length - rest.length = count) :
      (if p.optional then [⟨none, rest⟩] else []).findSome?
          (fun taking : Taking => next (taking.reach number place)) =
        if p.optional then next (place.skip count) else none := by
    split <;> simp [Taking.reach, left]
  rw [piece, typed]
  simp only
  rw [run_segment, takings, List.findSome?_append, absent place.after 0 (Nat.sub_self _),
    Place.skip_zero]
  congr 1
  cases found : place.after.dropPrefix? p.separator with
  | none => rfl
  | some rest =>
      have whole := dropPrefix?_eq_some.mp found
      have count : place.after.length - rest.length = p.separator.length := by
        rw [whole, List.length_append, Nat.add_sub_cancel]
      have after : (place.skip p.separator.length).after = rest := by
        rw [Place.skip_after, whole, List.drop_left]
      simp only [Option.bind_some, List.findSome?_append, List.findSome?_map]
      rw [absent rest _ count, run_grouped, BuiltinType.run_piece, after, values, typed]
      congr 1
      apply findSome?_congr_mem
      rintro ⟨value, left⟩ member
      obtain ⟨parted, _, _⟩ := BuiltinType.mem_values member
      have reached : place.after.length - left.length = p.separator.length + value.length := by
        rw [whole, parted]
        simp only [List.length_append]
        omega
      simp only [Function.comp_apply, Taking.reach, reached, Place.skip_skip, Place.stretchTo,
        Place.skip_index, after, parted]
      congr 3
      omega

end Placeholder

/-- A taking leaves the text that it says. -/
theorem Taking.reach_after {p : Placeholder} {taking : Taking} {place : Place}
    (member : taking ∈ p.takings place.after) (number : Nat) :
    (taking.reach number place).after = taking.rest := by
  have suffix : ∃ front, place.after = front ++ taking.rest := by
    rcases Placeholder.mem_takings member with ⟨value, _, _, _, _, whole⟩ | ⟨_, _, whole | whole⟩
    · exact ⟨p.separator ++ value, by rw [whole, List.append_assoc]⟩
    · exact ⟨p.separator, whole⟩
    · exact ⟨[], whole⟩
  obtain ⟨front, whole⟩ := suffix
  have rest : place.after.drop (place.after.length - taking.rest.length) = taking.rest := by
    rw [whole, List.length_append, Nat.add_sub_cancel, List.drop_left]
  rw [reach]
  cases taking.value with
  | none => exact rest
  | some value => exact rest

/-- A taking keeps its value, if it has one, under the number of its group. -/
theorem Taking.reach_keptBy (taking : Taking) (number other : Nat) (place : Place) :
    (taking.reach number place).keptBy other =
      if other = number then taking.value.or (place.keptBy number) else place.keptBy other := by
  cases valued : taking.value with
  | none =>
      simp only [reach, valued, Option.none_or]
      split
      · next same => rw [same]; rfl
      · rfl
  | some value =>
      simp only [reach, valued, Place.keptBy, Place.keep, List.lookup_cons, Option.some_or]
      by_cases same : other = number
      · simp [same, Stretch.text]
      · simp [same, beq_false_of_ne same]

/-- The end of a match: the whole text has been gone through. -/
def atEnd : Continuation :=
  (Piece.ofAnchor .finish).regex.run some

theorem atEnd_eq (place : Place) : atEnd place = if place.after.isEmpty then some place else none :=
  rfl

/-- Groups before the first one of the tokens are left alone. -/
theorem keptBy_runPieces {parts : List Token} {number : Nat} (place : Place) {final : Place}
    (typed : ∀ p ∈ placeholdersOf parts, ∃ type, p.type? = some type)
    (reached : runPieces (piecesOf number parts) atEnd place = some final) {other : Nat}
    (before : other < number) : final.keptBy other = place.keptBy other := by
  induction parts generalizing number place with
  | nil =>
      rw [piecesOf, runPieces_nil, atEnd_eq] at reached
      split at reached
      · cases reached
        rfl
      · cases reached
  | cons token others ih =>
      cases token with
      | literal text =>
          rw [piecesOf, runPieces_append, runPieces_text, Option.bind_eq_some_iff] at reached
          obtain ⟨_, _, reached⟩ := reached
          exact ih (place.skip text.length) typed reached before
      | placeholder p =>
          obtain ⟨type, isType⟩ := typed p List.mem_cons_self
          rw [piecesOf, runPieces_cons, Placeholder.run_piece isType] at reached
          obtain ⟨taking, _, reached⟩ := List.exists_of_findSome?_eq_some reached
          rw [ih _ (fun q member => typed q (List.mem_cons_of_mem _ member)) reached
            (Nat.lt_succ_of_lt before), Taking.reach_keptBy, if_neg (Nat.ne_of_lt before)]

/-- What named groups have kept at a place. -/
def report (groups : List (Text × Nat)) (final : Place) : Params :=
  groups.filterMap fun (name, number) => (final.keptBy number).map (name, ·)

/-- **Running the pieces of tokens** gives the parameters that the tokens have under direct
matching, at any place where the groups of the tokens have kept nothing yet. -/
theorem report_runPieces {parts : List Token} (number : Nat) (place : Place)
    (typed : ∀ p ∈ placeholdersOf parts, ∃ type, p.type? = some type)
    (fresh : ∀ other, number ≤ other → place.keptBy other = none) :
    (runPieces (piecesOf number parts) atEnd place).map (report (groupsOf number parts)) =
      matchTokens? parts place.after := by
  -- A group is reported only by its own token, as the later ones have higher numbers.
  induction parts generalizing number place with
  | nil =>
      rw [piecesOf, runPieces_nil, atEnd_eq, matchTokens?]
      split <;> rfl
  | cons token others ih =>
      cases token with
      | literal text =>
          rw [piecesOf, runPieces_append, runPieces_text, groupsOf, matchTokens?]
          cases found : place.after.dropPrefix? text with
          | none => rfl
          | some rest =>
              have after : (place.skip text.length).after = rest := by
                rw [Place.skip_after, dropPrefix?_eq_some.mp found, List.drop_left]
              simp only [Option.bind_some]
              rw [ih number (place.skip text.length) typed fresh, after]
      | placeholder p =>
          obtain ⟨type, isType⟩ := typed p List.mem_cons_self
          have laterTyped : ∀ q ∈ placeholdersOf others, ∃ type, q.type? = some type :=
            fun q member => typed q (List.mem_cons_of_mem _ member)
          rw [piecesOf, runPieces_cons, Placeholder.run_piece isType, matchTokens?,
            List.map_findSome?]
          apply findSome?_congr_mem
          intro taking member
          have later : ∀ other, number + 1 ≤ other →
              (taking.reach number place).keptBy other = none := by
            intro other above
            rw [Taking.reach_keptBy, if_neg (by omega), fresh other (by omega)]
          have same := ih (number + 1) (taking.reach number place) laterTyped later
          rw [Taking.reach_after member] at same
          rw [Function.comp_apply, ← same]
          cases reached : runPieces (piecesOf (number + 1) others) atEnd
              (taking.reach number place) with
          | none => rfl
          | some final =>
              have kept : final.keptBy number = taking.value := by
                rw [keptBy_runPieces _ laterTyped reached (Nat.lt_succ_self number),
                  Taking.reach_keptBy, if_pos rfl, fresh number (Nat.le_refl number),
                  Option.or_none]
              simp only [Option.map_some, groupsOf, report, List.filterMap_append]
              congr 1
              cases valued : taking.value with
              | none =>
                  rw [valued] at kept
                  simp only [Placeholder.record, Placeholder.numbered]
                  split <;> simp [kept]
              | some value =>
                  rw [valued] at kept
                  simp only [Placeholder.record, Placeholder.numbered]
                  split <;> simp [kept]

/-- A pattern whose types resolve to built-in fragments is compiled, and what it is compiled to
answers as its tokens do. -/
theorem exists_compiled [Unicode.Names] {resolver : Resolver} {pattern : Text} {parts : List Token}
    (read : tokens pattern = .ok parts)
    (builtin : ∀ p ∈ placeholdersOf parts, resolver.KeepsBuiltin p)
    (identifiers : ∀ name ∈ namesOf parts, Unicode.isIdentifier name = true)
    (distinct : (namesOf parts).Nodup) :
    ∃ compiled, compilePlaceholders resolver pattern = .ok compiled ∧
      ∀ path, compiled.match? path = matchTokens? parts path := by
  obtain ⟨source, compiled⟩ := compilePlaceholders_builtin read builtin identifiers distinct
  refine ⟨_, compiled, ?_⟩
  intro path
  have typed : ∀ p ∈ placeholdersOf parts, ∃ type, p.type? = some type := by
    intro p member
    obtain ⟨type, isType, _⟩ := builtin p member
    exact ⟨type, isType⟩
  have ran : firstMatch (sequence (anchoredPieces parts).reverse).regex path =
      runPieces (piecesOf 1 parts) atEnd (Place.startOf path) := by
    rw [firstMatch, run_sequence, List.reverse_reverse, anchoredPieces, runPieces_cons,
      runPieces_append]
    rfl
  have answered := report_runPieces 1 (Place.startOf path) typed
    fun other _ => rfl
  rw [← ran] at answered
  exact answered

/-- A known type resolves to its fragment in the built-in table, however unknown keys are treated. -/
theorem keepsBuiltin_builtin {p : Placeholder} (known : p.type?.isSome = true) (strict : Bool) :
    (Resolver.mk MatchTypes.builtin strict).KeepsBuiltin p := by
  obtain ⟨type, isType⟩ := Option.isSome_iff_exists.mp known
  refine ⟨type, isType, ?_⟩
  rw [Resolver.fragment?, ← BuiltinType.key_of_ofKey? isType, BuiltinType.fragment?_key]

/-- **Compiled patterns match as their tokens do.** With the built-in table, every pattern that has
tokens, known types and distinct identifiers as names is compiled, and for every path the compiled
pattern answers what trying the tokens directly answers. -/
theorem match?_eq_matchTokens? [Unicode.Names] (strict : Bool) (pattern : Text) (parts : List Token)
    (read : tokens pattern = .ok parts)
    (known : ∀ p ∈ placeholdersOf parts, p.type?.isSome = true)
    (identifiers : ∀ name ∈ namesOf parts, Unicode.isIdentifier name = true)
    (distinct : (namesOf parts).Nodup) :
    ∃ compiled, compilePlaceholders ⟨MatchTypes.builtin, strict⟩ pattern = .ok compiled ∧
      ∀ path, compiled.match? path = matchTokens? parts path :=
  exists_compiled read (fun p member => keepsBuiltin_builtin (known p member) strict) identifiers
    distinct

/-- Two wildcards, an optional segment and a separator inside a bracket. -/
theorem match?_eq_matchTokens?_wildcards :
    ∃ compiled,
      compilePlaceholders ⟨MatchTypes.builtin, true⟩ "/[*:dir]/[**:file]?x[.a:kind]".toList =
          .ok compiled ∧
        ∀ path, compiled.match? path = matchTokens?
          [.placeholder ⟨some .slash, none, ['*'], some "dir".toList, false⟩,
            .placeholder ⟨some .slash, none, ['*', '*'], some "file".toList, true⟩,
            .literal ['x'],
            .placeholder ⟨none, some .point, ['a'], some "kind".toList, false⟩] path :=
  match?_eq_matchTokens? true _ _ (by decide) (by decide) (by decide) (by decide)

end Signpost

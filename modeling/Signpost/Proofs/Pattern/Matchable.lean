import Mathlib.Data.List.Chain
import Signpost.Proofs.Pattern.Refinement

/-!
# Patterns that some path matches

A value of any type but `*` runs on for as long as its type accepts the characters, and gives
nothing back.  So what follows it in a path has to begin with a character that its type does not
accept, and a pattern such as `/[i:id]5` matches no path at all.  `layouts` lists what the tokens of
a pattern can lay out: texts and values, with each segment that may be absent in full, reduced to
its separator, or left out.  Some path is matched exactly if in one of these layouts every stretch
leaves a character for the next one to begin with (`exists_match?_iff_matchable`), which can be
decided from the tokens.  The two directions go token by token, with the stretch that stands before
the tokens as the parameter of the induction.
-/

namespace Signpost

/-- A stretch of a path. -/
inductive Slot where
  /-- A text that begins with a character. -/
  | text (c : Char)
  /-- A value of a type. -/
  | value (type : BuiltinType)
  deriving DecidableEq, Repr

namespace Slot

/-- Whether a stretch can begin with a character. -/
def begins : Slot → Char → Bool
  | text first, c => first == c
  | value type, c => type.accepts c

/-- Whether a stretch goes on with a character that follows it. -/
def absorbs : Slot → Char → Bool
  | text _, _ => false
  | value .shortest, _ => false
  | value type, c => type.accepts c

/-- The first stretch leaves a character for the second one to begin with. -/
def Leaves (first second : Slot) : Prop :=
  ∃ c, second.begins c = true ∧ first.absorbs c = false

/-- The stretches that a text makes: none if it is empty. -/
def ofText : Text → List Slot
  | [] => []
  | c :: _ => [text c]

/-- The last stretch after a text has been put behind a stretch. -/
def after (first : Slot) : Text → Slot
  | [] => first
  | c :: _ => text c

/-- A stretch can end before a text. -/
def StopsAt (slot : Slot) (rest : Text) : Prop :=
  ∀ c ∈ rest.head?, slot.absorbs c = false

end Slot

/-- What a placeholder can lay out. -/
def Placeholder.layouts (p : Placeholder) : List (List Slot) :=
  let lead := Slot.ofText p.separator
  (p.type?.toList.map fun type => lead ++ [.value type]) ++ if p.optional then [lead, []] else []

/-- What tokens can lay out. -/
def layouts : List Token → List (List Slot)
  | [] => [[]]
  | .literal text :: others => (layouts others).map (Slot.ofText text ++ ·)
  | .placeholder p :: others => p.layouts.flatMap fun front => (layouts others).map (front ++ ·)

/-- In one of the layouts every stretch leaves a character for the next one to begin with. -/
def Matchable (parts : List Token) : Prop :=
  ∃ layout ∈ layouts parts, layout.IsChain Slot.Leaves

/-- A character for each choice of types that accept it. -/
def BuiltinType.samples : List Char := ['0', 'a', 'g', '-', '/', '\n']

theorem BuiltinType.exists_sample (c : Char) :
    ∃ d ∈ samples, ∀ type : BuiltinType, type.accepts d = type.accepts c := by
  by_cases ascii : c.toNat < 128
  · have known : ∀ n < 128, (samples.any fun d =>
        [digits, alphanumeric, hexadecimal, shortest, longest, segment].all fun type =>
          type.accepts d == type.accepts (Char.ofNat n)) = true := by
      decide +kernel
    obtain ⟨d, member, same⟩ := List.any_eq_true.mp (known c.toNat ascii)
    rw [Char.ofNat_toNat] at same
    refine ⟨d, member, fun type => ?_⟩
    exact beq_iff_eq.mp (List.all_eq_true.mp same type (by cases type <;> decide))
  · refine ⟨'-', by decide, fun type => ?_⟩
    have high : 127 < c.val := UInt32.lt_iff_toNat_lt.mpr (Nat.lt_of_not_le fun low =>
      ascii (Nat.lt_succ_of_le low))
    have apart {d : Char} (low : d.val < 128) : c ≠ d := by grind
    have above {d : Char} (low : d.val < 128) : ¬ c ≤ d := by
      rw [Char.le_def]
      grind
    have digitless : c.isDigit = false := by
      simp only [Char.isDigit]
      grind
    have letterless : c.isAlphanum = false := by
      change (decide (65 ≤ c.val ∧ c.val ≤ 90) || (decide (97 ≤ c.val) && decide (c.val ≤ 122)) ||
        c.isDigit) = false
      rw [digitless]
      grind
    cases type with
    | digits => exact digitless.symm
    | alphanumeric => exact letterless.symm
    | hexadecimal => simp [accepts, digitless, above]
    | shortest | longest | segment => simp [accepts, apart]

/-- Every type accepts the digit zero. -/
theorem BuiltinType.accepts_zero (type : BuiltinType) : type.accepts '0' = true := by
  cases type <;> decide

namespace Slot

/-- Every type but the shortest one takes all that it accepts. -/
theorem absorbs_value {type : BuiltinType} (possessive : type ≠ .shortest) (c : Char) :
    (value type).absorbs c = type.accepts c := by
  cases type with
  | shortest => exact absurd rfl possessive
  | digits | alphanumeric | hexadecimal | longest | segment => rfl

theorem absorbs_congr {c d : Char} (same : ∀ type : BuiltinType, type.accepts d = type.accepts c)
    (slot : Slot) : slot.absorbs d = slot.absorbs c := by
  cases slot with
  | text _ => rfl
  | value type =>
      by_cases possessive : type = .shortest
      · rw [possessive]
        rfl
      · rw [absorbs_value possessive, absorbs_value possessive, same]

theorem leaves_text_iff {first : Slot} {c : Char} :
    first.absorbs c = false ↔ first.Leaves (text c) := by
  simp [Leaves, begins]

theorem leaves_value_iff {first : Slot} {type : BuiltinType} :
    (BuiltinType.samples.any fun d => type.accepts d && !first.absorbs d) = true ↔
      first.Leaves (value type) := by
  simp only [List.any_eq_true, Bool.and_eq_true, Bool.not_eq_true']
  constructor
  · rintro ⟨d, _, accepted, spared⟩
    exact ⟨d, accepted, spared⟩
  · rintro ⟨c, accepted, spared⟩
    obtain ⟨d, member, same⟩ := BuiltinType.exists_sample c
    exact ⟨d, member, (same type).trans accepted, (absorbs_congr same first).trans spared⟩

instance : DecidableRel Leaves
  | _, text _ => decidable_of_iff _ leaves_text_iff
  | _, value _ => decidable_of_iff _ leaves_value_iff

end Slot

instance (parts : List Token) : Decidable (Matchable parts) :=
  inferInstanceAs (Decidable (∃ layout ∈ layouts parts, layout.IsChain Slot.Leaves))

namespace Slot

variable {first : Slot} {t rest : Text} {layout : List Slot}

/-- A text can end before anything. -/
theorem stopsAt_text (c : Char) : (text c).StopsAt rest := fun _ _ => rfl

theorem chain_text (c : Char) (chain : layout.IsChain Leaves) :
    (text c :: layout).IsChain Leaves := by
  cases layout with
  | nil => exact List.isChain_singleton _
  | cons next more =>
      have begun : ∃ d, next.begins d = true := by
        cases next with
        | text d => exact ⟨d, beq_self_eq_true d⟩
        | value type => exact ⟨'0', type.accepts_zero⟩
      obtain ⟨d, begun⟩ := begun
      exact List.isChain_cons_cons.mpr ⟨⟨d, begun, rfl⟩, chain⟩

theorem stopsAt_after (stops : first.StopsAt (t ++ rest)) : (first.after t).StopsAt rest := by
  cases t with
  | nil => exact stops
  | cons c more => exact fun _ _ => rfl

theorem chain_ofText (stops : first.StopsAt (t ++ rest))
    (chain : (first.after t :: layout).IsChain Leaves) :
    (first :: (ofText t ++ layout)).IsChain Leaves := by
  cases t with
  | nil => exact chain
  | cons c more =>
      exact List.isChain_cons_cons.mpr ⟨⟨c, by simp [begins], stops c rfl⟩, chain⟩

theorem chain_after (chain : (first :: (ofText t ++ layout)).IsChain Leaves) :
    (first.after t :: layout).IsChain Leaves := by
  cases t with
  | nil => exact chain
  | cons c more => exact (List.isChain_cons_cons.mp chain).2

theorem stopsAt_append (chain : (first :: (ofText t ++ layout)).IsChain Leaves)
    (stops : (first.after t).StopsAt rest) : first.StopsAt (t ++ rest) := by
  cases t with
  | nil => exact stops
  | cons c more =>
      obtain ⟨⟨d, begun, spared⟩, _⟩ := List.isChain_cons_cons.mp chain
      intro e isHead
      obtain rfl : c = d := by simpa [begins] using begun
      obtain rfl : c = e := Option.some.inj isHead
      exact spared

/-- What follows a value does not go on with it. -/
theorem stopsAt_of_mem_values {type : BuiltinType} {text value : Text}
    (member : (value, rest) ∈ type.values text) : (Slot.value type).StopsAt rest := by
  intro c isHead
  by_cases possessive : type = .shortest
  · rw [possessive]
    rfl
  · rw [absorbs_value possessive]
    exact BuiltinType.stop_of_mem_values possessive member c isHead

/-- A single character can be taken as a value before a text that does not go on with it. -/
theorem mem_values_of_stopsAt {type : BuiltinType} {c : Char} (accepted : type.accepts c = true)
    (stops : (Slot.value type).StopsAt rest) : ([c], rest) ∈ type.values (c :: rest) := by
  by_cases possessive : type = .shortest
  · subst possessive
    rw [BuiltinType.values, Text.splits, if_pos accepted]
    exact List.mem_cons_self
  · have stop : ∀ d ∈ rest.head?, type.accepts d = false := fun d isHead =>
      (absorbs_value possessive d).symm.trans (stops d isHead)
    have only := type.values_append_of_stop possessive (List.cons_ne_nil c [])
      (by simpa using accepted) stop
    rw [List.singleton_append] at only
    rw [only]
    exact List.mem_singleton_self _

end Slot

/-- What a placeholder makes of a text can be laid out, up to a stretch that can end before the
rest. -/
theorem Placeholder.exists_layout {p : Placeholder} {first : Slot} {path : Text} {taking : Taking}
    (member : taking ∈ p.takings path) (stops : first.StopsAt path) :
    ∃ last : Slot, last.StopsAt taking.rest ∧ ∃ front ∈ p.layouts, ∀ layout,
      (last :: layout).IsChain Slot.Leaves → (first :: (front ++ layout)).IsChain Slot.Leaves := by
  rcases mem_takings member with ⟨value, type, _, typed, among, rfl⟩ | ⟨_, optional, rfl | same⟩
  · obtain ⟨_, present, accepted⟩ := BuiltinType.mem_values among
    obtain ⟨c, more, rfl⟩ := List.exists_cons_of_ne_nil present
    have spared := Slot.stopsAt_after stops
    have begun : (first.after p.separator).Leaves (.value type) :=
      ⟨c, accepted c List.mem_cons_self, spared c rfl⟩
    refine ⟨.value type, Slot.stopsAt_of_mem_values among, Slot.ofText p.separator ++ [.value type],
      by simp [layouts, typed], fun layout chain => ?_⟩
    rw [List.append_assoc]
    exact Slot.chain_ofText stops (List.isChain_cons_cons.mpr ⟨begun, chain⟩)
  · exact ⟨_, Slot.stopsAt_after stops, Slot.ofText p.separator, by simp [layouts, optional],
      fun _ chain => Slot.chain_ofText stops chain⟩
  · exact ⟨first, same ▸ stops, [], by simp [layouts, optional], fun _ chain => chain⟩

/-- A path that tokens match can be laid out behind a stretch that can end before it. -/
theorem exists_layout_of_isSome {parts : List Token} {path : Text} {first : Slot}
    (matched : (matchTokens? parts path).isSome) (stops : first.StopsAt path) :
    ∃ layout ∈ layouts parts, (first :: layout).IsChain Slot.Leaves := by
  induction parts generalizing path first with
  | nil => exact ⟨[], List.mem_singleton_self _, List.isChain_singleton _⟩
  | cons token others ih =>
      obtain ⟨params, answered⟩ := Option.isSome_iff_exists.mp matched
      cases token with
      | literal text =>
          obtain ⟨rest, rfl, later⟩ := matchTokens?_literal.mp answered
          obtain ⟨layout, among, chain⟩ :=
            ih (Option.isSome_of_eq_some later) (Slot.stopsAt_after stops)
          exact ⟨_, List.mem_map_of_mem among, Slot.chain_ofText stops chain⟩
      | placeholder p =>
          obtain ⟨taking, member, _, later, _⟩ := matchTokens?_placeholder answered
          obtain ⟨last, spared, front, laid, extend⟩ := Placeholder.exists_layout member stops
          obtain ⟨layout, among, chain⟩ := ih (Option.isSome_of_eq_some later) spared
          exact ⟨front ++ layout,
            List.mem_flatMap.mpr ⟨front, laid, List.mem_map_of_mem among⟩, extend layout chain⟩

/-- A placeholder can take what it lays out before a text that the rest can be laid out for. -/
theorem Placeholder.exists_taking {p : Placeholder} {first : Slot} {front : List Slot}
    (laid : front ∈ p.layouts) {layout : List Slot}
    (chain : (first :: (front ++ layout)).IsChain Slot.Leaves) :
    ∃ last : Slot, (last :: layout).IsChain Slot.Leaves ∧ ∀ rest, last.StopsAt rest →
      ∃ path, first.StopsAt path ∧ ∃ taking ∈ p.takings path, taking.rest = rest := by
  simp only [layouts, List.mem_append, List.mem_map, Option.mem_toList] at laid
  rcases laid with ⟨type, typed, rfl⟩ | absent
  · rw [List.append_assoc] at chain
    have chained := Slot.chain_after chain
    obtain ⟨⟨c, accepted, spared⟩, chained⟩ := List.isChain_cons_cons.mp chained
    refine ⟨.value type, chained, fun rest stops => ?_⟩
    refine ⟨p.separator ++ c :: rest, Slot.stopsAt_append chain ?_, ⟨some [c], rest⟩, ?_, rfl⟩
    · intro d isHead
      obtain rfl : c = d := Option.some.inj isHead
      exact spared
    · have among := Slot.mem_values_of_stopsAt accepted stops
      have valued : ([c], rest) ∈ p.values (c :: rest) := by
        rw [values, typed]
        exact among
      simp only [takings, dropPrefix?_append, List.mem_append]
      exact Or.inl (Or.inl (List.mem_map.mpr ⟨_, valued, rfl⟩))
  · split at absent
    · next optional =>
        rcases List.mem_cons.mp absent with rfl | absent
        · refine ⟨_, Slot.chain_after chain, fun rest stops => ?_⟩
          refine ⟨p.separator ++ rest, Slot.stopsAt_append chain stops, ⟨none, rest⟩, ?_, rfl⟩
          simp [takings, optional]
        · obtain rfl := List.mem_singleton.mp absent
          refine ⟨first, chain, fun rest stops => ⟨rest, stops, ⟨none, rest⟩, ?_, rfl⟩⟩
          simp [takings, optional]
    · cases absent

/-- What tokens lay out behind a stretch is a path that the stretch can end before and that they
match. -/
theorem exists_path_of_chain {parts : List Token} {first : Slot} {layout : List Slot}
    (among : layout ∈ layouts parts) (chain : (first :: layout).IsChain Slot.Leaves) :
    ∃ path, first.StopsAt path ∧ (matchTokens? parts path).isSome := by
  induction parts generalizing first layout with
  | nil => exact ⟨[], fun _ isHead => (nomatch isHead), rfl⟩
  | cons token others ih =>
      cases token with
      | literal text =>
          obtain ⟨layout, inside, rfl⟩ := List.mem_map.mp among
          obtain ⟨rest, stops, matched⟩ := ih inside (Slot.chain_after chain)
          refine ⟨text ++ rest, Slot.stopsAt_append chain stops, ?_⟩
          rw [matchTokens?, dropPrefix?_append]
          exact matched
      | placeholder p =>
          obtain ⟨front, laid, laidOut⟩ := List.mem_flatMap.mp among
          obtain ⟨layout, inside, rfl⟩ := List.mem_map.mp laidOut
          obtain ⟨last, chained, takes⟩ := Placeholder.exists_taking laid chain
          obtain ⟨rest, stops, matched⟩ := ih inside chained
          obtain ⟨path, before, taking, member, rfl⟩ := takes rest stops
          refine ⟨path, before, ?_⟩
          rw [matchTokens?, List.findSome?_isSome_iff]
          exact ⟨taking, member, by rw [Option.isSome_map, matched]⟩

/-- Some path is matched exactly if some layout leaves every stretch a character to begin with. -/
theorem exists_matchTokens?_iff {parts : List Token} :
    (∃ path, (matchTokens? parts path).isSome) ↔ Matchable parts := by
  constructor
  · rintro ⟨path, matched⟩
    obtain ⟨layout, among, chain⟩ := exists_layout_of_isSome matched (Slot.stopsAt_text '/')
    exact ⟨layout, among, chain.tail⟩
  · rintro ⟨layout, among, chain⟩
    obtain ⟨path, _, matched⟩ := exists_path_of_chain among (Slot.chain_text '/' chain)
    exact ⟨path, matched⟩

/-- **Which patterns some path matches.** With the built-in table, every pattern that has tokens,
known types and distinct identifiers as names is compiled, and some path is matched exactly if some
layout of the tokens leaves every stretch a character to begin with. -/
theorem exists_match?_iff_matchable [Unicode.Names] (strict : Bool) (pattern : Text)
    (parts : List Token) (read : tokens pattern = .ok parts)
    (known : ∀ p ∈ placeholdersOf parts, p.type?.isSome = true)
    (identifiers : ∀ name ∈ namesOf parts, Unicode.isIdentifier name = true)
    (distinct : (namesOf parts).Nodup) :
    ∃ compiled, compilePlaceholders ⟨MatchTypes.builtin, strict⟩ pattern = .ok compiled ∧
      ((∃ path, (compiled.match? path).isSome) ↔ Matchable parts) := by
  obtain ⟨compiled, written, same⟩ := exists_compiled read
    (fun p member => keepsBuiltin_builtin (known p member) strict) identifiers distinct
  refine ⟨compiled, written, ?_⟩
  simp only [same]
  exact exists_matchTokens?_iff

/-- The segment that may be absent has to be, as its digits would take those of the next one. -/
theorem exists_match?_iff_matchable_absent :
    ∃ compiled,
      compilePlaceholders ⟨MatchTypes.builtin, true⟩ "/[h:code]?[i:n].x".toList = .ok compiled ∧
        ((∃ path, (compiled.match? path).isSome) ↔ Matchable
          [.placeholder ⟨some .slash, none, ['h'], "code".toList, true⟩,
            .placeholder ⟨none, none, ['i'], ['n'], false⟩, .literal ".x".toList]) :=
  exists_match?_iff_matchable true _ _ (by decide) (by decide) (by decide) (by decide)

/-- Digits take the five that has to follow them, and a bracket that opens no placeholder is
refused. -/
theorem exists_unmatchable :
    (∃ compiled,
      compilePlaceholders ⟨MatchTypes.builtin, true⟩ "/[i:id]5".toList = .ok compiled ∧
        ∀ path, compiled.match? path = none) ∧
      compilePlaceholders ⟨MatchTypes.builtin, true⟩ "/[i:id]/[".toList =
        .error (.invalidPattern "/[i:id]/[".toList (.strayBracket 8)) := by
  refine ⟨?_, by decide +kernel⟩
  have read : tokens "/[i:id]5".toList =
      .ok [.placeholder ⟨some .slash, none, ['i'], "id".toList, false⟩, .literal ['5']] := by decide
  obtain ⟨compiled, written, same⟩ := exists_compiled read
    (fun p member => keepsBuiltin_builtin (by revert p; decide) true) (by decide) (by decide)
  refine ⟨compiled, written, fun path => ?_⟩
  rw [same, ← Option.not_isSome_iff_eq_none]
  intro matched
  exact absurd (exists_matchTokens?_iff.mp ⟨path, matched⟩) (by decide)

end Signpost

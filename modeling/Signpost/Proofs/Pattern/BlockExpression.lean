import Signpost.Proofs.Pattern.Block
import Signpost.Proofs.Regex.Running

/-!
# The expression of a block

What a block is can also be said by a regular expression.  The expression finds a block where the
scanner does, takes the same characters, and its groups keep the parts of the block
(`BlockExpression.run_regex`): the types and names are the longest possible, since neither a colon
nor a closing bracket can stand in them, and the separator is left out only where there is none.
-/

namespace Signpost

open Regex

namespace Regex.Place

/-- The place after a group has taken a number of characters. -/
def taken (place : Place) (number length : Nat) : Place :=
  (place.skip length).keep number ⟨place.after, length⟩

variable (place : Place)

@[simp] theorem taken_after (number length : Nat) :
    (place.taken number length).after = place.after.drop length := rfl

@[simp] theorem taken_index (number length : Nat) :
    (place.taken number length).index = place.index + length := rfl

@[simp] theorem skip_keptBy (count number : Nat) :
    (place.skip count).keptBy number = place.keptBy number := rfl

theorem taken_keptBy (number length other : Nat) :
    (place.taken number length).keptBy other =
      if other = number then some (place.after.take length) else place.keptBy other := by
  rw [taken, keptBy, keep, List.lookup_cons]
  by_cases same : other = number
  · simp [same, Stretch.text]
  · rw [beq_eq_false_iff_ne.mpr same, if_neg same]
    rfl

theorem keep_stretchTo_skip (number length : Nat) :
    (place.skip length).keep number (place.stretchTo (place.skip length)) =
      place.taken number length := by
  simp [stretchTo, taken]

end Regex.Place

namespace BlockExpression

open Placeholder

/-- The regular expression of a block: a separator or nothing, brackets around a type and perhaps a
colon and a name, and a question mark or nothing.  The groups are the separator, the type with a
separator of its own, the name and the question mark. -/
def source : Text :=
  "(/|\\.|)\\[([^:\\]]*)(?::([^:\\]]*))?\\](\\?|)".toList

/-- One character of a type or a name. -/
def keySet : CharSet :=
  .members [.one ':'.toNat, .one ']'.toNat] true .exact

/-- A given character. -/
def single (c : Char) : Regex :=
  (Piece.ofChar c).regex

def leadGroup : Regex :=
  .capture 1 (.alt (.seq (single '/') .empty) (.alt (.seq (single '.') .empty) .empty))

def keyGroup (number : Nat) : Regex :=
  .capture number (.seq (.repeated (.chars keySet) 0 none .greedy) .empty)

def namePart : Regex :=
  .repeated (.seq (single ':') (.seq (keyGroup 3) .empty)) 0 (some 1) .greedy

def markGroup : Regex :=
  .capture 4 (.alt (.seq (single '?') .empty) .empty)

def regex : Regex :=
  .seq leadGroup (.seq (single '[') (.seq (keyGroup 2)
    (.seq namePart (.seq (single ']') (.seq markGroup .empty)))))

theorem read_source [Unicode.Names] : Regex.read source = .ok ⟨regex, []⟩ :=
  rfl

theorem contains_keySet (c : Char) : keySet.contains c = isKeyChar c := by
  have code (d : Char) : (d.toNat == c.toNat) = (c == d) := by
    rw [Bool.eq_iff_iff, beq_iff_eq, beq_iff_eq, Char.toNat_inj, eq_comm]
  have plain : [Member.one ':'.toNat, .one ']'.toNat].any (Member.moves .exact) = false := rfl
  simp only [keySet, CharSet.contains, plain, Bool.false_eq_true, ↓reduceIte, List.any_cons,
    List.any_nil, Member.contains, code, isKeyChar, bne, Bool.or_false]
  cases c == ':' <;> cases c == ']' <;> rfl

theorem run_single (c : Char) (next : Continuation) (place : Place) :
    (single c).run next place =
      if place.after.head? = some c then next (place.skip 1) else none := by
  rw [single, Piece.ofChar, Piece.ofSet, run_chars]
  cases place.after with
  | nil => rfl
  | cons d rest =>
      simp only [contains_only, List.head?_cons, Option.some.injEq, beq_iff_eq, @eq_comm _ c]

/-- The number of characters of the type or name at a place. -/
def keyLength (place : Place) : Nat :=
  (place.after.takeWhile isKeyChar).length

theorem run_keyGroup {number : Nat} {next : Continuation}
    (refuses : RefusesAt isKeyChar next) (place : Place) :
    (keyGroup number).run next place = next (place.taken number (keyLength place)) := by
  have same : keySet.contains = isKeyChar := funext contains_keySet
  have refusesToo : RefusesAt keySet.contains fun later =>
      next (later.keep number (place.stretchTo later)) := by
    intro later c first accepted
    rw [contains_keySet] at accepted
    exact refuses _ c first accepted
  change (Regex.repeated (.chars keySet) 0 none .greedy).run
    (fun later => next (later.keep number (place.stretchTo later))) place = _
  rw [run_greedy_of_refusal refusesToo, Place.keep_stretchTo_skip, same]
  rfl

/-- The number of characters of the question mark at the start of a text. -/
def markLength (text : Text) : Nat :=
  if text.head? = some '?' then 1 else 0

theorem run_markGroup (place : Place) :
    (Regex.seq markGroup .empty).run some place =
      some (place.taken 4 (markLength place.after)) := by
  simp only [markGroup, run, run_single, Place.keep_stretchTo_skip, markLength]
  by_cases question : place.after.head? = some '?'
  · simp [question]
  · simp only [question, ↓reduceIte]
    exact congrArg some (Place.keep_stretchTo_skip place 4 0)

/-- What is left of the expression after the name. -/
def closing : Continuation :=
  (Regex.seq (single ']') (.seq markGroup .empty)).run some

theorem closing_eq (place : Place) :
    closing place =
      if place.after.head? = some ']' then
        some ((place.skip 1).taken 4 (markLength (place.after.drop 1)))
      else none := by
  have unfolded : closing place = (single ']').run ((Regex.seq markGroup .empty).run some) place :=
    rfl
  rw [unfolded, run_single, run_markGroup, Place.skip_after]

theorem closing_refuses : RefusesAt isKeyChar closing := by
  intro place c first accepted
  rw [closing_eq, if_neg]
  intro closed
  obtain rfl := Option.some.inj (closed.symm.trans first)
  cases accepted

theorem closing_of_open {place : Place} (opened : ∀ rest, place.after ≠ ']' :: rest) :
    closing place = none := by
  rw [closing_eq, if_neg]
  intro closed
  obtain ⟨rest, closed⟩ := List.head?_eq_some_iff.mp closed
  exact opened rest closed

/-- What is left of the expression after the type. -/
def naming : Continuation :=
  namePart.run closing

theorem naming_eq (place : Place) :
    naming place =
      if place.after.head? = some ':' then
        closing ((place.skip 1).taken 3 (keyLength (place.skip 1)))
      else closing place := by
  rw [naming, namePart, run_optional]
  change ((single ':').run ((keyGroup 3).run closing) place).or (closing place) = _
  rw [run_single, run_keyGroup closing_refuses]
  by_cases colon : place.after.head? = some ':'
  · have unclosed : closing place = none := by
      rw [closing_eq, colon, if_neg (by decide)]
    rw [if_pos colon, if_pos colon, unclosed, Option.or_none]
  · rw [if_neg colon, if_neg colon, Option.none_or]

theorem naming_refuses : RefusesAt isKeyChar naming := by
  intro place c first accepted
  rw [naming_eq, if_neg]
  · exact closing_refuses place c first accepted
  · intro colon
    obtain rfl := Option.some.inj (colon.symm.trans first)
    cases accepted

/-- Where a match ends, and what the groups of the expression have kept. -/
def reading (final : Place) : Nat × List (Option Text) :=
  (final.index, [final.keptBy 1, final.keptBy 2, final.keptBy 3, final.keptBy 4])

/-- The reading for a placeholder whose block, apart from what stands before the bracket, starts
after a number of characters. -/
def readingOf (index : Nat) (p : Placeholder) : Nat × List (Option Text) :=
  (index + (bracketed p.key p.label ++ p.questionMark).length,
    [some (Separator.textOf p.lead), some p.key, p.label, some p.questionMark])

theorem questionMark_ofParts (lead : Option Separator) (key : Text) (label : Option Text)
    (rest : Text) : (ofParts lead key label rest).questionMark = rest.take (markLength rest) := by
  cases rest with
  | nil => rfl
  | cons c others =>
      by_cases question : c = '?' <;> simp [markLength, questionMark, ofParts, question]

theorem markLength_le (rest : Text) : markLength rest ≤ rest.length := by
  cases rest with
  | nil => exact Nat.le_refl _
  | cons c others => by_cases question : c = '?' <;> simp [markLength, question]

theorem take_keyLength (place : Place) :
    place.after.take (keyLength place) = place.after.takeWhile isKeyChar :=
  List.prefix_iff_eq_take.mp (List.takeWhile_prefix _) |>.symm

theorem drop_keyLength (place : Place) :
    place.after.drop (keyLength place) = place.after.dropWhile isKeyChar := by
  conv_lhs => rw [← List.takeWhile_append_dropWhile (p := isKeyChar) (l := place.after)]
  exact List.drop_left

/-- At the closing bracket, the expression reads what the parts before it are the parts of. -/
theorem reading_closing {place : Place} {lead : Option Separator} {key rest : Text}
    {label : Option Text} {index : Nat} (closed : place.after = ']' :: rest)
    (first : place.keptBy 1 = some (Separator.textOf lead)) (second : place.keptBy 2 = some key)
    (third : place.keptBy 3 = label)
    (length : place.index = index + (key ++ label.elim [] (':' :: ·)).length) :
    (closing place).map reading = some (readingOf index (ofParts lead key label rest)) := by
  rw [closing_eq, closed, List.head?_cons, if_pos rfl]
  simp only [Option.map_some, reading, readingOf, Place.taken_keptBy, Place.skip_keptBy, first,
    second, third, key_ofParts, label_ofParts, lead_ofParts, questionMark_ofParts]
  simp [closed, length, Nat.min_eq_left (markLength_le rest), bracketed, Nat.add_assoc,
    Nat.add_comm 1]

/-- After the colon, the expression reads a name and the closing bracket. -/
theorem reading_named {place : Place} {lead : Option Separator} {key : Text} {index : Nat}
    (first : place.keptBy 1 = some (Separator.textOf lead)) (second : place.keptBy 2 = some key)
    (length : place.index = index + key.length + 1) :
    (closing (place.taken 3 (keyLength place))).map reading =
      (match place.after.dropWhile isKeyChar with
        | ']' :: rest => some (ofParts lead key (some (place.after.takeWhile isKeyChar)) rest)
        | _ => none).map (readingOf index) := by
  have after : (place.taken 3 (keyLength place)).after = place.after.dropWhile isKeyChar :=
    drop_keyLength place
  split
  · next rest closed =>
      refine reading_closing (after.trans closed) ?_ ?_ ?_ ?_
      · rw [Place.taken_keptBy, if_neg (by decide), first]
      · rw [Place.taken_keptBy, if_neg (by decide), second]
      · rw [Place.taken_keptBy, if_pos rfl, take_keyLength]
      · simp [keyLength, length, Nat.add_assoc, Nat.add_comm 1]
  · next opened =>
      rw [closing_of_open (after ▸ opened)]
      rfl

/-- After the opening bracket, the expression reads what the scanner reads. -/
theorem reading_naming {place : Place} {lead : Option Separator}
    (kept : place.keptBy 1 = some (Separator.textOf lead)) (fresh : place.keptBy 3 = none) :
    (naming (place.taken 2 (keyLength place))).map reading =
      (ofBracket? lead place.after).map (readingOf place.index) := by
  let typed := place.taken 2 (keyLength place)
  have after : typed.after = place.after.dropWhile isKeyChar := drop_keyLength place
  have first : typed.keptBy 1 = some (Separator.textOf lead) := by
    rw [Place.taken_keptBy, if_neg (by decide), kept]
  have second : typed.keptBy 2 = some (place.after.takeWhile isKeyChar) := by
    rw [Place.taken_keptBy, if_pos rfl, take_keyLength]
  have third : typed.keptBy 3 = none := by
    rw [Place.taken_keptBy, if_neg (by decide), fresh]
  change (naming typed).map reading = _
  simp only [ofBracket?]
  split
  · next rest closed =>
      rw [naming_eq, after, closed, List.head?_cons, if_neg (by decide)]
      exact reading_closing (after.trans closed) first second third (by simp [typed, keyLength])
  · next more colon =>
      have afterColon : (typed.skip 1).after = more := by
        rw [Place.skip_after, after, colon, List.drop_one, List.tail_cons]
      rw [naming_eq, after, colon, List.head?_cons, if_pos rfl, ← afterColon]
      exact reading_named first second rfl
  · next opened unnamed =>
      rw [naming_eq, if_neg, closing_of_open (after ▸ opened)]
      · rfl
      · intro colon
        obtain ⟨more, colon⟩ := List.head?_eq_some_iff.mp colon
        exact unnamed more (after.symm.trans colon)

/-- What is left of the expression after the separator. -/
def opening : Continuation :=
  (Regex.seq (single '[') (.seq (keyGroup 2)
    (.seq namePart (.seq (single ']') (.seq markGroup .empty))))).run some

theorem opening_eq (place : Place) :
    opening place =
      if place.after.head? = some '[' then
        naming ((place.skip 1).taken 2 (keyLength (place.skip 1)))
      else none := by
  have unfolded : opening place = (single '[').run ((keyGroup 2).run naming) place := rfl
  rw [unfolded, run_single, run_keyGroup naming_refuses]

theorem reading_opening {place : Place} {lead : Option Separator}
    (kept : place.keptBy 1 = some (Separator.textOf lead)) (fresh : place.keptBy 3 = none) :
    (opening place).map reading =
      if place.after.head? = some '[' then
        (ofBracket? lead (place.after.drop 1)).map (readingOf (place.index + 1))
      else none := by
  rw [opening_eq]
  split
  · exact reading_naming kept fresh
  · rfl

/-- The number of characters of the separator at the start of a text. -/
def leadLength (text : Text) : Nat :=
  if (text.head?.bind Separator.ofChar?).isSome then 1 else 0

theorem take_leadLength (text : Text) :
    text.take (leadLength text) = Separator.textOf (text.head?.bind Separator.ofChar?) := by
  cases text with
  | nil => rfl
  | cons c rest =>
      cases isSeparator : Separator.ofChar? c with
      | none => simp [leadLength, isSeparator, Separator.textOf]
      | some separator =>
          obtain rfl := Separator.ofChar?_eq_some.mp isSeparator
          simp [leadLength, isSeparator, Separator.textOf]

/-- The group of the separator takes the separator that there is, since the bracket is none. -/
theorem run_leadGroup (place : Place) :
    leadGroup.run opening place = opening (place.taken 1 (leadLength place.after)) := by
  let next : Continuation := fun later => opening (later.keep 1 (place.stretchTo later))
  have moves : next (place.skip 1) = opening (place.taken 1 1) :=
    congrArg opening (place.keep_stretchTo_skip 1 1)
  have stays : next place = opening (place.taken 1 0) :=
    congrArg opening (place.keep_stretchTo_skip 1 0)
  have tried : leadGroup.run opening place =
      (if place.after.head? = some '/' then opening (place.taken 1 1) else none).or
        ((if place.after.head? = some '.' then opening (place.taken 1 1) else none).or
          (opening (place.taken 1 0))) := by
    change (Regex.alt (.seq (single '/') .empty) (.alt (.seq (single '.') .empty) .empty)).run
      next place = _
    rw [run_alt, run_alt]
    change ((single '/').run next place).or (((single '.').run next place).or (next place)) = _
    rw [run_single, run_single, moves, stays]
  have missed {c : Char} (first : place.after.head? = some c) (other : c ≠ '[') :
      opening (place.taken 1 0) = none := by
    rw [opening_eq, if_neg]
    rw [Place.taken_after, List.drop_zero, first]
    exact fun same => other (Option.some.inj same)
  rw [tried, leadLength]
  by_cases slash : place.after.head? = some '/'
  · simp [slash, missed slash (by decide), Separator.ofChar?]
  · by_cases point : place.after.head? = some '.'
    · simp [point, missed point (by decide), Separator.ofChar?]
    · have noSeparator : place.after.head?.bind Separator.ofChar? = none := by
        rw [Option.bind_eq_none_iff]
        intro c first
        refine Separator.ofChar?_eq_none.mpr ⟨?_, ?_⟩
        · rintro rfl
          exact slash first
        · rintro rfl
          exact point first
      simp [slash, point, noSeparator]

/-- What the scanner finds at the start of a text, by the separator there. -/
theorem atStart?_eq (text : Text) :
    atStart? text =
      if (text.drop (leadLength text)).head? = some '[' then
        ofBracket? (text.head?.bind Separator.ofChar?) (text.drop (leadLength text + 1))
      else none := by
  cases text with
  | nil => rfl
  | cons c rest =>
      cases isSeparator : Separator.ofChar? c with
      | none =>
          have length : leadLength (c :: rest) = 0 := by simp [leadLength, isSeparator]
          rw [length, List.drop_zero, List.head?_cons, Option.bind_some, isSeparator]
          split
          · next bracket =>
              obtain rfl := Option.some.inj bracket
              rfl
          · next other =>
              exact atStart?_eq_none (fun same => other (congrArg some same)) fun _ => isSeparator
      | some separator =>
          obtain rfl := Separator.ofChar?_eq_some.mp isSeparator
          have length : leadLength (separator.char :: rest) = 1 := by
            simp [leadLength, isSeparator]
          rw [length, List.drop_succ_cons, List.drop_zero, List.head?_cons, Option.bind_some,
            isSeparator]
          have notBracket : separator.char ≠ '[' := by cases separator <;> decide
          split
          · next bracket =>
              obtain ⟨tail, rfl⟩ := List.head?_eq_some_iff.mp bracket
              cases separator <;> rfl
          · next other => exact atStart?_eq_none notBracket fun bracket => absurd bracket other

/-- **The expression of a block finds what the scanner finds.** At any place, the expression matches
if and only if a block starts there, the match ends where the block does, and the groups have kept
the parts of the block. -/
theorem run_regex (before text : Text) (index : Nat) :
    (regex.run some ⟨before, text, index, []⟩).map reading =
      (atStart? text).map fun p => (index + p.block.length,
        [some (Separator.textOf p.lead), some p.key, p.label, some p.questionMark]) := by
  let place : Place := ⟨before, text, index, []⟩
  have unfolded : regex.run some place = leadGroup.run opening place := rfl
  change (regex.run some place).map reading = _
  rw [unfolded, run_leadGroup]
  have kept : (place.taken 1 (leadLength text)).keptBy 1 =
      some (Separator.textOf (text.head?.bind Separator.ofChar?)) := by
    rw [Place.taken_keptBy, if_pos rfl]
    exact congrArg some (take_leadLength text)
  have fresh : (place.taken 1 (leadLength text)).keptBy 3 = none := rfl
  rw [reading_opening kept fresh, atStart?_eq, Place.taken_after, List.drop_drop]
  change (if (text.drop _).head? = some '[' then
    (ofBracket? _ (text.drop _)).map (readingOf (index + _ + 1)) else none) = _
  split
  · refine Option.map_congr fun p found => ?_
    obtain ⟨_, lead, _⟩ := ofBracket?_eq_some_iff.mp found
    have length : leadLength text = (Separator.textOf p.lead).length := by
      rw [lead, leadLength]
      cases text.head?.bind Separator.ofChar? <;> rfl
    simp [readingOf, block_eq, length, Nat.add_assoc, Nat.add_comm 1]
  · rfl

/-- The placeholder that the expression finds at the start of a text. -/
def find? (text : Text) : Option Placeholder :=
  (firstMatch regex text).map fun final =>
    ofParts ((final.keptBy 1).bind fun lead => lead.head?.bind Separator.ofChar?)
      ((final.keptBy 2).getD []) (final.keptBy 3) ((final.keptBy 4).getD [])

theorem find?_eq_atStart? (text : Text) : find? text = atStart? text := by
  have read := run_regex [] text 0
  change (firstMatch regex text).map reading = _ at read
  rw [find?]
  cases start : atStart? text with
  | none =>
      rw [start, Option.map_none, Option.map_eq_none_iff] at read
      rw [read, Option.map_none]
  | some p =>
      rw [start, Option.map_some] at read
      obtain ⟨final, matched, parts⟩ := Option.map_eq_some_iff.mp read
      simp only [reading, Prod.mk.injEq, List.cons.injEq, and_true] at parts
      obtain ⟨_, first, second, third, fourth⟩ := parts
      have separator : (Separator.textOf p.lead).head?.bind Separator.ofChar? = p.lead := by
        rcases p.lead with _ | _ | _ <;> rfl
      obtain ⟨wellFormed, _⟩ := atStart?_eq_some_iff.mp start
      have whole : ofParts p.lead p.key p.label (p.questionMark ++ []) = p :=
        wellFormed.ofParts_key nofun
      rw [List.append_nil] at whole
      rw [matched, Option.map_some, first, second, third, fourth, Option.bind_some, separator]
      exact congrArg some whole

end BlockExpression

end Signpost

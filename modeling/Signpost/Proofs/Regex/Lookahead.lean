import Signpost.Proofs.Regex.Action

/-!
# How far a decision looks ahead

A decision looks at the symbols after the one that it is about.  No run of characters that it looks
for goes on beyond a round bracket or a backslash, and no name of a character does, so what comes
after such a stop counts only if the decision uses the stop itself (`Action.ofSymbol_within`).  And
it does not use the end of the text, or the condition `\Z` before the end.  The one exception is a
comment that nothing ends.
-/

namespace Signpost.Regex

/-- Whether runs of characters end before a symbol. -/
def Symbol.stops : Symbol → Bool
  | .plain c => c = '(' || c = ')'
  | .escaped _ => true

/-- Symbols that go on with a stop, or not at all. -/
def Halted : List Symbol → Prop
  | [] => True
  | symbol :: _ => symbol.stops = true

/-- The end of a text, or the condition on the end before it. -/
def AtLast (tail : List Symbol) : Prop :=
  tail = [] ∨ tail = [.escaped 'Z']

theorem AtLast.halted {tail : List Symbol} (last : AtLast tail) : Halted tail := by
  rcases last with rfl | rfl
  · trivial
  · rfl

theorem AtLast.ne_plain {tail others : List Symbol} {c : Char} (last : AtLast tail) :
    tail ≠ .plain c :: others := by
  rcases last with rfl | rfl <;> exact nofun

/-- A reading of the symbols up to a stop, which is the same whatever the stop is. -/
structure Fixed {α : Type} (reading : List Symbol → Except Flaw (α × Nat)) (rest : List Symbol) :
    Prop where
  same : ∀ tail, Halted tail → reading (rest ++ tail) = reading rest
  bound : ∀ value used, reading rest = .ok (value, used) → used ≤ rest.length

/-- A reading of symbols, of which the `extra` ones before them count as used as well.  It does not
use the end of the text, and what comes after a stop does not change it unless the stop is used. -/
def Within {α : Type} (extra : Nat) (reading : List Symbol → Except Flaw (α × Nat))
    (rest : List Symbol) : Prop :=
  ∀ tail, Halted tail → ∀ value used, reading (rest ++ tail) = .ok (value, used) →
    (AtLast tail → used ≤ extra + rest.length) ∧
      (used ≤ extra + rest.length →
        ∀ other, Halted other → reading (rest ++ other) = .ok (value, used))

theorem Fixed.within {α : Type} {reading : List Symbol → Except Flaw (α × Nat)}
    {rest : List Symbol} (fixed : Fixed reading rest) : Within 0 reading rest := by
  intro tail halted value used read
  rw [fixed.same tail halted] at read
  refine ⟨fun _ => ?_, fun _ other halts => by rw [fixed.same other halts, read]⟩
  rw [Nat.zero_add]
  exact fixed.bound value used read

/-- A reading of a text is the same if the text is followed by a closing bracket. -/
theorem Within.enclosed {α : Type} {reading : List Symbol → Except Flaw (α × Nat)}
    {rest : List Symbol} (within : Within 0 reading rest) {value : α} {used : Nat}
    (read : reading rest = .ok (value, used)) :
    used ≤ rest.length ∧ ∀ more, reading (rest ++ .plain ')' :: more) = .ok (value, used) := by
  rw [← List.append_nil rest] at read
  obtain ⟨bound, same⟩ := within [] trivial value used read
  rw [Nat.zero_add] at bound same
  exact ⟨bound (.inl rfl), fun more => same (bound (.inl rfl)) _ rfl⟩

/-- A reading that does not look at the symbols that it uses. -/
theorem fixed_used {α : Type} (rest : List Symbol) (value : α) {count : Nat}
    (bounded : count ≤ rest.length) : Fixed (fun _ => .ok (value, count)) rest where
  same _ _ := rfl
  bound _ _ read := by
    cases read
    exact bounded

theorem fixed_refused {α : Type} (rest : List Symbol) (flaw : Flaw) :
    Fixed (fun _ => (.error flaw : Except Flaw (α × Nat))) rest where
  same _ _ := rfl
  bound _ _ read := nomatch read

theorem Fixed.map {α β : Type} {reading : List Symbol → Except Flaw (α × Nat)}
    {rest : List Symbol} (fixed : Fixed reading rest) (f : α → β) :
    Fixed (fun symbols => (reading symbols).map fun (value, used) => (f value, used)) rest where
  same tail halted := by rw [fixed.same tail halted]
  bound value used read := by
    obtain ⟨⟨inner, count⟩, found, same⟩ := map_eq_ok read
    cases same
    exact fixed.bound inner used found

/-- A reading that goes on after something that does not look ahead. -/
theorem Fixed.after {α β : Type} {reading : β → List Symbol → Except Flaw (α × Nat)}
    {rest : List Symbol} (start : Except Flaw β) (fixed : ∀ value, Fixed (reading value) rest) :
    Fixed (fun symbols => start.bind fun value => reading value symbols) rest where
  same tail halted := by
    congr 1
    funext value
    exact (fixed value).same tail halted
  bound value used read := by
    obtain ⟨inner, rfl, read⟩ := bind_eq_ok read
    exact (fixed inner).bound value used read

/-- A reading that depends on a test that no stop changes. -/
theorem Fixed.ite {α : Type} {first second : List Symbol → Except Flaw (α × Nat)}
    {rest : List Symbol} {test : List Symbol → Bool}
    (same : ∀ tail, Halted tail → test (rest ++ tail) = test rest)
    (passed : test rest = true → Fixed first rest)
    (failed : test rest = false → Fixed second rest) :
    Fixed (fun symbols => if test symbols then first symbols else second symbols) rest := by
  cases answer : test rest with
  | true =>
      refine ⟨fun tail halted => ?_, fun value used read => ?_⟩
      · simp only [same tail halted, answer, ↓reduceIte]
        exact (passed answer).same tail halted
      · simp only [answer, ↓reduceIte] at read
        exact (passed answer).bound value used read
  | false =>
      refine ⟨fun tail halted => ?_, fun value used read => ?_⟩
      · simp only [same tail halted, answer, Bool.false_eq_true, ↓reduceIte]
        exact (failed answer).same tail halted
      · simp only [answer, Bool.false_eq_true, ↓reduceIte] at read
        exact (failed answer).bound value used read

theorem Fixed.cond {α : Type} {first second : List Symbol → Except Flaw (α × Nat)}
    {rest : List Symbol} {test : Prop} [Decidable test] (passed : test → Fixed first rest)
    (failed : ¬ test → Fixed second rest) :
    Fixed (fun symbols => if test then first symbols else second symbols) rest := by
  by_cases holds : test
  · simpa only [holds, ↓reduceIte] using passed holds
  · simpa only [holds, ↓reduceIte] using failed holds

theorem Within.cond {α : Type} {extra : Nat} {first second : List Symbol → Except Flaw (α × Nat)}
    {rest : List Symbol} {test : Prop} [Decidable test] (passed : test → Within extra first rest)
    (failed : ¬ test → Within extra second rest) :
    Within extra (fun symbols => if test then first symbols else second symbols) rest := by
  by_cases holds : test
  · simpa only [holds, ↓reduceIte] using passed holds
  · simpa only [holds, ↓reduceIte] using failed holds

/-- A symbol that is no stop, at the start of symbols that go on with a stop. -/
theorem starts_of_append {symbol : Symbol} (other : symbol.stops = false)
    {rest tail more : List Symbol} (halted : Halted tail) (same : rest ++ tail = symbol :: more) :
    ∃ others, rest = symbol :: others ∧ others ++ tail = more := by
  cases rest with
  | cons first others =>
      obtain ⟨rfl, later⟩ := List.cons.inj same
      exact ⟨others, rfl, later⟩
  | nil =>
      rw [List.nil_append] at same
      rw [same, Halted, other] at halted
      cases halted

theorem starts_of_append_all {front : List Symbol} (passes : ∀ symbol ∈ front, symbol.stops = false)
    {rest tail more : List Symbol} (halted : Halted tail) (same : rest ++ tail = front ++ more) :
    ∃ back, rest = front ++ back ∧ back ++ tail = more := by
  induction front generalizing rest with
  | nil => exact ⟨rest, rfl, same⟩
  | cons first front ih =>
      obtain ⟨left, rfl, later⟩ :=
        starts_of_append (passes first List.mem_cons_self) halted same
      obtain ⟨back, rfl, ends⟩ :=
        ih (fun symbol inside => passes symbol (List.mem_cons_of_mem _ inside)) later
      exact ⟨back, rfl, ends⟩

theorem starts_of_append_two {first second : Symbol} (other : first.stops = false)
    (another : second.stops = false) {rest tail more : List Symbol} (halted : Halted tail)
    (same : rest ++ tail = first :: second :: more) :
    ∃ others, rest = first :: second :: others ∧ others ++ tail = more := by
  have passes : ∀ symbol ∈ [first, second], symbol.stops = false := by simp [other, another]
  exact starts_of_append_all passes halted same

theorem nextIs_append {c : Char} (other : (Symbol.plain c).stops = false) (rest : List Symbol)
    {tail : List Symbol} (halted : Halted tail) : nextIs c (rest ++ tail) = nextIs c rest := by
  cases rest with
  | cons symbol others => rfl
  | nil =>
      cases tail with
      | nil => rfl
      | cons symbol others =>
          have apart : symbol ≠ .plain c := by
            rintro rfl
            exact absurd halted (by simp [Halted, other])
          simp [nextIs, apart]

theorem nextIs_drop_append {c : Char} (other : (Symbol.plain c).stops = false) {count : Nat}
    {rest : List Symbol} (bound : count ≤ rest.length) {tail : List Symbol} (halted : Halted tail) :
    nextIs c ((rest ++ tail).drop count) = nextIs c (rest.drop count) := by
  rw [List.drop_append_of_le_length bound, nextIs_append other _ halted]

theorem length_pos_of_nextIs {c : Char} {count : Nat} {rest : List Symbol}
    (found : nextIs c (rest.drop count) = true) : count + 1 ≤ rest.length := by
  rcases Nat.lt_or_ge count rest.length with within | beyond
  · exact within
  · rw [List.drop_eq_nil_of_le beyond] at found
    cases found

theorem leading_length_le (accepts : Char → Bool) (limit : Nat) (rest : List Symbol) :
    (leading accepts limit rest).length ≤ rest.length := by
  induction rest generalizing limit with
  | nil => cases limit <;> simp [leading]
  | cons symbol others ih =>
      cases limit with
      | zero => simp [leading]
      | succ limit =>
          cases symbol with
          | escaped c => simp [leading]
          | plain c =>
              rw [leading]
              split
              · exact Nat.succ_le_succ (ih limit)
              · exact Nat.zero_le _

/-- Characters of which no bracket is one. -/
abbrev PassesOver (accepts : Char → Bool) : Prop :=
  accepts '(' = false ∧ accepts ')' = false

theorem leading_of_halted {accepts : Char → Bool} (passes : PassesOver accepts) (limit : Nat)
    {tail : List Symbol} (halted : Halted tail) : leading accepts limit tail = [] := by
  cases limit with
  | zero => cases tail <;> rfl
  | succ limit =>
      cases tail with
      | nil => rfl
      | cons symbol others =>
          cases symbol with
          | escaped c => rfl
          | plain c =>
              have refused : accepts c = false := by
                simp only [Halted, Symbol.stops, Bool.or_eq_true, decide_eq_true_eq] at halted
                rcases halted with rfl | rfl
                · exact passes.1
                · exact passes.2
              simp [leading, refused]

theorem leading_append {accepts : Char → Bool} (passes : PassesOver accepts) (limit : Nat)
    (rest : List Symbol) {tail : List Symbol} (halted : Halted tail) :
    leading accepts limit (rest ++ tail) = leading accepts limit rest := by
  induction rest generalizing limit with
  | nil =>
      rw [List.nil_append, leading_of_halted passes limit halted]
      cases limit <;> rfl
  | cons symbol others ih =>
      cases limit with
      | zero => rfl
      | succ limit =>
          cases symbol with
          | escaped c => rfl
          | plain c => simp only [List.cons_append, leading, ih]

/-- A limit beyond the end of the symbols is no limit. -/
theorem leading_of_length_le (accepts : Char → Bool) {limit : Nat} {rest : List Symbol}
    (enough : rest.length ≤ limit) :
    leading accepts limit rest = leading accepts rest.length rest := by
  induction rest generalizing limit with
  | nil => cases limit <;> rfl
  | cons symbol others ih =>
      cases limit with
      | zero => simp at enough
      | succ limit =>
          cases symbol with
          | escaped c => rfl
          | plain c =>
              rw [List.length_cons, leading, leading, ih (Nat.le_of_succ_le_succ enough)]

theorem leading_drop_append {accepts : Char → Bool} (passes : PassesOver accepts) {count : Nat}
    {rest : List Symbol} (bound : count ≤ rest.length) {tail : List Symbol}
    (halted : Halted tail) :
    leading accepts (rest ++ tail).length ((rest ++ tail).drop count) =
      leading accepts rest.length (rest.drop count) := by
  have whole : (rest.drop count).length ≤ (rest ++ tail).length := by
    simp only [List.length_drop, List.length_append]
    omega
  have part : (rest.drop count).length ≤ rest.length := by
    rw [List.length_drop]
    exact Nat.sub_le _ _
  rw [List.drop_append_of_le_length bound, leading_append passes _ _ halted,
    leading_of_length_le accepts whole, leading_of_length_le accepts part]

theorem textUntil_length {mark : Char} {symbols : List Symbol} {text : Text} {count : Nat}
    (found : textUntil mark symbols = some (text, count)) :
    1 ≤ count ∧ symbols[count - 1]? = some (.plain mark) := by
  induction symbols generalizing text count with
  | nil => cases found
  | cons symbol others ih =>
      rw [textUntil] at found
      split at found
      next here =>
        cases found
        exact ⟨Nat.le_refl 1, by simp [here]⟩
      next =>
        obtain ⟨⟨later, used⟩, read, same⟩ := Option.map_eq_some_iff.mp found
        cases same
        obtain ⟨positive, last⟩ := ih read
        obtain ⟨used, rfl⟩ := Nat.exists_eq_add_of_le' positive
        exact ⟨Nat.le_add_left 1 _, last⟩

/-- A text up to a mark is the same whatever comes after the mark. -/
theorem textUntil_append {mark : Char} {rest tail : List Symbol} {text : Text} {count : Nat}
    (found : textUntil mark (rest ++ tail) = some (text, count)) (bound : count ≤ rest.length)
    (other : List Symbol) : textUntil mark (rest ++ other) = some (text, count) := by
  induction rest generalizing text count with
  | nil =>
      have positive := (textUntil_length found).1
      exact absurd positive (Nat.not_le_of_lt (Nat.lt_succ_of_le bound))
  | cons symbol others ih =>
      rw [List.cons_append, textUntil] at found ⊢
      by_cases here : symbol = .plain mark
      · rw [if_pos here] at found ⊢
        exact found
      · rw [if_neg here] at found ⊢
        obtain ⟨⟨later, used⟩, read, same⟩ := Option.map_eq_some_iff.mp found
        cases same
        rw [ih read (Nat.le_of_succ_le_succ bound)]
        rfl

theorem textUntil_bound {mark : Char} {rest tail : List Symbol} (last : AtLast tail) {text : Text}
    {count : Nat} (found : textUntil mark (rest ++ tail) = some (text, count)) :
    count ≤ rest.length := by
  obtain ⟨positive, marked⟩ := textUntil_length found
  rcases Nat.lt_or_ge rest.length count with beyond | within
  · rw [List.getElem?_append_right (by omega)] at marked
    rcases last with rfl | rfl
    · simp at marked
    · rw [List.getElem?_singleton] at marked
      split at marked <;> cases marked
  · exact within

theorem codeOfWidth_fixed (width : Nat) (rest : List Symbol) : Fixed (codeOfWidth width) rest where
  same tail halted := by
    rw [codeOfWidth, codeOfWidth, leading_append (by decide) width rest halted]
  bound code used read := by
    simp only [codeOfWidth] at read
    split at read
    · next whole =>
        cases read
        have exact := of_decide_eq_true (Bool.and_eq_true_iff.mp whole).1
        exact exact ▸ leading_length_le isHexadecimal width rest
    · cases read

theorem octalCode_fixed (first : Char) (rest : List Symbol) : Fixed (octalCode first) rest where
  same tail halted := by
    rw [octalCode, octalCode, leading_append (by decide) 2 rest halted]
  bound code used read := by
    simp only [octalCode] at read
    split at read
    · cases read
      exact leading_length_le isOctal 2 rest
    · cases read

/-- No symbol of a name in braces is a stop. -/
theorem stops_inBraces [Unicode.Names] {name : Text} {c : Char}
    (named : Unicode.Names.named? name = some c) :
    ∀ symbol ∈ inBraces name, symbol.stops = false := by
  intro symbol inside
  simp only [inBraces, List.mem_cons, List.mem_append, List.mem_map, List.not_mem_nil,
    or_false] at inside
  obtain rfl | ⟨d, member, rfl⟩ | rfl := inside
  · rfl
  · have apart {e : Char} (odd : Unicode.isNameCharacter e = false) : d ≠ e :=
      ne_of_mem_of_not_mem member (Unicode.Names.not_mem named odd)
    simp [Symbol.stops, apart (e := '(') rfl, apart (e := ')') rfl]
  · rfl

/-- A name in braces ends before a stop does. -/
theorem namedCode_fixed [Unicode.Names] (rest : List Symbol) : Fixed namedCode rest where
  same tail halted := by
    cases read : namedCode rest with
    | ok found =>
        obtain ⟨name, c, others, given, named, rfl, code, used⟩ := namedCode_eq_ok.mp read
        exact namedCode_eq_ok.mpr
          ⟨name, c, others ++ tail, given, named, List.append_assoc _ _ _, code, used⟩
    | error flaw =>
        cases readToo : namedCode (rest ++ tail) with
        | error other => rw [namedCode_error read, namedCode_error readToo]
        | ok found =>
            obtain ⟨name, c, others, given, named, whole, code, used⟩ := namedCode_eq_ok.mp readToo
            obtain ⟨back, rfl, _⟩ := starts_of_append_all (stops_inBraces named) halted whole
            rw [namedCode_eq_ok.mpr ⟨name, c, back, given, named, rfl, code, used⟩] at read
            cases read
  bound code used read := by
    obtain ⟨name, c, others, _, _, rfl, _, rfl⟩ := namedCode_eq_ok.mp read
    rw [List.length_append]
    exact Nat.le_add_right _ _

theorem escapedCode_fixed [Unicode.Names] (c : Char) (rest : List Symbol) :
    Fixed (escapedCode c) rest := by
  unfold escapedCode
  cases controlCode c with
  | some code => exact fixed_used rest code (Nat.zero_le _)
  | none =>
      refine .cond (fun _ => codeOfWidth_fixed 2 rest) fun _ => ?_
      refine .cond (fun _ => codeOfWidth_fixed 4 rest) fun _ => ?_
      refine .cond (fun _ => codeOfWidth_fixed 8 rest) fun _ => ?_
      refine .cond (fun _ => namedCode_fixed rest) fun _ => ?_
      exact .cond (fun _ => fixed_refused rest _) fun _ => fixed_used rest _ (Nat.zero_le _)

theorem escapedMember_fixed [Unicode.Names] (ascii : Bool) (c : Char) (rest : List Symbol) :
    Fixed (escapedMember ascii c) rest := by
  unfold escapedMember
  cases familyOf ascii c with
  | some member => exact fixed_used rest member (Nat.zero_le _)
  | none =>
      refine .cond (fun _ => fixed_used rest _ (Nat.zero_le _)) fun _ => ?_
      exact .cond (fun _ => (octalCode_fixed c rest).map Member.one) fun _ =>
        (escapedCode_fixed c rest).map Member.one

theorem lineLength_append (rest more : List Symbol) :
    lineLength (rest ++ more) = lineLength rest ∨ lineLength rest = rest.length := by
  induction rest with
  | nil => exact .inr rfl
  | cons symbol others ih =>
      rw [List.cons_append, lineLength, lineLength]
      by_cases ends : symbol = .plain '\n'
      · rw [if_pos ends, if_pos ends]
        exact .inl rfl
      · rw [if_neg ends, if_neg ends]
        exact ih.imp (congrArg (· + 1)) (congrArg (· + 1))

theorem lineLength_le (rest : List Symbol) : lineLength rest ≤ rest.length := by
  induction rest with
  | nil => exact Nat.le_refl _
  | cons symbol others ih =>
      rw [lineLength]
      split
      · exact Nat.succ_le_succ (Nat.zero_le _)
      · exact Nat.succ_le_succ ih

namespace Action

variable (flags : Flags) (rest : List Symbol)

theorem quantify_fixed (least : Nat) (most : Option Nat) {count : Nat}
    (bounded : count ≤ rest.length) : Fixed (quantify least most count) rest := by
  refine Fixed.ite (fun tail halted => nextIs_drop_append (by decide) bounded halted)
    (fun lazy => ?_) (fun _ => Fixed.ite
      (fun tail halted => nextIs_drop_append (by decide) bounded halted)
      (fun possessive => ?_) (fun _ => ?_))
  · exact fixed_used rest _ (length_pos_of_nextIs lazy)
  · exact fixed_used rest _ (length_pos_of_nextIs possessive)
  · exact fixed_used rest _ bounded

/-- An opening brace stands for itself, or its number of rounds ends before a stop does. -/
theorem braced_fixed (low high : Text) {count : Nat} (bounded : count ≤ rest.length) :
    Fixed (braced flags low high count) rest := by
  refine Fixed.ite (fun tail halted => ?_) (fun _ => fixed_used rest _ (Nat.zero_le _))
    (fun closed => ?_)
  · rw [nextIs_append (by decide) rest halted, nextIs_drop_append (by decide) bounded halted]
  simp only [Bool.or_eq_false_iff, Bool.not_eq_false'] at closed
  refine Fixed.after (Reader.bound low) fun least =>
    Fixed.after (Reader.bound high) fun most => ?_
  have rounds := quantify_fixed rest (least.getD 0) most (length_pos_of_nextIs closed.2)
  cases most with
  | none => exact rounds
  | some limit =>
      dsimp only
      by_cases crossed : limit < least.getD 0
      · simp only [if_pos crossed]
        exact fixed_refused rest .malformed
      · simp only [if_neg crossed]
        exact rounds

/-- What comes after two runs of characters with a mark between them, if the mark is there. -/
theorem runs_fixed {accepts : Char → Bool} {mark : Char} (passes : PassesOver accepts)
    (other : (Symbol.plain mark).stops = false)
    {both : Text → Text → Nat → List Symbol → Decision}
    {one : Text → Nat → List Symbol → Decision}
    (bothFixed : ∀ low later count, count ≤ rest.length → Fixed (both low later count) rest)
    (oneFixed : ∀ low count, count ≤ rest.length → Fixed (one low count) rest) :
    Fixed (fun symbols =>
      let low := leading accepts symbols.length symbols
      let later := leading accepts symbols.length ((symbols.drop low.length).drop 1)
      if nextIs mark (symbols.drop low.length) then
        both low later (low.length + (1 + later.length)) symbols
      else one low low.length symbols) rest := by
  obtain ⟨low, first⟩ : ∃ low, leading accepts rest.length rest = low := ⟨_, rfl⟩
  obtain ⟨later, second⟩ :
      ∃ later, leading accepts rest.length ((rest.drop low.length).drop 1) = later := ⟨_, rfl⟩
  have lowBound : low.length ≤ rest.length := first ▸ leading_length_le accepts _ rest
  have lowSame {tail : List Symbol} (halted : Halted tail) :
      leading accepts (rest ++ tail).length (rest ++ tail) = low :=
    (leading_drop_append passes (Nat.zero_le _) halted).trans first
  cases marked : nextIs mark (rest.drop low.length) with
  | false =>
      refine ⟨fun tail halted => ?_, fun value used read => ?_⟩
      · simp only [lowSame halted, first, nextIs_drop_append other lowBound halted, marked,
          Bool.false_eq_true, ↓reduceIte]
        exact (oneFixed low low.length lowBound).same tail halted
      · simp only [first, marked, Bool.false_eq_true, ↓reduceIte] at read
        exact (oneFixed low low.length lowBound).bound value used read
  | true =>
      have bound := length_pos_of_nextIs marked
      have laterSame {tail : List Symbol} (halted : Halted tail) :
          leading accepts (rest ++ tail).length (((rest ++ tail).drop low.length).drop 1) =
            later := by
        rw [List.drop_drop, leading_drop_append passes bound halted, ← List.drop_drop, second]
      have room : low.length + (1 + later.length) ≤ rest.length := by
        have laterBound := leading_length_le accepts rest.length ((rest.drop low.length).drop 1)
        rw [second, List.drop_drop, List.length_drop] at laterBound
        omega
      refine ⟨fun tail halted => ?_, fun value used read => ?_⟩
      · simp only [lowSame halted, first, nextIs_drop_append other lowBound halted, marked,
          ↓reduceIte, laterSame halted, second]
        exact (bothFixed low later _ room).same tail halted
      · simp only [first, marked, ↓reduceIte, second] at read
        exact (bothFixed low later _ room).bound value used read

theorem braces_fixed : Fixed (braces flags) rest :=
  runs_fixed rest (by decide) (by decide)
    (fun low later _ bounded => braced_fixed flags rest low later bounded)
    (fun low _ bounded => braced_fixed flags rest low low bounded)

/-- The switches of a group end in a colon that stands before a stop. -/
theorem switched_fixed (on off : Text) (minus : Bool) {count : Nat}
    (bounded : count ≤ rest.length) : Fixed (switched flags on off minus count) rest := by
  refine Fixed.ite (fun tail halted => ?_) (fun _ => fixed_refused rest _) (fun closed => ?_)
  · rw [nextIs_drop_append (by decide) bounded halted]
  · simp only [Bool.or_eq_false_iff, Bool.not_eq_false'] at closed
    refine ⟨fun _ _ => rfl, fun action used read => ?_⟩
    obtain ⟨flags, accepted, same⟩ := map_eq_ok read
    cases same
    exact length_pos_of_nextIs closed.1.1

theorem switches_fixed : Fixed (switches flags) rest :=
  runs_fixed rest (by decide) (by decide)
    (fun on later _ bounded => switched_fixed flags rest on later true bounded)
    (fun on _ bounded => switched_fixed flags rest on [] false bounded)

theorem numbered_fixed (first : Char) : Fixed (numbered flags first) rest := by
  have same {tail : List Symbol} (halted : Halted tail) :
      leading isDecimal 2 (rest ++ tail) = leading isDecimal 2 rest :=
    leading_append (by decide) 2 rest halted
  have length := leading_length_le isDecimal 2 rest
  cases digits : leading isDecimal 2 rest with
  | nil =>
      refine ⟨fun tail halted => by simp only [numbered, same halted, digits], ?_⟩
      intro action used read
      simp only [numbered, digits] at read
      cases read
      exact Nat.zero_le _
  | cons second others =>
      rw [digits, List.length_cons] at length
      have enough : 1 ≤ rest.length := by omega
      cases others with
      | nil =>
          refine ⟨fun tail halted => by simp only [numbered, same halted, digits], ?_⟩
          intro action used read
          simp only [numbered, digits] at read
          cases read
          exact enough
      | cons third others =>
          have octal := (octalCode_fixed first rest).map (code flags)
          refine ⟨fun tail halted => ?_, fun action used read => ?_⟩
          · simp only [numbered, same halted, digits]
            split
            · exact octal.same tail halted
            · rfl
          · simp only [numbered, digits] at read
            split at read
            · exact octal.bound action used read
            · cases read
              exact enough

theorem escaped_fixed [Unicode.Names] (c : Char) : Fixed (escaped flags c) rest := by
  unfold escaped
  cases Reader.anchorOf flags.ascii c with
  | some condition => exact fixed_used rest _ (Nat.zero_le _)
  | none =>
      cases familyOf flags.ascii c with
      | some member => exact fixed_used rest _ (Nat.zero_le _)
      | none =>
          refine .cond (fun _ => (octalCode_fixed c rest).map (code flags)) fun _ => ?_
          exact .cond (fun _ => numbered_fixed flags rest c) fun _ =>
            (escapedCode_fixed c rest).map (code flags)

theorem memberAt_fixed [Unicode.Names] (ascii : Bool) (symbol : Symbol) :
    Fixed (memberAt ascii symbol) rest := by
  cases symbol with
  | plain c => exact fixed_used rest _ (Nat.zero_le _)
  | escaped c => exact escapedMember_fixed ascii c rest

/-- An opening square bracket. -/
theorem bracketed_fixed :
    Fixed (fun symbols => .ok (goOn { negated := nextIs '^' symbols },
      if nextIs '^' symbols then 1 else 0)) rest where
  same tail halted := by simp only [nextIs_append (c := '^') (by decide) rest halted]
  bound action used read := by
    cases negated : nextIs '^' rest with
    | false =>
        simp only [negated] at read
        cases read
        exact Nat.zero_le _
    | true =>
        simp only [negated] at read
        cases read
        have found : nextIs '^' (rest.drop 0) = true := negated
        exact length_pos_of_nextIs found

theorem labelled_within (mark : Char) (extra : Nat) (make : Text → Action) :
    Within extra (labelled mark extra make) rest := by
  intro tail halted action used read
  rw [labelled] at read
  cases found : textUntil mark (rest ++ tail) with
  | none =>
      rw [found] at read
      cases read
  | some result =>
      rw [found] at read
      cases read
      refine ⟨fun last => Nat.add_le_add_left (textUntil_bound last found) extra, ?_⟩
      intro bounded other _
      rw [labelled, textUntil_append found (Nat.le_of_add_le_add_left bounded) other]

/-- The question mark before the symbols is used as well. -/
theorem queried_within : Within 1 (queried flags) rest := by
  intro tail halted action used read
  unfold queried at read
  split at read
  case h_1 more whole | h_2 more whole =>
    obtain ⟨others, rfl, rfl⟩ := starts_of_append_two (by decide) (by decide) halted whole
    have count (n : Nat) : 1 + (n + 2) = 3 + n := by omega
    rw [List.length_cons, List.length_cons, count]
    exact labelled_within others _ 3 _ tail halted action used read
  case h_4 more whole =>
    obtain ⟨others, rfl, rfl⟩ := starts_of_append (by decide) halted whole
    have count (n : Nat) : 1 + (n + 1) = 2 + n := by omega
    rw [List.length_cons, count]
    exact labelled_within others _ 2 _ tail halted action used read
  case h_10 more whole =>
    cases rest with
    | nil =>
        -- A bracket that is the stop itself would be used.
        refine ⟨fun last => absurd whole last.ne_plain, fun bounded => ?_⟩
        rw [labelled] at read
        split at read
        · cases read
        · cases read
          simp only [List.length_nil] at bounded
          omega
    | cons first others =>
        obtain ⟨rfl, rfl⟩ := List.cons.inj whole
        have count (n : Nat) : 1 + (n + 1) = 2 + n := by omega
        rw [List.length_cons, count]
        exact labelled_within others _ 2 _ tail halted action used read
  case h_3 more whole | h_5 more whole | h_6 more whole | h_9 more whole =>
    obtain ⟨others, rfl, _⟩ := starts_of_append (by decide) halted whole
    cases read
    exact ⟨fun _ => by simp only [List.length_cons]; omega, fun _ _ _ => rfl⟩
  case h_7 more whole | h_8 more whole =>
    obtain ⟨others, rfl, _⟩ := starts_of_append_two (by decide) (by decide) halted whole
    cases read
    exact ⟨fun _ => by simp only [List.length_cons]; omega, fun _ _ _ => rfl⟩
  case h_11 noName noReference noGroup noComment noAhead noNotAhead noBehind noNotBehind noAtomic
      noChoice =>
    obtain ⟨⟨_, count⟩, switched, same⟩ := map_eq_ok read
    cases same
    rw [(switches_fixed flags rest).same tail halted] at switched
    have bound := (switches_fixed flags rest).bound _ count switched
    refine ⟨fun _ => by omega, fun _ other halts => ?_⟩
    cases rest with
    | nil => cases switched
    | cons first others =>
        have apart {c : Char} (none : ∀ more, first :: others ++ tail = .plain c :: more → False)
            (more : List Symbol) : first :: others ++ other ≠ .plain c :: more :=
          fun found => none _ (congrArg (· :: (others ++ tail)) (List.cons.inj found).1)
        have apartTwo {c d : Char} (one : (Symbol.plain c).stops = false)
            (two : (Symbol.plain d).stops = false)
            (none : ∀ more, first :: others ++ tail = .plain c :: .plain d :: more → False)
            (more : List Symbol) : first :: others ++ other ≠ .plain c :: .plain d :: more := by
          intro found
          obtain ⟨_, same, _⟩ := starts_of_append_two one two halts found
          exact none _ (congrArg (· ++ tail) same)
        rw [queried, (switches_fixed flags _).same other halts, switched]
        · rfl
        · exact apartTwo (by decide) (by decide) noName
        · exact apartTwo (by decide) (by decide) noReference
        · exact apart noGroup
        · exact apart noComment
        · exact apart noAhead
        · exact apart noNotAhead
        · exact apartTwo (by decide) (by decide) noBehind
        · exact apartTwo (by decide) (by decide) noNotBehind
        · exact apart noAtomic
        · exact apart noChoice

theorem opened_within : Within 0 (opened flags) rest := by
  intro tail halted action used read
  unfold opened at read
  split at read
  case h_1 inner whole =>
    obtain ⟨others, rfl, rfl⟩ := starts_of_append (by decide) halted whole
    rw [List.length_cons, Nat.zero_add, Nat.add_comm]
    exact queried_within flags others tail halted action used read
  case h_2 noQuery =>
    cases read
    refine ⟨fun _ => Nat.zero_le _, fun _ other halts => ?_⟩
    rw [opened]
    intro inner found
    obtain ⟨others, rfl, _⟩ := starts_of_append (by decide) halts found
    exact noQuery _ rfl

variable [Unicode.Names]

/-- What follows a member of a bracket expression, with the symbols used for the member. -/
theorem afterMember_within (present : SetDraft) (low : Member) (count : Nat) :
    Within count (afterMember flags present low count) rest := by
  intro tail halted action used read
  unfold afterMember at read
  split at read
  case h_1 => cases read
  case h_2 whole =>
    obtain ⟨others, rfl, _⟩ := starts_of_append_two (by decide) (by decide) halted whole
    cases read
    exact ⟨fun _ => by simp only [List.length_cons]; omega, fun _ _ _ => rfl⟩
  case h_3 next more noClose whole =>
    obtain ⟨others, rfl, later⟩ := starts_of_append (by decide) halted whole
    obtain ⟨⟨high, usedHigh⟩, highRead, chosen⟩ := bind_eq_ok read
    have length : used = count + 2 + usedHigh := by
      dsimp only at chosen
      split at chosen
      · split at chosen
        · cases chosen
          rfl
        · cases chosen
      · cases chosen
    cases others with
    | nil =>
        -- The upper end of the span would be the stop.
        rw [List.nil_append] at later
        subst later
        refine ⟨fun last => ?_, fun bounded => ?_⟩
        · rcases last with empty | condition
          · cases empty
          · cases condition
            cases highRead
        · simp only [List.length_cons, List.length_nil] at bounded
          omega
    | cons first others =>
        obtain ⟨rfl, rfl⟩ := List.cons.inj later
        have fixed := memberAt_fixed others flags.ascii first
        change memberAt flags.ascii first (others ++ tail) = _ at highRead
        rw [fixed.same tail halted] at highRead
        have bound := fixed.bound high usedHigh highRead
        refine ⟨fun _ => by simp only [List.length_cons]; omega, fun _ other halts => ?_⟩
        rw [List.cons_append, List.cons_append, afterMember, fixed.same other halts, highRead]
        · exact chosen
        · exact noClose
  case h_4 noEnd noClose noSpan =>
    cases read
    refine ⟨fun _ => Nat.le_add_right _ _, fun _ other halts => ?_⟩
    have apart (more : List Symbol) : rest ++ other ≠ .plain '-' :: more := by
      intro found
      obtain ⟨others, rfl, _⟩ := starts_of_append (by decide) halts found
      cases later : others ++ tail with
      | nil => exact noEnd (congrArg (Symbol.plain '-' :: ·) later)
      | cons next more => exact noSpan next more (congrArg (Symbol.plain '-' :: ·) later)
    rw [afterMember]
    · exact apart _
    · exact fun _ => apart _
    · exact fun _ _ => apart _

theorem member_within (present : SetDraft) (symbol : Symbol) :
    Within 0 (member flags present symbol) rest := by
  refine .cond (fun _ => (fixed_used rest _ (Nat.zero_le _)).within) fun _ => ?_
  intro tail halted action used read
  obtain ⟨⟨low, count⟩, lowRead, read⟩ := bind_eq_ok read
  have fixed := memberAt_fixed rest flags.ascii symbol
  rw [fixed.same tail halted] at lowRead
  have bound := fixed.bound low count lowRead
  have room : count + (rest.drop count).length = 0 + rest.length := by
    rw [List.length_drop]
    omega
  dsimp only at read
  rw [List.drop_append_of_le_length bound] at read
  obtain ⟨atLast, same⟩ :=
    afterMember_within flags (rest.drop count) present low count tail halted action used read
  rw [room] at atLast same
  refine ⟨atLast, fun bounded other halts => ?_⟩
  simp only [fixed.same other halts, lowRead, Except.bind, List.drop_append_of_le_length bound]
  exact same bounded other halts

/-- The symbol starts a comment that goes on to the end of the text. -/
def EndlessComment (flags : Flags) (symbol : Symbol) (rest : List Symbol) : Prop :=
  flags.verbose = true ∧ symbol = .plain '#' ∧ lineLength rest = rest.length

theorem outside_comment {flags : Flags} (verbose : flags.verbose = true) (symbols : List Symbol) :
    outside flags (.plain '#') symbols = .ok (.skip, lineLength symbols) := by
  have noLayout : Reader.isLayout '#' = false := by decide
  simp [outside, verbose, noLayout]

theorem EndlessComment.ofSymbol {flags : Flags} {symbol : Symbol} {rest : List Symbol}
    (endless : EndlessComment flags symbol rest) :
    ofSymbol flags none symbol rest = .ok (.skip, rest.length) := by
  obtain ⟨verbose, rfl, length⟩ := endless
  rw [← length]
  exact outside_comment verbose rest

theorem outside_within (symbol : Symbol) :
    Within 0 (outside flags symbol) rest ∨ EndlessComment flags symbol rest := by
  cases symbol with
  | escaped c => exact .inl (escaped_fixed flags rest c).within
  | plain c =>
      have single (action : Action) : Within 0 (fun _ => .ok (action, 0)) rest :=
        (fixed_used rest action (Nat.zero_le _)).within
      by_cases comment : (flags.verbose && c = '#') = true
      · obtain ⟨verbose, isHash⟩ := Bool.and_eq_true_iff.mp comment
        cases of_decide_eq_true isHash
        by_cases endless : lineLength rest = rest.length
        · exact .inr ⟨verbose, rfl, endless⟩
        · left
          intro tail halted action used read
          rw [outside_comment verbose,
            (lineLength_append rest tail).resolve_right endless] at read
          cases read
          refine ⟨fun _ => ?_, fun _ other _ => ?_⟩
          · rw [Nat.zero_add]
            exact lineLength_le rest
          · rw [outside_comment verbose, (lineLength_append rest other).resolve_right endless]
      · left
        refine .cond (fun _ => single .turn) fun _ => ?_
        refine .cond (fun _ => single .leave) fun _ => ?_
        refine .cond (fun _ => single .skip) fun _ => ?_
        refine .cond (fun skipped => absurd skipped comment) fun _ => ?_
        refine .cond (fun _ => opened_within flags rest) fun _ => ?_
        refine .cond (fun _ => (bracketed_fixed rest).within) fun _ => ?_
        refine .cond (fun _ => (quantify_fixed rest 0 none (Nat.zero_le _)).within) fun _ => ?_
        refine .cond (fun _ => (quantify_fixed rest 1 none (Nat.zero_le _)).within) fun _ => ?_
        refine .cond (fun _ => (quantify_fixed rest 0 (some 1) (Nat.zero_le _)).within) fun _ => ?_
        refine .cond (fun _ => (braces_fixed flags rest).within) fun _ => ?_
        refine .cond (fun _ => single _) fun _ => ?_
        refine .cond (fun _ => single _) fun _ => ?_
        exact .cond (fun _ => single _) fun _ => single _

/-- **A decision does not look beyond a stop that it does not use**, and does not use the end of the
text, unless it is about a comment that goes on to the end of the text. -/
theorem ofSymbol_within (present : Option SetDraft) (symbol : Symbol) :
    Within 0 (ofSymbol flags present symbol) rest ∨
      present = none ∧ EndlessComment flags symbol rest := by
  cases present with
  | none => exact (outside_within flags rest symbol).imp_right fun endless => ⟨rfl, endless⟩
  | some draft => exact .inl (member_within flags rest draft symbol)

end Action

end Signpost.Regex

import Signpost.Proofs.Pattern.Reversal

/-!
# Matching what has been filled in

When values are filled into the tokens of a pattern, matching the text that comes out gives the
values back (`matchTokens?_fillTokens`), as long as each value is the longest run of characters that
its placeholder can take.  So what follows a placeholder has to stop it (`Delimited`): a separator
always does, and literal text does if the type does not accept its first character.  What is filled
in may be followed by more text for more tokens (`matchTokens?_fillTokens_append`).  The values come
from parameters for just the placeholders in question (`Params.Supply`).
-/

namespace Signpost

namespace BuiltinType

/-- Whether values of a type may hold separators. -/
def wild : BuiltinType → Bool
  | shortest | longest => true
  | digits | alphanumeric | hexadecimal | segment => false

theorem accepts_separator {type : BuiltinType} (tame : type.wild = false) (separator : Separator) :
    type.accepts separator.char = false := by
  cases type <;> cases separator <;> first | rfl | cases tame

end BuiltinType

/-- What follows a placeholder ends its value: nothing, a segment with a separator, or literal text
whose first character the type does not accept. -/
def Placeholder.StoppedBy (p : Placeholder) : List Token → Prop
  | [] => True
  | .literal text :: _ => ∃ c ∈ text.head?, ∀ type ∈ p.type?, type.accepts c = false
  | .placeholder q :: _ => q.separator ≠ []

/-- Every placeholder is stopped by what follows it. -/
def Delimited : List Token → Prop
  | [] => True
  | .literal _ :: others => Delimited others
  | .placeholder p :: others => p.StoppedBy others ∧ Delimited others

/-- A placeholder with a name and a value of its type without separators. -/
def Placeholder.Filled (values : Text → Option Text) (p : Placeholder) : Prop :=
  p.name ≠ [] ∧ ∃ type value, p.type? = some type ∧ type.wild = false ∧
    values p.name = some value ∧ value ≠ [] ∧ ∀ c ∈ value, type.accepts c = true

theorem Separator.char_of_head_textOf {separator : Option Separator} {c : Char}
    (first : c ∈ (textOf separator).head?) : ∃ separator : Separator, c = separator.char := by
  cases separator with
  | none => cases first
  | some separator => exact ⟨separator, (Option.some.inj first).symm⟩

theorem Placeholder.head_separator {p : Placeholder} {c : Char} (first : c ∈ p.separator.head?) :
    ∃ separator : Separator, c = separator.char := by
  obtain ⟨lead, inner, _, _, _⟩ := p
  cases lead with
  | some separator => exact ⟨separator, (Option.some.inj first).symm⟩
  | none => exact Separator.char_of_head_textOf first

/-- What is filled in after a placeholder stops its value, and so does a separator after it all. -/
theorem stops_fillTokens {values : Text → Option Text} {p : Placeholder} {type : BuiltinType}
    (typed : p.type? = some type) (tame : type.wild = false) {others : List Token}
    (stopped : p.StoppedBy others) (filled : ∀ q ∈ placeholdersOf others, q.Filled values)
    {rest : Text} (separated : ∀ c ∈ rest.head?, ∃ separator : Separator, c = separator.char) :
    ∀ c ∈ (fillTokens values false others ++ rest).head?, type.accepts c = false := by
  intro c first
  cases others with
  | nil =>
      obtain ⟨separator, rfl⟩ := separated c first
      exact BuiltinType.accepts_separator tame separator
  | cons token later =>
      cases token with
      | literal text =>
          obtain ⟨d, head, refused⟩ := stopped
          cases text with
          | nil => cases head
          | cons e more =>
              obtain rfl : e = d := Option.some.inj head
              obtain rfl : e = c := Option.some.inj first
              exact refused type typed
      | placeholder q =>
          obtain ⟨named, _, value, _, _, given, _⟩ := filled q List.mem_cons_self
          rw [fillTokens, Placeholder.fill_of_value named given, List.append_assoc,
            List.append_assoc] at first
          change q.separator ≠ [] at stopped
          cases front : q.separator with
          | nil => exact absurd front stopped
          | cons e more =>
              rw [front] at first
              obtain rfl : e = c := Option.some.inj first
              obtain ⟨separator, rfl⟩ := q.head_separator (c := e) (by rw [front]; rfl)
              exact BuiltinType.accepts_separator tame separator

/-- Before a value that something stops, a placeholder takes its separator and the value rather
than anything else. -/
theorem Placeholder.takings_of_stop {p : Placeholder} {type : BuiltinType}
    (typed : p.type? = some type) (tame : type.wild = false) {value rest : Text}
    (present : value ≠ []) (accepted : ∀ c ∈ value, type.accepts c = true)
    (stop : ∀ c ∈ rest.head?, type.accepts c = false) :
    ∃ others, p.takings (p.separator ++ (value ++ rest)) = ⟨some value, rest⟩ :: others := by
  have possessive : type ≠ .shortest := by
    rintro rfl
    cases tame
  have taken := type.values_append_of_stop possessive present accepted stop
  simp only [takings, dropPrefix?_append, values, typed, taken, List.map_cons, List.map_nil,
    List.cons_append]
  exact ⟨_, rfl⟩

/-- What has been filled in is matched with the values, before text for more tokens. -/
theorem matchTokens?_fillTokens_append {values : Text → Option Text} {parts others : List Token}
    (delimited : Delimited parts) (filled : ∀ p ∈ placeholdersOf parts, p.Filled values)
    {rest : Text} (separated : ∀ c ∈ rest.head?, ∃ separator : Separator, c = separator.char)
    {later : Params} (matched : matchTokens? others rest = some later) (isFirst : Bool) :
    matchTokens? (parts ++ others) (fillTokens values isFirst parts ++ rest) =
      some (((placeholdersOf parts).filterMap fun p => (values p.name).map fun value =>
        (p.name, value)) ++ later) := by
  induction parts generalizing isFirst with
  | nil => exact matched
  | cons token front ih =>
      cases token with
      | literal text =>
          rw [fillTokens, List.cons_append, matchTokens?, List.append_assoc, dropPrefix?_append]
          exact ih delimited filled isFirst
      | placeholder p =>
          obtain ⟨stopped, delimited⟩ := delimited
          obtain ⟨named, type, value, typed, tame, given, present, accepted⟩ :=
            filled p List.mem_cons_self
          have others_filled : ∀ q ∈ placeholdersOf front, q.Filled values :=
            fun q member => filled q (List.mem_cons_of_mem _ member)
          -- The rest matches after the preferred taking, so the other takings are never tried.
          obtain ⟨takings, first⟩ := Placeholder.takings_of_stop typed tame present accepted
            (stops_fillTokens typed tame stopped others_filled separated)
          have notEmpty : p.name.isEmpty = false := by simpa using named
          rw [fillTokens, Placeholder.fill_of_value named given, List.cons_append, matchTokens?,
            List.append_assoc, List.append_assoc, first]
          simp only [List.findSome?_cons, ih delimited others_filled false, Option.map_some,
            Placeholder.record, notEmpty, placeholdersOf_placeholder, List.filterMap_cons, given,
            Bool.false_eq_true, ↓reduceIte, List.cons_append]

/-- **Matching what has been filled in gives the values back**, each under its name. -/
theorem matchTokens?_fillTokens {values : Text → Option Text} {parts : List Token}
    (delimited : Delimited parts) (filled : ∀ p ∈ placeholdersOf parts, p.Filled values)
    (isFirst : Bool) :
    matchTokens? parts (fillTokens values isFirst parts) =
      some ((placeholdersOf parts).filterMap fun p => (values p.name).map fun value =>
        (p.name, value)) := by
  have matched : matchTokens? [] [] = some [] := rfl
  have whole := matchTokens?_fillTokens_append delimited filled (by simp) matched isFirst
  rwa [List.append_nil, List.append_nil, List.append_nil] at whole

theorem not_mem_textOf {c : Char} (other : Separator.ofChar? c = none)
    (separator : Option Separator) : c ∉ Separator.textOf separator := by
  cases separator with
  | none => exact List.not_mem_nil
  | some separator =>
      intro inside
      obtain rfl := List.mem_singleton.mp inside
      cases separator <;> cases other

/-- A character that is in no literal text and in no value is not in what is filled in, unless it is
a separator. -/
theorem not_mem_fillTokens {c : Char} (other : Separator.ofChar? c = none)
    {values : Text → Option Text} {parts : List Token}
    (literals : ∀ text, Token.literal text ∈ parts → c ∉ text)
    (absent : ∀ p ∈ placeholdersOf parts, ∀ value ∈ values p.name, c ∉ value) (isFirst : Bool) :
    c ∉ fillTokens values isFirst parts := by
  induction parts generalizing isFirst with
  | nil => exact List.not_mem_nil
  | cons token others ih =>
      have later : ∀ text, Token.literal text ∈ others → c ∉ text :=
        fun text member => literals text (List.mem_cons_of_mem _ member)
      cases token with
      | literal text =>
          rw [fillTokens, List.mem_append, not_or]
          exact ⟨literals text List.mem_cons_self, ih later absent isFirst⟩
      | placeholder p =>
          have rest : ∀ q ∈ placeholdersOf others, ∀ value ∈ values q.name, c ∉ value :=
            fun q member => absent q (List.mem_cons_of_mem _ member)
          rw [fillTokens, List.mem_append, not_or]
          refine ⟨?_, ih later rest false⟩
          unfold Placeholder.fill
          split
          · next value given =>
            have found : values p.name = some value := by
              split at given
              · cases given
              · exact given
            rw [Placeholder.separator, List.mem_append, List.mem_append, not_or, not_or]
            exact ⟨⟨not_mem_textOf other _, not_mem_textOf other _⟩,
              absent p List.mem_cons_self value found⟩
          · split
            · exact List.not_mem_nil
            · exact not_mem_textOf other _

namespace Params

theorem value?_of_mem {params : Params} (distinct : (params.map Prod.fst).Nodup)
    {entry : Text × Text} (member : entry ∈ params) : params.value? entry.1 = some entry.2 := by
  induction params with
  | nil => cases member
  | cons first others ih =>
      rw [List.map_cons, List.nodup_cons] at distinct
      obtain ⟨apart, distinct⟩ := distinct
      rcases List.mem_cons.mp member with rfl | later
      · exact value?_cons_self others
      · rw [value?_cons_of_ne fun same => apart (same ▸ List.mem_map_of_mem later)]
        exact ih distinct later

/-- Looking up the keys of parameters one by one gives the parameters. -/
theorem filterMap_value? {params : Params} (distinct : (params.map Prod.fst).Nodup) :
    (params.map Prod.fst).filterMap (fun name => (params.value? name).map fun value =>
      (name, value)) = params := by
  have kept : ∀ entry ∈ params, ((fun name => (params.value? name).map fun value =>
      (name, value)) ∘ Prod.fst) entry = some entry := by
    intro entry member
    rw [Function.comp_apply, value?_of_mem distinct member]
    rfl
  rw [List.filterMap_map, List.filterMap_congr kept, List.filterMap_some]

/-- Parameters for just the given placeholders, with values of their types. -/
structure Supply (params : Params) (used : List Placeholder) : Prop where
  keys : (params.map Prod.fst).Perm (used.map Placeholder.name)
  values : ∀ p ∈ used, ∀ type ∈ p.type?, ∀ value ∈ params.value? p.name,
    value ≠ [] ∧ ∀ c ∈ value, type.accepts c = true

namespace Supply

variable {params : Params} {used : List Placeholder}

theorem filled (supply : params.Supply used) (distinct : (used.map Placeholder.name).Nodup)
    (identifiers : ∀ p ∈ used, Unicode.isIdentifier p.name = true)
    (typed : ∀ p ∈ used, ∃ type ∈ p.type?, type.wild = false) :
    ∀ p ∈ used, p.Filled params.value? := by
  intro p member
  obtain ⟨type, isType, tame⟩ := typed p member
  have key : p.name ∈ params.map Prod.fst :=
    supply.keys.mem_iff.mpr (List.mem_map_of_mem member)
  obtain ⟨⟨_, value⟩, entry, same⟩ := List.mem_map.mp key
  have given : params.value? p.name = some value :=
    same ▸ value?_of_mem (supply.keys.nodup_iff.mpr distinct) entry
  obtain ⟨present, accepted⟩ := supply.values p member type isType value given
  exact ⟨identifier_ne_nil (identifiers p member), type, value, isType, tame, given, present,
    accepted⟩

/-- The values, in the order of the placeholders, are the parameters. -/
theorem perm (supply : params.Supply used) (distinct : (used.map Placeholder.name).Nodup) :
    (used.filterMap fun p => (params.value? p.name).map fun value => (p.name, value)).Perm
      params := by
  have looked := supply.keys.symm.filterMap fun name => (params.value? name).map fun value =>
    (name, value)
  rw [filterMap_value? (supply.keys.nodup_iff.mpr distinct), List.filterMap_map] at looked
  exact looked

theorem value?_eq_none (supply : params.Supply used) {name : Text}
    (absent : name ∉ used.map Placeholder.name) : params.value? name = none := by
  rw [value?, List.lookup_eq_none_iff]
  intro entry member
  have key := supply.keys.mem_iff.mp (List.mem_map_of_mem member)
  exact bne_iff_ne.mpr fun same => absent (same ▸ key)

end Supply

end Params

end Signpost

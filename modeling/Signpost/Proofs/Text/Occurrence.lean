import Signpost.Unicode.Case
import Signpost.Text.Basic
import Mathlib.Data.List.DropRight

/-!
# Texts within texts

`Text.occursIn` decides whether one text stands within another.  A piece between the occurrences of
a character stands within the text, and so does what is left when the margins of a text are trimmed.
Letter case is mapped character by character as long as all characters are ASCII, so that a text
within such a text stays within it in lower case (`Text.IsAscii.lowerText_infix`), and the lower
case of such a text can be read off its upper case (`Text.IsAscii.lowerText_upperText`).
-/

namespace Signpost

namespace Text

theorem occursIn_iff {part text : Text} : occursIn part text = true ↔ part <:+: text := by
  induction text with
  | nil => simp [occursIn]
  | cons c rest ih =>
      rw [occursIn, Bool.or_eq_true, List.isPrefixOf_iff_prefix, ih, List.infix_cons_iff]

/-- The first piece stands at the start of the text, and the others within it. -/
theorem exists_pieces (mark : Char) (text : Text) :
    ∃ first others, pieces mark text = first :: others ∧ first <+: text ∧
      ∀ piece ∈ others, piece <:+: text := by
  induction text with
  | nil => exact ⟨[], [], rfl, List.prefix_refl _, by simp⟩
  | cons c rest ih =>
      obtain ⟨first, others, parted, starts, within⟩ := ih
      have later : ∀ piece, piece <:+: rest → piece <:+: c :: rest := fun piece inside =>
        List.infix_cons_iff.mpr (.inr inside)
      by_cases marked : c = mark
      · refine ⟨[], first :: others, by rw [pieces, if_pos marked, parted], List.nil_prefix, ?_⟩
        exact List.forall_mem_cons.mpr
          ⟨later first starts.isInfix, fun piece member => later piece (within piece member)⟩
      · refine ⟨c :: first, others, by rw [pieces, if_neg marked, parted], ?_, ?_⟩
        · exact List.cons_prefix_cons.mpr ⟨rfl, starts⟩
        · exact fun piece member => later piece (within piece member)

theorem infix_of_mem_pieces {mark : Char} {text piece : Text} (member : piece ∈ pieces mark text) :
    piece <:+: text := by
  obtain ⟨first, others, parted, starts, within⟩ := exists_pieces mark text
  rw [parted] at member
  rcases List.mem_cons.mp member with rfl | later
  · exact starts.isInfix
  · exact within piece later

theorem trim_infix (text : Text) : trim text <:+: text := by
  have back : trim text <+: text.dropWhile fun c => Unicode.isSpace c.toNat :=
    List.rdropWhile_prefix _ _
  exact back.isInfix.trans (List.dropWhile_suffix _).isInfix

/-- A text of ASCII characters. -/
def IsAscii (text : Text) : Prop :=
  ∀ c ∈ text, c.toNat < 0x80

instance (text : Text) : Decidable text.IsAscii :=
  List.decidableBAll (fun c : Char => c.toNat < 0x80) text

end Text

namespace Unicode

theorem lowerCodes_of_ascii {code : Nat} (ascii : code < 0x80) :
    lowerCodes code = [lowerCode code] :=
  if_neg (by omega)

theorem upperCodes_of_ascii {code : Nat} (ascii : code < 0x80) :
    upperCodes code = [upperCode code] := by
  rw [upperCode, upperCodes, if_pos ascii]
  rfl

/-- Both cases of an ASCII character have one lower case. -/
theorem lowerCode_upperCode : ∀ code < 0x80,
    (Char.ofNat (upperCode code)).toNat < 0x80 ∧
      lowerCode (Char.ofNat (upperCode code)).toNat = lowerCode code := by
  decide

theorem lowerAfter_of_ascii (before : Text) {text : Text} (ascii : text.IsAscii) :
    lowerAfter before text = text.map fun c => Char.ofNat (lowerCode c.toNat) := by
  induction text generalizing before with
  | nil => rfl
  | cons c rest ih =>
      obtain ⟨low, others⟩ := List.forall_mem_cons.mp ascii
      have noSigma : c.toNat ≠ 0x3A3 := by omega
      rw [lowerAfter, if_neg noSigma, lowerCodes_of_ascii low, ih _ others]
      rfl

end Unicode

namespace Text.IsAscii

open Unicode

variable {text : Text}

theorem of_infix {part : Text} (ascii : text.IsAscii) (inside : part <:+: text) : part.IsAscii :=
  fun c member => ascii c (inside.subset member)

theorem lowerText_eq (ascii : text.IsAscii) :
    lowerText text = text.map fun c => Char.ofNat (lowerCode c.toNat) :=
  lowerAfter_of_ascii [] ascii

theorem upperText_eq (ascii : text.IsAscii) :
    upperText text = text.map fun c => Char.ofNat (upperCode c.toNat) := by
  induction text with
  | nil => rfl
  | cons c rest ih =>
      obtain ⟨low, others⟩ := List.forall_mem_cons.mp ascii
      rw [upperText, List.flatMap_cons, ← upperText, ih others, upperCodes_of_ascii low]
      rfl

/-- The lower case of an ASCII text can be read off its upper case. -/
theorem lowerText_upperText (ascii : text.IsAscii) :
    lowerText (upperText text) = lowerText text := by
  have upper : Text.IsAscii (upperText text) := by
    intro c member
    rw [ascii.upperText_eq] at member
    obtain ⟨d, inside, rfl⟩ := List.mem_map.mp member
    exact (lowerCode_upperCode d.toNat (ascii d inside)).1
  rw [upper.lowerText_eq, ascii.lowerText_eq, ascii.upperText_eq, List.map_map]
  refine List.map_congr_left fun c member => ?_
  exact congrArg Char.ofNat (lowerCode_upperCode c.toNat (ascii c member)).2

/-- A text within an ASCII text stays within it in lower case. -/
theorem lowerText_infix {part : Text} (ascii : text.IsAscii) (inside : part <:+: text) :
    lowerText part <:+: lowerText text := by
  rw [ascii.lowerText_eq, (ascii.of_infix inside).lowerText_eq]
  exact inside.map _

end Text.IsAscii

end Signpost

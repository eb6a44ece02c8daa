import DungeonScript.Proofs.RollBounds

/-!
Numbers at the ends of their range. The magnitude of a number is read before its sign, in 63 bits,
and a magnitude that does not fit is none at all: such a number is 0, and not completely read. The
bounds of a roll are spelled alike, but there a magnitude that does not fit is taken for the greatest
that does. So numbers and bounds agree on every decimal numeral that fits, each has its value then,
and on no other (`PlainNumeral.read_exact_iff_fits`). The one number of 64 bits whose own numeral
does not fit is the least.
-/

namespace DungeonScript

/-- A decimal numeral that no other form fits: digits without a `0` in front, or a lone `0`. -/
structure PlainNumeral extends DecimalNumeral where
  unpadded : ∀ more, digits = '0' :: more → more = []

namespace PlainNumeral

open Numeral

variable (n : PlainNumeral)

def text : String := String.ofList n.chars

def magnitude : Nat := valueOf 10 n.digits

def value : Int := withSign n.negative n.magnitude

/-- The magnitude of a numeral is one of 63 bits. -/
def Fits : Prop := (n.magnitude : Int) ≤ greatestNumber

instance : Decidable n.Fits := inferInstanceAs (Decidable (_ ≤ _))

theorem fits_iff : n.Fits ↔ -greatestNumber ≤ n.value ∧ n.value ≤ greatestNumber := by
  unfold Fits value withSign
  split <;> omega

def sign : List Char := if n.negative then ['-'] else []

theorem chars_eq : n.chars = n.sign ++ n.digits := by
  unfold DecimalNumeral.chars sign
  split <;> rfl

theorem signed : Sign n.sign n.negative := by
  unfold sign
  split
  · rename_i negative
    exact negative ▸ .minus
  · rename_i positive
    exact (Bool.not_eq_true _).mp positive ▸ .missing

theorem measured : Magnitude n.digits n.magnitude := by
  unfold magnitude
  have decimal := n.decimal
  cases digits : n.digits with
  | nil => exact absurd digits n.nonempty
  | cons first more =>
    by_cases zero : first = '0'
    · subst zero
      rw [n.unpadded more digits]
      exact .octal (List.forall_mem_nil _)
    · rw [digits] at decimal
      exact .decimal zero decimal

theorem spells : Spells n.chars n.value := by
  rw [chars_eq]
  exact .of (List.forall_mem_nil _) n.signed n.measured

/-! ## Numbers -/

theorem magnitude?_of_not_fits (great : ¬n.Fits) : magnitude? n.digits = none := by
  have large : ¬valueOf 10 n.digits ≤ 9223372036854775807 := fun small =>
    great (Int.ofNat_le.2 small)
  have unread : decimal? n.digits = none := by
    have whole : digits? Char.isDigit 10 (n.digits ++ []) = fitting (valueOf 10 n.digits) [] :=
      digits?_of_stops n.nonempty n.decimal nofun
    rw [List.append_nil] at whole
    exact whole.trans (if_neg large)
  have other : ∀ more, n.digits ≠ '0' :: more := by
    intro more padded
    rw [n.unpadded more padded] at padded
    exact large (padded ▸ by decide)
  rw [magnitude?, hexadecimal?_eq_none fun _ _ _ _ _ => other _, octal?_eq_none other, unread]
  rfl

theorem read_text : read n.text = if n.Fits then ⟨n.value, true⟩ else ⟨0, false⟩ := by
  have toList : n.text.toList = n.chars := String.toList_ofList
  split
  · rename_i fits
    refine read_of_spells (toList ▸ n.spells) ?_
    rw [value, natAbs_withSign]
    exact fits
  · rename_i great
    obtain ⟨first, more, digits, digit⟩ := n.measured.head
    have opened : afterOpening ([] ++ (n.sign ++ first :: more)) = (n.negative, first :: more) :=
      (opening_before_digit (List.forall_mem_nil _) n.signed digit).2
    rw [List.nil_append, ← digits, ← chars_eq] at opened
    rw [Numeral.read, toList, signed?_magnitude?, opened, n.magnitude?_of_not_fits great]
    have nonempty : n.chars.isEmpty = false := by
      rw [List.isEmpty_eq_false_iff, chars_eq]
      exact List.append_ne_nil_of_right_ne_nil _ n.nonempty
    simp only [Option.map_none, nonempty]

/-! ## Bounds -/

def bound : SpelledBound where
  before := []
  negative := n.negative
  digits := n.digits
  passed := List.forall_mem_nil _
  decimal := n.decimal
  present := .inr n.nonempty

theorem read?_chars (second : Bool) :
    Bound.read? second n.chars = some ⟨n.bound.value, n.bound.odd second, []⟩ := by
  have taken : n.digits.takeWhile Char.isDigit = n.digits ∧
      n.digits.dropWhile Char.isDigit = [] := by
    have whole : (n.digits ++ []).takeWhile Char.isDigit = n.digits ∧
        (n.digits ++ []).dropWhile Char.isDigit = [] :=
      takeWhile_dropWhile_of_stops n.decimal nofun
    rwa [List.append_nil] at whole
  have parts := n.bound.ofDigits_eq second []
  obtain ⟨first, more, digits, digit⟩ := n.measured.head
  unfold Bound.read? DecimalNumeral.chars
  cases negative : n.negative with
  | true =>
    show some (Bound.ofDigits second true (n.digits.takeWhile Char.isDigit)
      (n.digits.dropWhile Char.isDigit)) = _
    rw [taken.1, taken.2, ← parts, ← negative]
    rfl
  | false =>
    have starts : Bound.starts first = true := by
      rw [Bound.starts, digit]
      rfl
    have unsigned : first ≠ '-' := by
      rintro rfl
      exact absurd digit (by decide)
    have here : n.digits.dropWhile (!Bound.starts ·) = n.digits := by
      rw [digits, List.dropWhile_cons_of_neg (by simp [starts])]
    rw [if_neg Bool.false_ne_true, here]
    split
    · exact absurd ‹_› n.nonempty
    · rename_i more' minus
      exact absurd (List.cons.inj (digits.symm.trans minus)).1 unsigned
    · rw [taken.1, taken.2, ← parts, ← negative]
      rfl

theorem bound_value : n.bound.value = clamp (-greatestNumber) greatestNumber n.value := by
  have greatest : greatestNumber = 9223372036854775807 := rfl
  have spelled : n.bound.value =
    if n.negative then -min (n.magnitude : Int) greatestNumber else min n.magnitude greatestNumber := rfl
  rw [spelled]
  unfold clamp value withSign
  split <;> omega

theorem bound_value_of_fits (fits : n.Fits) : n.bound.value = n.value := by
  obtain ⟨lower, upper⟩ := n.fits_iff.1 fits
  rw [bound_value, clamp_of_mem lower upper]

theorem bound_value_ne_zero (great : ¬n.Fits) : n.bound.value ≠ 0 := by
  have positive : 0 < greatestNumber := by decide
  rw [fits_iff] at great
  rw [bound_value]
  unfold clamp
  omega

theorem saturate_of_fits (fits : n.Fits) : saturate n.value = n.value := by
  obtain ⟨lower, upper⟩ := n.fits_iff.1 fits
  exact saturate_of_inRange ⟨Int.le_trans (by decide) lower, upper⟩

/-! ## Numbers in decimal -/

def ofNumber (v : Int) : PlainNumeral where
  toDecimalNumeral := .ofNumber v
  unpadded := by
    intro more padded
    have zero : v.natAbs = 0 := eq_zero_of_toDigits padded
    have lone : Nat.toDigits 10 v.natAbs = ['0'] := by rw [zero]; rfl
    exact (List.cons.inj (padded.symm.trans lone)).2

theorem text_ofNumber (v : Int) : (ofNumber v).text = toString v := by
  show String.ofList (DecimalNumeral.ofNumber v).chars = _
  rw [DecimalNumeral.chars_ofNumber, String.ofList_toList]

theorem magnitude_ofNumber (v : Int) : (ofNumber v).magnitude = v.natAbs := valueOf_toDigits _

theorem value_ofNumber (v : Int) : (ofNumber v).value = v := by
  rw [value, magnitude_ofNumber]
  show withSign (decide (v < 0)) v.natAbs = v
  rcases Int.lt_or_le v 0 with negative | positive
  · rw [withSign, if_pos (decide_eq_true negative)]
    omega
  · rw [withSign, if_neg (by simpa using positive)]
    omega

theorem fits_ofNumber_iff {v : Int} (inRange : InRange v) :
    (ofNumber v).Fits ↔ v ≠ leastNumber := by
  have ends : -greatestNumber = leastNumber + 1 := by decide
  obtain ⟨lower, upper⟩ := inRange
  rw [fits_iff, value_ofNumber]
  omega

/-- **Which numerals are read exactly.** A decimal numeral is completely read, as the number of 64
    bits nearest to its value, if its magnitude fits 63 bits, and only then; it is 0 and not complete
    otherwise. As a bound of a roll it is taken for the number nearest to its value that can be
    negated, with a remark if it does not fit, so numbers and bounds agree in the same cases. A number
    of 64 bits that is written in decimal is read back unless it is the least. -/
theorem read_exact_iff_fits (n : PlainNumeral) :
    read n.text = (if n.Fits then ⟨n.value, true⟩ else ⟨0, false⟩) ∧
    (read n.text = ⟨saturate n.value, true⟩ ↔ n.Fits) ∧
    (∀ second, ∃ b, Bound.read? second n.text.toList = some b ∧ b.rest = [] ∧
      b.value = clamp (-greatestNumber) greatestNumber n.value ∧ (b.odd = none ↔ n.Fits) ∧
      ((read n.text).value = b.value ↔ n.Fits)) ∧
    ∀ v, InRange v → (read (toString v) = ⟨v, true⟩ ↔ v ≠ leastNumber) := by
  refine ⟨n.read_text, ?_, fun second => ?_, fun v inRange => ?_⟩
  · rw [read_text]
    split
    · rename_i fits
      simp only [n.saturate_of_fits fits, fits]
    · rename_i great
      simp [great]
  · have whole : Bound.read? second n.text.toList =
        some ⟨n.bound.value, n.bound.odd second, []⟩ := by
      rw [text, String.toList_ofList]
      exact n.read?_chars second
    refine ⟨_, whole, rfl, n.bound_value, ?_, ?_⟩
    · unfold SpelledBound.odd
      split
      · rename_i fine
        exact iff_of_true rfl fine.2
      · rename_i odd
        exact iff_of_false nofun fun fits => odd ⟨n.nonempty, fits⟩
    · rw [read_text]
      split
      · rename_i fits
        exact iff_of_true (n.bound_value_of_fits fits).symm fits
      · rename_i great
        exact iff_of_false (n.bound_value_ne_zero great).symm great
  · rw [← text_ofNumber, read_text, value_ofNumber, ← fits_ofNumber_iff inRange]
    split
    · rename_i fits
      exact iff_of_true rfl fits
    · rename_i great
      exact iff_of_false nofun great

/-- The least number is in range, and its numeral is read as 0 and not completely. -/
theorem read_exact_iff_fits_least :
    InRange leastNumber ∧ toString leastNumber = "-9223372036854775808" ∧
      read "-9223372036854775808" = ⟨0, false⟩ ∧
      read (toString leastNumber) ≠ ⟨leastNumber, true⟩ := by
  have unfit : ¬(ofNumber leastNumber).Fits := by
    rw [fits_ofNumber_iff (by decide)]
    exact not_not_intro rfl
  have written : toString leastNumber = "-9223372036854775808" := by decide +kernel
  obtain ⟨exactly, _, _, back⟩ := read_exact_iff_fits (ofNumber leastNumber)
  rw [if_neg unfit, text_ofNumber, written] at exactly
  exact ⟨by decide, written, exactly, fun same => (back leastNumber (by decide)).1 same rfl⟩

end PlainNumeral

end DungeonScript

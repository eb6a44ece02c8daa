/-!
ASCII case. Script words are compared without regard to the case of the letters
`A` to `Z`; every other character stands for itself, letters outside ASCII
included.
-/

namespace DungeonScript

/-- The word with its ASCII letters in upper case. -/
def upperCase (w : String) : String := String.ofList (w.toList.map Char.toUpper)

/-- Two words that differ at most in the case of ASCII letters. -/
def sameWord (a b : String) : Bool := upperCase a == upperCase b

theorem toList_upperCase (w : String) : (upperCase w).toList = w.toList.map Char.toUpper := by
  simp [upperCase]

theorem sameWord_iff {a b : String} : sameWord a b = true ↔ upperCase a = upperCase b := by
  simp [sameWord]

@[simp] theorem sameWord_refl (a : String) : sameWord a a = true := by
  simp [sameWord]

/-! ## Letters and capitals -/

theorem isUpper_iff {c : Char} : c.isUpper = true ↔ 'A'.toNat ≤ c.toNat ∧ c.toNat ≤ 'Z'.toNat :=
  decide_eq_true_iff

theorem isLower_iff {c : Char} : c.isLower = true ↔ 'a'.toNat ≤ c.toNat ∧ c.toNat ≤ 'z'.toNat := by
  show (decide (c.val ≥ 'a'.val) && decide (c.val ≤ 'z'.val)) = true ↔ _
  rw [Bool.and_eq_true, decide_eq_true_iff, decide_eq_true_iff]
  rfl

theorem isAlpha_eq (c : Char) : c.isAlpha = (c.isUpper || c.isLower) := rfl

theorem isDigit_iff {c : Char} : c.isDigit = true ↔ '0'.toNat ≤ c.toNat ∧ c.toNat ≤ '9'.toNat := by
  simp only [Char.isDigit, Bool.and_eq_true, decide_eq_true_eq, ge_iff_le, UInt32.le_iff_toNat_le,
    Char.toNat]

theorem isLower_of_isUpper {c : Char} (upper : c.isUpper = true) : c.isLower = false := by
  rw [← Bool.not_eq_true, isLower_iff]
  intro lower
  exact absurd (Nat.le_trans lower.1 (isUpper_iff.1 upper).2) (by decide)

theorem isAlpha_of_isDigit {c : Char} (digit : c.isDigit = true) : c.isAlpha = false := by
  have most := (isDigit_iff.1 digit).2
  rw [← Bool.not_eq_true, isAlpha_eq, Bool.or_eq_true, isUpper_iff, isLower_iff]
  rintro (upper | lower)
  · exact absurd (Nat.le_trans upper.1 most) (by decide)
  · exact absurd (Nat.le_trans lower.1 most) (by decide)

theorem isLower_of_isDigit {c : Char} (digit : c.isDigit = true) : c.isLower = false :=
  (Bool.or_eq_false_iff.1 (isAlpha_of_isDigit digit)).2

theorem toUpper_of_isLower_eq_false {c : Char} (h : c.isLower = false) : c.toUpper = c := by
  refine dif_neg fun lower => ?_
  rw [← Bool.not_eq_true, isLower_iff] at h
  exact h ⟨UInt32.le_iff_toNat_le.1 lower.1, UInt32.le_iff_toNat_le.1 lower.2⟩

theorem map_toUpper_eq_self {cs : List Char} (h : ∀ c ∈ cs, c.isLower = false) :
    cs.map Char.toUpper = cs :=
  (List.map_congr_left fun c member => toUpper_of_isLower_eq_false (h c member)).trans
    (List.map_id cs)

theorem toNat_toUpper {c : Char} (lower : c.isLower = true) : c.toUpper.toNat + 32 = c.toNat := by
  obtain ⟨first, last⟩ := isLower_iff.1 lower
  have first : 97 ≤ c.val.toNat := first
  have last : c.val.toNat ≤ 122 := last
  have distance : ('A'.val - 'a'.val).toNat = 4294967264 := by decide
  have capital : c.toUpper.val = c.val + ('A'.val - 'a'.val) := by
    have small : 'a'.val ≤ c.val ∧ c.val ≤ 'z'.val :=
      ⟨UInt32.le_iff_toNat_le.2 first, UInt32.le_iff_toNat_le.2 last⟩
    delta Char.toUpper
    rw [dif_pos small]
  show c.toUpper.val.toNat + 32 = c.val.toNat
  rw [capital, UInt32.toNat_add, distance]
  omega

theorem toLower_toUpper (c : Char) : c.toUpper.toLower = c.toLower := by
  cases lower : c.isLower with
  | false => rw [toUpper_of_isLower_eq_false lower]
  | true =>
    have shift := toNat_toUpper lower
    obtain ⟨first, last⟩ := isLower_iff.1 lower
    have first : 97 ≤ c.toNat := first
    have last : c.toNat ≤ 122 := last
    have capital : 'A'.val ≤ c.toUpper.val ∧ c.toUpper.val ≤ 'Z'.val :=
      ⟨UInt32.le_iff_toNat_le.2 (show 65 ≤ c.toUpper.toNat by omega),
        UInt32.le_iff_toNat_le.2 (show c.toUpper.toNat ≤ 90 by omega)⟩
    have small : ¬('A'.val ≤ c.val ∧ c.val ≤ 'Z'.val) := by
      rintro ⟨-, most⟩
      have most : c.toNat ≤ 90 := UInt32.le_iff_toNat_le.1 most
      omega
    delta Char.toLower
    rw [dif_pos capital, dif_neg small]
    apply Char.ext
    apply UInt32.toNat_inj.1
    show (c.toUpper.val + 32).toNat = c.val.toNat
    have shift : c.toUpper.val.toNat + 32 = c.val.toNat := shift
    have last : c.val.toNat ≤ 122 := last
    rw [UInt32.toNat_add]
    show (c.toUpper.val.toNat + 32) % _ = _
    omega

theorem isUpper_toUpper {c : Char} (lower : c.isLower = true) : c.toUpper.isUpper = true := by
  have shift := toNat_toUpper lower
  obtain ⟨first, last⟩ := isLower_iff.1 lower
  have first : 97 ≤ c.toNat := first
  have last : c.toNat ≤ 122 := last
  refine isUpper_iff.2 ⟨show 65 ≤ c.toUpper.toNat by omega, show c.toUpper.toNat ≤ 90 by omega⟩

theorem isAlpha_toUpper (c : Char) : c.toUpper.isAlpha = c.isAlpha := by
  cases lower : c.isLower with
  | false => rw [toUpper_of_isLower_eq_false lower]
  | true => simp [isAlpha_eq, lower, isUpper_toUpper lower]

theorem toUpper_eq_iff {c x : Char} (other : x.isAlpha = false) : c.toUpper = x ↔ c = x := by
  cases lower : c.isLower with
  | false => rw [toUpper_of_isLower_eq_false lower]
  | true =>
    have letter : c.isAlpha = true := by simp [isAlpha_eq, lower]
    constructor
    · rintro rfl
      rw [isAlpha_toUpper, letter] at other
      cases other
    · rintro rfl
      rw [letter] at other
      cases other

theorem toUpper_toUpper (c : Char) : c.toUpper.toUpper = c.toUpper := by
  cases lower : c.isLower with
  | false => rw [toUpper_of_isLower_eq_false lower, toUpper_of_isLower_eq_false lower]
  | true => exact toUpper_of_isLower_eq_false (isLower_of_isUpper (isUpper_toUpper lower))

theorem isDigit_toUpper (c : Char) : c.toUpper.isDigit = c.isDigit := by
  cases lower : c.isLower with
  | false => rw [toUpper_of_isLower_eq_false lower]
  | true =>
    have letter : c.isAlpha = true := by simp [isAlpha_eq, lower]
    rw [Bool.eq_iff_iff]
    constructor
    · intro digit
      rw [← isAlpha_toUpper, isAlpha_of_isDigit digit] at letter
      cases letter
    · intro digit
      rw [isAlpha_of_isDigit digit] at letter
      cases letter

end DungeonScript

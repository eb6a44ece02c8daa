import DungeonScript.Proofs.ScriptLine

/-!
Rolls. Dice move only where the next word of a line is `RANDOM`, and then by one step at
most: bounds that are missing or reversed roll nothing (`Cursor.next_within`). So reading a
line moves them by no more than one step for each `RANDOM` there is among the words read
(`read_within`). Nothing else on a line rolls, and a word that does not roll has no bounds
that could be remarked on (`Cursor.next_of_plain`).
-/

namespace DungeonScript

/-! ## Steps of the action series -/

namespace Dice

/-- The dice after this many steps of the action series. -/
def stepped : Nat → Dice → Dice
  | 0, d => d
  | n + 1, d => stepped n { d with action := d.action.next }

def Within (n : Nat) (d d' : Dice) : Prop := ∃ k ≤ n, d' = d.stepped k

theorem stepped_stepped (m n : Nat) (d : Dice) : (d.stepped m).stepped n = d.stepped (m + n) := by
  induction m generalizing d with
  | zero => rw [Nat.zero_add, stepped]
  | succ m ih =>
    rw [Nat.succ_add]
    exact ih { d with action := d.action.next }

theorem within_refl (n : Nat) (d : Dice) : d.Within n d := ⟨0, Nat.zero_le n, rfl⟩

theorem Within.mono {m n : Nat} {d d' : Dice} (h : d.Within m d') (le : m ≤ n) :
    d.Within n d' := by
  obtain ⟨k, hk, rfl⟩ := h
  exact ⟨k, Nat.le_trans hk le, rfl⟩

theorem Within.trans {m n : Nat} {a b c : Dice} (h₁ : a.Within m b) (h₂ : b.Within n c) :
    a.Within (m + n) c := by
  obtain ⟨j, hj, rfl⟩ := h₁
  obtain ⟨k, hk, rfl⟩ := h₂
  exact ⟨j + k, Nat.add_le_add hj hk, stepped_stepped j k a⟩

theorem rollAction_within (d : Dice) (width : Nat) : d.Within 1 (d.rollAction width).2 := by
  unfold rollAction Series.roll
  split
  · exact d.within_refl 1
  · exact ⟨1, Nat.le_refl 1, rfl⟩

/-- A roll between two bounds is one step, or none. -/
theorem between_within (d : Dice) (lo hi : Int) : d.Within 1 (d.between lo hi).dice := by
  unfold between
  split
  · exact d.within_refl 1
  · split
    · exact d.rollAction_within _
    · exact d.rollAction_within _

end Dice

/-! ## Words -/

/-- Whether the word that starts with `first` is `RANDOM`. -/
def Lexeme.rolls (first : Char) (more : List Char) : Bool :=
  first.isAlpha && ((first :: more).takeWhile Word.continuesName).map Char.toUpper == "RANDOM".toList

namespace Lexeme

theorem random_within (cs : List Char) (d : Dice) : d.Within 1 (random cs d).dice := by
  unfold random
  split
  · exact d.within_refl 1
  · split
    · exact d.within_refl 1
    · exact d.between_within _ _

/-- A word that is no `RANDOM` leaves the dice alone and has no bounds. -/
theorem read_of_plain {first : Char} {more : List Char} (plain : rolls first more = false)
    (d : Dice) : (read first more d).dice = d ∧ (read first more d).odd = [] ∧
      (read first more d).caution = none := by
  unfold read
  split
  · rename_i alpha
    have word : ¬((first :: more).takeWhile Word.continuesName).map Char.toUpper =
        "RANDOM".toList := by
      intro random
      simp [rolls, alpha, random] at plain
    unfold name
    simp only [if_neg word]
    exact ⟨rfl, rfl, rfl⟩
  · split
    · unfold number
      simp only
      split <;> exact ⟨rfl, rfl, rfl⟩
    · split
      · unfold number
        simp only
        split <;> exact ⟨rfl, rfl, rfl⟩
      · split
        · unfold text
          split <;> exact ⟨rfl, rfl, rfl⟩
        · unfold operator
          split
          · exact ⟨rfl, rfl, rfl⟩
          · split <;> exact ⟨rfl, rfl, rfl⟩

theorem read_of_rolls {first : Char} {more : List Char} (h : rolls first more = true) (d : Dice) :
    read first more d = random ((first :: more).dropWhile Word.continuesName) d := by
  simp only [rolls, Bool.and_eq_true, beq_iff_eq] at h
  unfold read name
  rw [if_pos h.1]
  simp only [h.2, if_true]

theorem read_within (first : Char) (more : List Char) (d : Dice) :
    d.Within (if rolls first more then 1 else 0) (read first more d).dice := by
  cases h : rolls first more with
  | false =>
    rw [(read_of_plain h d).1]
    exact d.within_refl _
  | true =>
    rw [read_of_rolls h]
    exact random_within _ d

end Lexeme

namespace Cursor

/-- Whether the next word of the line is `RANDOM`. -/
def rolls (c : Cursor) : Bool :=
  match c.rest.dropWhile (!Word.starts ·) with
  | [] => false
  | first :: more => Lexeme.rolls first more

theorem next_within (c : Cursor) (d : Dice) :
    d.Within (if c.rolls then 1 else 0) (c.next d).dice := by
  unfold rolls next
  cases c.rest.dropWhile (!Word.starts ·) with
  | nil => exact d.within_refl _
  | cons first more => exact Lexeme.read_within first more d

theorem next_of_plain {c : Cursor} (plain : c.rolls = false) (d : Dice) :
    (c.next d).dice = d ∧ (c.next d).asides = [] := by
  unfold rolls at plain
  unfold next Scanned.asides
  cases here : c.rest.dropWhile (!Word.starts ·) with
  | nil => exact ⟨rfl, rfl⟩
  | cons first more =>
    rw [here] at plain
    obtain ⟨dice, odd, caution⟩ := Lexeme.read_of_plain plain d
    refine ⟨dice, ?_⟩
    simp only [odd, caution]
    rfl

/-- How many words of the line are `RANDOM`, up to the first that cannot be read. -/
def randoms (c : Cursor) : Nat :=
  (if c.rolls then 1 else 0) + match _hw : (c.next default).word with
    | .ok (some _) => randoms (c.next default).cursor
    | _ => 0
termination_by c.rest.length
decreasing_by exact next_rest_length (by simp [_hw])

theorem cursor_next (c : Cursor) (d : Dice) : (c.next d).cursor = (c.next default).cursor :=
  congrArg Prod.snd (c.next_outline d default)

theorem exists_word (c : Cursor) {d : Dice} {w : Word} (h : (c.next d).word = .ok (some w)) :
    ∃ w', (c.next default).word = .ok (some w') := by
  have same := congrArg Prod.fst (c.next_outline d default)
  simp only [Scanned.outline, h] at same
  cases hw : (c.next default).word with
  | error f =>
    rw [hw] at same
    cases same
  | ok o =>
    cases o with
    | none =>
      rw [hw] at same
      cases same
    | some w' => exact ⟨w', rfl⟩

theorem rolls_le_randoms (c : Cursor) : (if c.rolls then 1 else 0) ≤ c.randoms := by
  rw [randoms]
  exact Nat.le_add_right _ _

theorem randoms_of_word {c : Cursor} {d : Dice} {w : Word} (h : (c.next d).word = .ok (some w)) :
    c.randoms = (if c.rolls then 1 else 0) + (c.next d).cursor.randoms := by
  obtain ⟨w', h'⟩ := c.exists_word h
  rw [randoms, c.cursor_next d]
  congr 1
  split
  · rfl
  · rename_i none
    exact absurd h' (none w')

end Cursor

/-! ## Lines -/

namespace ScriptLine

theorem takeArguments_within (arguments : List Argument) (c : Cursor) (d : Dice) :
    d.Within c.randoms (takeArguments arguments c d).dice := by
  induction arguments generalizing c d with
  | nil => exact d.within_refl _
  | cons a rest ih =>
    have here := c.next_within d
    have only := here.mono c.rolls_le_randoms
    simp only [takeArguments]
    split
    · exact d.within_refl _
    · split
      · exact only
      · exact only
      · rename_i w word
        split
        · exact only
        · rw [Cursor.randoms_of_word word]
          exact here.trans (ih (c.next d).cursor (c.next d).dice)

/-- Reading a line rolls each `RANDOM` of it once at most. -/
theorem read_within (levelVersion : Int) (pass : Pass) (text : List Char) (d : Dice) :
    d.Within (Cursor.ofLine text).randoms (read levelVersion pass text d).dice := by
  have here := (Cursor.ofLine text).next_within d
  have only := here.mono (Cursor.ofLine text).rolls_le_randoms
  unfold read
  simp only
  split
  · exact only
  · exact only
  · rename_i first word
    split
    · split
      · exact only
      · exact only
    · split
      · exact only
      · rw [Cursor.randoms_of_word word]
        exact here.trans (takeArguments_within _ _ _)

end ScriptLine

end DungeonScript

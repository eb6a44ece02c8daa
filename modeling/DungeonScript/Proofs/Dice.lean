import DungeonScript.Proofs.Machine.Text
import Mathlib.Algebra.Order.Floor.Div
import Mathlib.Data.Int.CardIntervalMod
import Mathlib.SetTheory.Cardinal.Finite

/-!
Dice. A roll between two bounds is never outside of them and takes one step of the action series,
however far apart they are (`Dice.between_of_le`). The two series of the dice do not disturb each
other: whatever is rolled in between on the one, the other gives the same numbers
(`Dice.rollAll_apart`).

A step of a series is a product, a sum and a turn of the bits, and each can be undone, so that no
two words lead to the same one (`Series.step`). The words behind a number that is rolled are hence
as many as the words with a rest (`Series.card_roll`), and rolls are as even as they can be.
-/

namespace DungeonScript

/-! ## Between two bounds -/

theorem Series.roll_of_pos (s : Series) {width : Nat} (some : 0 < width) :
    s.roll width = (s.next.seed.toNat % width, s.next) := if_neg (by omega)

namespace Dice

theorem between_of_le (d : Dice) {lo hi : Int} (ordered : lo ≤ hi) :
    lo ≤ (d.between lo hi).value ∧ (d.between lo hi).value ≤ hi ∧
      (d.between lo hi).dice = { d with action := d.action.next } := by
  have inside (width : Nat) (some : 0 < width) (fits : (width : Int) ≤ hi - lo + 1) :
      lo ≤ lo + ((d.rollAction width).1 : Int) ∧ lo + ((d.rollAction width).1 : Int) ≤ hi ∧
        (d.rollAction width).2 = { d with action := d.action.next } := by
    have below : (d.rollAction width).1 < width := d.action.roll_lt some
    refine ⟨by omega, by omega, ?_⟩
    unfold rollAction
    rw [d.action.roll_of_pos some]
  unfold between
  rw [if_neg (by omega)]
  split
  · exact inside _ (by omega) (by omega)
  · exact inside widest (by decide) (by omega)

theorem between_of_lt (d : Dice) {lo hi : Int} (reversed : hi < lo) :
    (d.between lo hi).value = lo ∧ (d.between lo hi).dice = d := by
  unfold between
  rw [if_pos reversed]
  exact ⟨rfl, rfl⟩

end Dice

/-! ## Two series -/

/-- A way to use the dice. -/
inductive Roll where
  /-- For a number below the width that decides what happens. -/
  | action (width : Nat)
  /-- For a number between the bounds that decides what happens. -/
  | between (lo hi : Int)
  /-- For a number below the width that decides what something looks like. -/
  | display (width : Nat)
  deriving Repr, DecidableEq

def Roll.decides : Roll → Bool
  | display _ => false
  | _ => true

namespace Dice

/-- The number that is rolled, and the dice after it. -/
def rolled (d : Dice) : Roll → Int × Dice
  | .action width => ((d.rollAction width).1, (d.rollAction width).2)
  | .between lo hi => ((d.between lo hi).value, (d.between lo hi).dice)
  | .display width => ((d.rollDisplay width).1, (d.rollDisplay width).2)

/-- A row of rolls, each with its number, and the dice after all of them. -/
def rollAll : List Roll → Dice → List (Roll × Int) × Dice
  | [], d => ([], d)
  | r :: rest, d =>
    let (number, d) := d.rolled r
    let (later, d) := rollAll rest d
    ((r, number) :: later, d)

/-- What decides is rolled on the action series, whatever the display series is. -/
theorem rolled_of_decides (r : Roll) (decides : r.decides = true) (d d' : Dice)
    (same : d.action = d'.action) :
    (d.rolled r).1 = (d'.rolled r).1 ∧ (d.rolled r).2.action = (d'.rolled r).2.action := by
  cases r with
  | action width =>
    simp [rolled, rollAction, same]
  | between lo hi =>
    simp only [rolled, between, rollAction, same]
    split
    · exact ⟨rfl, same⟩
    · split <;> exact ⟨rfl, rfl⟩
  | display width => cases decides

theorem action_of_not_decides (r : Roll) (shows : r.decides = false) (d : Dice) :
    (d.rolled r).2.action = d.action := by
  cases r with
  | display width => rfl
  | action | between => cases shows

/-- What does not decide is rolled on the display series, whatever the action series is. -/
theorem rolled_of_not_decides (r : Roll) (shows : r.decides = false) (d d' : Dice)
    (same : d.display = d'.display) :
    (d.rolled r).1 = (d'.rolled r).1 ∧ (d.rolled r).2.display = (d'.rolled r).2.display := by
  cases r with
  | display width =>
    simp [rolled, rollDisplay, same]
  | action | between => cases shows

theorem display_of_decides (r : Roll) (decides : r.decides = true) (d : Dice) :
    (d.rolled r).2.display = d.display := by
  cases r with
  | action width => rfl
  | between lo hi =>
    simp only [rolled, between]
    split
    · rfl
    · split <;> rfl
  | display width => cases decides

/-- Rolls on one series give the same numbers and leave the same series without the rolls on the
    other. -/
theorem rollAll_apart (mine : Roll → Bool) {series : Dice → Series}
    (own : ∀ r, mine r = true → ∀ d d' : Dice, series d = series d' →
      (d.rolled r).1 = (d'.rolled r).1 ∧ series (d.rolled r).2 = series (d'.rolled r).2)
    (others : ∀ r, mine r = false → ∀ d : Dice, series (d.rolled r).2 = series d)
    (rolls : List Roll) {d d' : Dice} (same : series d = series d') :
    (d.rollAll rolls).1.filter (mine ·.1) = (d'.rollAll (rolls.filter mine)).1 ∧
      series (d.rollAll rolls).2 = series (d'.rollAll (rolls.filter mine)).2 := by
  -- one of the two dice goes on without the other where the roll is not on this series
  induction rolls generalizing d d' with
  | nil => exact ⟨rfl, same⟩
  | cons r rest ih =>
    cases whose : mine r with
    | true =>
      obtain ⟨number, after⟩ := own r whose d d' same
      obtain ⟨numbers, final⟩ := ih after
      simp [rollAll, whose, number, numbers, final]
    | false =>
      obtain ⟨numbers, final⟩ := ih ((others r whose d).trans same)
      simp [rollAll, whose, numbers, final]

end Dice

/-- **Bounds and series.** From any two words, a roll between two bounds of 64 bits is worked out
    without going beyond 64 bits. It lies between its bounds and takes the action series one step
    on; reversed bounds give the first of them and no step. And in any row of rolls, those that
    decide give the same numbers and leave the same action series as without all others, and the
    others, with the display series, as without those. -/
theorem Dice.rolls_bounded_and_apart (d : Dice) :
    (∀ lo hi : Int, InRange lo → InRange hi →
      Machine.between d lo hi = .ok (d.between lo hi) ∧
      (lo ≤ hi → lo ≤ (d.between lo hi).value ∧ (d.between lo hi).value ≤ hi ∧
        (d.between lo hi).dice = { d with action := d.action.next }) ∧
      (hi < lo → (d.between lo hi).value = lo ∧ (d.between lo hi).dice = d)) ∧
    ∀ rolls : List Roll,
      ((d.rollAll rolls).1.filter (·.1.decides) = (d.rollAll (rolls.filter (·.decides))).1 ∧
        (d.rollAll rolls).2.action = (d.rollAll (rolls.filter (·.decides))).2.action) ∧
      (d.rollAll rolls).1.filter (!·.1.decides) = (d.rollAll (rolls.filter (!·.decides))).1 ∧
        (d.rollAll rolls).2.display = (d.rollAll (rolls.filter (!·.decides))).2.display := by
  refine ⟨fun lo hi low high => ?_, fun rolls => ⟨?_, ?_⟩⟩
  · exact ⟨Machine.between_eq d low high, d.between_of_le, d.between_of_lt⟩
  · exact rollAll_apart Roll.decides rolled_of_decides action_of_not_decides rolls rfl
  · refine rollAll_apart (!·.decides) (fun r shows => ?_) (fun r decides => ?_) rolls rfl
    · exact rolled_of_not_decides r (by simpa using shows)
    · exact display_of_decides r (by simpa using decides)

/-- Bounds as far apart as numbers go, and a row with a roll for show in the middle of it. -/
theorem Dice.rolls_bounded_and_apart_widest :
    let d : Dice := ⟨⟨42⟩, ⟨7⟩⟩
    let rolls : List Roll := [.action 100, .display 100, .between leastNumber greatestNumber]
    InRange leastNumber ∧ InRange greatestNumber ∧ leastNumber ≤ greatestNumber ∧
      Machine.between d leastNumber greatestNumber = .ok (d.between leastNumber greatestNumber) ∧
      (d.between leastNumber greatestNumber).dice.display = ⟨7⟩ ∧
      (d.rollAll rolls).1.filter (·.1.decides) =
        (d.rollAll [.action 100, .between leastNumber greatestNumber]).1 := by
  intro d rolls
  have low : InRange leastNumber := by decide
  have high : InRange greatestNumber := by decide
  have ordered : leastNumber ≤ greatestNumber := by decide
  obtain ⟨bounded, apart⟩ := rolls_bounded_and_apart d
  obtain ⟨worked, inside, _⟩ := bounded leastNumber greatestNumber low high
  refine ⟨low, high, ordered, worked, ?_, (apart rolls).1.1⟩
  rw [(inside ordered).2.2]

/-! ## Every word comes of one -/

namespace Series

theorem rotateRight_rotateRight {n a b : Nat} (some_ : 0 < a) (more : 0 < b) (around : a + b = n)
    (w : BitVec n) : (w.rotateRight a).rotateRight b = w := by
  have first : a % n = a := Nat.mod_eq_of_lt (by omega)
  have second : b % n = b := Nat.mod_eq_of_lt (by omega)
  apply BitVec.eq_of_getLsbD_eq
  intro i low
  rw [BitVec.getLsbD_rotateRight, second]
  -- a bit comes from the places above it, or from the lowest ones
  by_cases above : i < n - b
  · have high : ¬b + i < n - a := by omega
    have place : b + i - (n - a) = i := by omega
    have inside : b + i < n := by omega
    simp [BitVec.getLsbD_rotateRight, first, above, high, place, inside, low]
  · have below : i - (n - b) < n - a := by omega
    have place : a + (i - (n - b)) = i := by omega
    simp [BitVec.getLsbD_rotateRight, first, above, below, place, low]

/-- A word turned right by the other 19 bits. -/
def turnBack13 (w : UInt32) : UInt32 := (w >>> 19) ||| (w <<< 13)

theorem turnBack13_turn13 (w : UInt32) : turnBack13 (turn13 w) = w := by
  apply UInt32.eq_of_toBitVec_eq
  exact rotateRight_rotateRight (a := 13) (b := 19) (by omega) (by omega) rfl w.toBitVec

theorem turn13_turnBack13 (w : UInt32) : turn13 (turnBack13 w) = w := by
  apply UInt32.eq_of_toBitVec_eq
  exact rotateRight_rotateRight (a := 19) (b := 13) (by omega) (by omega) rfl w.toBitVec

/-- The series one step back: the factor is the inverse of that of a step. -/
def previous (s : Series) : Series := ⟨(turnBack13 s.seed - 9439) * 2178858849⟩

theorem previous_next (s : Series) : s.next.previous = s := by
  have inverse : (9377 * 2178858849 : UInt32) = 1 := by decide
  show (⟨(turnBack13 (turn13 (s.seed * 9377 + 9439)) - 9439) * 2178858849⟩ : Series) = s
  rw [turnBack13_turn13, UInt32.add_sub_cancel, UInt32.mul_assoc, inverse, UInt32.mul_one]

theorem next_previous (s : Series) : s.previous.next = s := by
  have inverse : (2178858849 * 9377 : UInt32) = 1 := by decide
  show (⟨turn13 ((turnBack13 s.seed - 9439) * 2178858849 * 9377 + 9439)⟩ : Series) = s
  rw [UInt32.mul_assoc, inverse, UInt32.mul_one, UInt32.sub_add_cancel, turn13_turnBack13]

/-- The step of a series, which goes both ways. -/
def step : Series ≃ Series := ⟨next, previous, previous_next, next_previous⟩

/-! ## How even rolls are -/

/-- Series by the numbers that their words are. -/
def numbered : Series ≃ {n : Nat // n < 2 ^ 32} where
  toFun s := ⟨s.seed.toNat, s.seed.toNat_lt⟩
  invFun n := ⟨UInt32.ofNat n⟩
  left_inv s := by simp
  right_inv n := Subtype.ext (UInt32.toNat_ofNat_of_lt' n.2)

open scoped Count in
/-- How many words leave a rest: rests that the last, partial round of them reaches come up once
    more than the others. -/
theorem card_rest {width k : Nat} (below : k < width) :
    Nat.card {s : Series // s.seed.toNat % width = k} =
      2 ^ 32 / width + if k < 2 ^ 32 % width then 1 else 0 := by
  have count := Nat.count_modEq_card (2 ^ 32) (by omega : 0 < width) k
  rw [Nat.count_eq_card_fintype, Nat.mod_eq_of_lt below, ← Nat.card_eq_fintype_card] at count
  rw [← count]
  refine Nat.card_congr ((numbered.subtypeEquiv fun s => ?_).trans
    (Equiv.subtypeSubtypeEquivSubtypeInter (· < 2 ^ 32) (· ≡ k [MOD width])))
  rw [Nat.ModEq, Nat.mod_eq_of_lt below]
  exact Iff.rfl

/-- How many words roll a number: as many as leave it as a rest, because each word comes of one. -/
theorem card_roll {width k : Nat} (below : k < width) :
    Nat.card {s : Series // (s.roll width).1 = k} =
      2 ^ 32 / width + if k < 2 ^ 32 % width then 1 else 0 := by
  rw [← card_rest below]
  refine Nat.card_congr (step.subtypeEquiv fun s => ?_)
  rw [s.roll_of_pos (by omega)]
  exact Iff.rfl

theorem exists_roll {width k : Nat} (below : k < width) (narrow : width ≤ Dice.widest) :
    ∃ s : Series, (s.roll width).1 = k := by
  have widest : Dice.widest = 4294967295 := rfl
  have words : UInt32.size = 4294967296 := rfl
  have word : (UInt32.ofNat k).toNat = k := UInt32.toNat_ofNat_of_lt' (by omega)
  refine ⟨previous ⟨UInt32.ofNat k⟩, ?_⟩
  rw [roll_of_pos _ (by omega), next_previous, word]
  exact Nat.mod_eq_of_lt below

theorem ceilDiv_of_rest {n width : Nat} (some : 0 < width) (rest : 0 < n % width) :
    n ⌈/⌉ width = n / width + 1 := by
  have parts := Nat.div_add_mod n width
  have below := Nat.mod_lt n some
  rw [Nat.ceilDiv_eq_add_pred_div]
  apply Nat.div_eq_of_lt_le
  · rw [Nat.succ_mul, Nat.mul_comm]
    omega
  · rw [Nat.succ_mul, Nat.succ_mul, Nat.mul_comm]
    omega

/-- **Even rolls.** Whatever the width, if it is not 0, the step of a roll is a permutation of the
    words. Hence the words that roll a number below the width are as many as all words divided by
    the width, rounded up for the first numbers and down for the rest of them. And a roll between
    two bounds that are not too far apart comes out at every number there, for some word. -/
theorem rolls_even :
    (∀ width, 0 < width → Function.Bijective fun s : Series => (s.roll width).2) ∧
    (∀ width k, k < width → Nat.card {s : Series // (s.roll width).1 = k} =
      if k < 2 ^ 32 % width then 2 ^ 32 ⌈/⌉ width else 2 ^ 32 / width) ∧
    ∀ lo hi v : Int, hi - lo + 1 ≤ Dice.widest → lo ≤ v → v ≤ hi →
      ∀ display, ∃ action, ((⟨action, display⟩ : Dice).between lo hi).value = v := by
  refine ⟨fun width some => ?_, fun width k below => ?_, fun lo hi v narrow low high display => ?_⟩
  · have steps : (fun s : Series => (s.roll width).2) = step :=
      funext fun s => congrArg Prod.snd (s.roll_of_pos some)
    rw [steps]
    exact step.bijective
  · rw [card_roll below]
    split
    · rename_i rest
      exact (ceilDiv_of_rest (by omega) (by omega)).symm
    · rfl
  · have width : ((hi - lo + 1).toNat : Int) = hi - lo + 1 := by omega
    have below : (v - lo).toNat < (hi - lo + 1).toNat := by omega
    obtain ⟨action, rolls⟩ := exists_roll below (by omega)
    refine ⟨action, ?_⟩
    have ordered : ¬hi < lo := by omega
    simp only [Dice.between, ordered, if_false, narrow, if_true, Dice.rollAction, rolls]
    omega

/-- Three does not divide the number of words, so that 0 comes up once more than 1. -/
theorem rolls_even_three :
    Nat.card {s : Series // (s.roll 3).1 = 0} = 1431655766 ∧
      Nat.card {s : Series // (s.roll 3).1 = 1} = 1431655765 ∧
      Function.Bijective (fun s : Series => (s.roll 3).2) ∧
      ∃ action, ((⟨action, ⟨0⟩⟩ : Dice).between (-3) 3).value = 3 := by
  obtain ⟨permutes, counts, reaches⟩ := rolls_even
  refine ⟨(counts 3 0 (by decide)).trans (by decide), (counts 3 1 (by decide)).trans (by decide),
    permutes 3 (by decide), reaches (-3) 3 3 (by decide) (by decide) (by decide) ⟨0⟩⟩

end Series

end DungeonScript

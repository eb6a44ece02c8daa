import DungeonScript.Proofs.Dice
import DungeonScript.Proofs.Rolls
import DungeonScript.Proofs.ScriptLine.Written

/-!
What a roll gives. `RANDOM` is followed by two bounds, each an optional sign and decimal digits
wherever they begin. A bound without digits is 0 and one with too many is the greatest number there
is, with a remark (`SpelledBound`), so that no bound is the least number and each can be negated.
The roll lies between its bounds, at whatever distance they are, or is the first of them if they are
the wrong way round (`Dice.between_of_le`, `Dice.between_of_lt`). Hence the number that takes the
place of `RANDOM` is never the least one either, and is read back as what it is
(`Cursor.next_of_rolls`).
-/

namespace DungeonScript

theorem head?_dropWhile (p : Char → Bool) (cs : List Char) :
    ∀ c ∈ (cs.dropWhile p).head?, p c = false := by
  have stopped := List.head?_dropWhile_not p cs
  intro c first
  rw [Option.mem_def.1 first] at stopped
  exact stopped

/-! ## Bounds -/

/-- A bound as a line spells it. -/
structure SpelledBound where
  /-- What is passed over before it. -/
  before : List Char
  negative : Bool
  digits : List Char
  passed : ∀ c ∈ before, Bound.starts c = false
  decimal : ∀ c ∈ digits, c.isDigit = true
  present : negative = true ∨ digits ≠ []

namespace SpelledBound

variable (b : SpelledBound)

def chars : List Char := b.before ++ (if b.negative then ['-'] else []) ++ b.digits

/-- The value of the digits, 0 if there are none, and no more than the greatest number. -/
def magnitude : Int := min (Numeral.valueOf 10 b.digits) greatestNumber

def value : Int := if b.negative then -b.magnitude else b.magnitude

/-- The remark on a bound that has no digits, or too many. -/
def odd (second : Bool) : Option OddBound :=
  if b.digits ≠ [] ∧ (Numeral.valueOf 10 b.digits : Int) ≤ greatestNumber then none
  else some ⟨second, b.negative, String.ofList b.digits, b.value⟩

theorem value_bounds : leastNumber < b.value ∧ b.value ≤ greatestNumber := by
  have magnitude : 0 ≤ b.magnitude ∧ b.magnitude ≤ greatestNumber :=
    ⟨Int.le_min.2 ⟨Int.natCast_nonneg _, by decide⟩, Int.min_le_right _ _⟩
  have greatest : greatestNumber = 9223372036854775807 := rfl
  have least : leastNumber = -9223372036854775808 := rfl
  unfold value
  split <;> omega

/-- The digits are those of a number of 64 bits. -/
def fits : Bool :=
  !b.digits.isEmpty && decide ((Numeral.valueOf 10 b.digits : Int) ≤ greatestNumber)

theorem fits_iff : b.fits = true ↔
    b.digits ≠ [] ∧ (Numeral.valueOf 10 b.digits : Int) ≤ greatestNumber := by
  simp only [fits, Bool.and_eq_true, Bool.not_eq_true', List.isEmpty_eq_false_iff,
    decide_eq_true_eq]

/-- What digits are taken for: themselves if they fit, else 0 or the greatest number. -/
theorem magnitude_eq : b.magnitude =
    if b.fits then (Numeral.valueOf 10 b.digits : Int)
    else if b.digits.isEmpty then 0 else greatestNumber := by
  unfold magnitude
  split
  · rename_i fine
    exact Int.min_eq_left (b.fits_iff.1 fine).2
  · rename_i unfit
    split
    · rename_i empty
      rw [List.isEmpty_iff.1 empty]
      rfl
    · rename_i some
      have great : ¬(Numeral.valueOf 10 b.digits : Int) ≤ greatestNumber := fun small =>
        unfit (b.fits_iff.2 ⟨fun empty => some (List.isEmpty_iff.2 empty), small⟩)
      exact Int.min_eq_right (Int.le_of_lt (Int.not_le.1 great))

/-- The digits of a bound are read as what they are worth. -/
theorem ofDigits_eq (second : Bool) (rest : List Char) :
    Bound.ofDigits second b.negative b.digits rest = ⟨b.value, b.odd second, rest⟩ := by
  unfold odd value
  rw [magnitude_eq]
  simp only [← fits_iff]
  rfl

end SpelledBound

/-- A bound that is read from a text is the one that is spelled at its start. -/
structure Bound.Spelled (second : Bool) (cs : List Char) (b : Bound) (s : SpelledBound) : Prop where
  whole : cs = s.chars ++ b.rest
  ends : ∀ c ∈ b.rest.head?, c.isDigit = false
  value : b.value = s.value
  odd : b.odd = s.odd second

/-- Digits after a sign, or after none, are a bound as long as either is there. -/
theorem Bound.spelled_ofDigits {second negative : Bool} {cs more : List Char}
    (here : cs.dropWhile (!starts ·) = (if negative then ['-'] else []) ++ more)
    (present : negative = true ∨ more.takeWhile Char.isDigit ≠ []) :
    ∃ s, Spelled second cs
      (ofDigits second negative (more.takeWhile Char.isDigit) (more.dropWhile Char.isDigit)) s := by
  have whole : cs.takeWhile (!starts ·) ++ cs.dropWhile (!starts ·) = cs :=
    List.takeWhile_append_dropWhile
  let s : SpelledBound :=
    { before := cs.takeWhile (!starts ·)
      negative
      digits := more.takeWhile Char.isDigit
      passed := fun c member => by simpa using List.mem_takeWhile_imp member
      decimal := fun c => List.mem_takeWhile_imp
      present }
  have read := s.ofDigits_eq second (more.dropWhile Char.isDigit)
  refine ⟨s, ?_, head?_dropWhile Char.isDigit more, congrArg Bound.value read,
    congrArg Bound.odd read⟩
  rw [here] at whole
  show cs = (s.before ++ (if negative then ['-'] else []) ++ more.takeWhile Char.isDigit) ++
    more.dropWhile Char.isDigit
  rw [List.append_assoc, List.takeWhile_append_dropWhile, List.append_assoc]
  exact whole.symm

theorem Bound.spelled_of_read? {second : Bool} {cs : List Char} {b : Bound}
    (h : read? second cs = some b) : ∃ s, Spelled second cs b s := by
  have stopped := head?_dropWhile (!starts ·) cs
  unfold read? at h
  split at h
  · cases h
  · rename_i more here
    obtain rfl := Option.some.inj h
    exact spelled_ofDigits here (.inl rfl)
  · rename_i nonempty unsigned
    obtain rfl := Option.some.inj h
    have bare : cs.dropWhile (!starts ·) =
        (if false then ['-'] else []) ++ cs.dropWhile (!starts ·) := rfl
    refine spelled_ofDigits bare (.inr ?_)
    cases here : cs.dropWhile (!starts ·) with
    | nil => exact absurd here nonempty
    | cons c more =>
      have begins : starts c = true := by
        rw [here] at stopped
        simpa using stopped c rfl
      have sign : c ≠ '-' := fun minus => unsigned more (minus ▸ here)
      have digit : c.isDigit = true := by
        simpa only [starts, sign, decide_false, Bool.or_false] using begins
      rw [List.takeWhile_cons_of_pos digit]
      exact List.cons_ne_nil _ _

/-! ## Rolls -/

/-- A roll as a line spells it: `RANDOM` in any case, and two bounds. -/
structure SpelledRoll where
  /-- What is passed over before it. -/
  before : List Char
  name : List Char
  lo : SpelledBound
  hi : SpelledBound
  passed : ∀ c ∈ before, Word.starts c = false
  random : name.map Char.toUpper = "RANDOM".toList
  /-- The name ends before the first bound. -/
  named : ∀ c ∈ lo.chars.head?, Word.continuesName c = false
  /-- The first bound ends before the second. -/
  apart : ∀ c ∈ hi.chars.head?, c.isDigit = false

namespace SpelledRoll

def chars (r : SpelledRoll) : List Char := r.before ++ r.name ++ r.lo.chars ++ r.hi.chars

def rolled (r : SpelledRoll) (d : Dice) : Dice.Rolled := d.between r.lo.value r.hi.value

def odd (r : SpelledRoll) : List OddBound := (r.lo.odd false).toList ++ (r.hi.odd true).toList

theorem rolled_bounds (r : SpelledRoll) (d : Dice) :
    leastNumber < (r.rolled d).value ∧ (r.rolled d).value ≤ greatestNumber := by
  have lo := r.lo.value_bounds
  have hi := r.hi.value_bounds
  rcases Int.lt_or_le r.hi.value r.lo.value with reversed | ordered
  · have value : (r.rolled d).value = r.lo.value := (d.between_of_lt reversed).1
    rw [value]
    exact lo
  · have inside := d.between_of_le ordered
    exact ⟨Int.lt_of_lt_of_le lo.1 inside.1, Int.le_trans inside.2.1 hi.2⟩

end SpelledRoll

theorem SpelledBound.chars_ne_nil (b : SpelledBound) : b.chars ≠ [] := by
  intro nothing
  obtain ⟨⟨_, sign⟩, digits⟩ : (b.before = [] ∧ (if b.negative then ['-'] else []) = []) ∧
      b.digits = [] := by
    simpa only [chars, List.append_eq_nil_iff] using nothing
  rcases b.present with negative | some
  · rw [negative] at sign
    cases sign
  · exact some digits

theorem SpelledBound.head?_chars (b : SpelledBound) (more : List Char) :
    (b.chars ++ more).head? = b.chars.head? :=
  List.head?_append_of_ne_nil _ b.chars_ne_nil

/-- Two bounds that are read are spelled, one after the other. -/
theorem Lexeme.spelled_of_random {cs : List Char} {d : Dice} {w : Word}
    (found : (random cs d).word = .ok w) :
    ∃ lo hi : SpelledBound, cs = lo.chars ++ (hi.chars ++ (random cs d).rest) ∧
      (∀ x ∈ hi.chars.head?, x.isDigit = false) ∧
      (∀ x ∈ (random cs d).rest.head?, x.isDigit = false) ∧
      w = .ofRoll (d.between lo.value hi.value).value ∧
      (random cs d).dice = (d.between lo.value hi.value).dice ∧
      (random cs d).odd = (lo.odd false).toList ++ (hi.odd true).toList := by
  unfold random at found ⊢
  cases first : Bound.read? false cs with
  | none =>
    rw [first] at found
    cases found
  | some lo =>
    simp only [first] at found ⊢
    cases second : Bound.read? true lo.rest with
    | none =>
      rw [second] at found
      cases found
    | some hi =>
      simp only [second] at found ⊢
      obtain ⟨lower, low⟩ := Bound.spelled_of_read? first
      obtain ⟨upper, high⟩ := Bound.spelled_of_read? second
      have apart := low.ends
      rw [high.whole, upper.head?_chars] at apart
      rw [low.value, high.value] at found ⊢
      refine ⟨lower, upper, ?_, apart, high.ends, (Except.ok.inj found).symm, rfl, ?_⟩
      · rw [← high.whole]
        exact low.whole
      · rw [low.odd, high.odd]

/-- A word that stands for `RANDOM` is a roll that is spelled there. -/
theorem Cursor.spelled_of_rolls {c : Cursor} {dice : Dice} {w : Word} (rolls : c.rolls = true)
    (found : (c.next dice).word = .ok (some w)) :
    ∃ r : SpelledRoll, c.rest = r.chars ++ (c.next dice).cursor.rest ∧
      (∀ x ∈ (c.next dice).cursor.rest.head?, x.isDigit = false) ∧
      w = .ofRoll (r.rolled dice).value ∧ (c.next dice).dice = (r.rolled dice).dice ∧
      (c.next dice).odd = r.odd := by
  have skipped : c.rest.takeWhile (!Word.starts ·) ++ c.rest.dropWhile (!Word.starts ·) = c.rest :=
    List.takeWhile_append_dropWhile
  unfold Cursor.rolls at rolls
  unfold next at found ⊢
  cases here : c.rest.dropWhile (!Word.starts ·) with
  | nil =>
    rw [here] at rolls
    cases rolls
  | cons first more =>
    simp only [here] at rolls found ⊢
    rw [Lexeme.read_of_rolls rolls] at found ⊢
    have named := head?_dropWhile Word.continuesName (first :: more)
    have name : (first :: more).takeWhile Word.continuesName ++
        (first :: more).dropWhile Word.continuesName = first :: more :=
      List.takeWhile_append_dropWhile
    generalize (first :: more).dropWhile Word.continuesName = cs at found named name ⊢
    cases word : (Lexeme.random cs dice).word with
    | error f =>
      rw [word] at found
      cases found
    | ok w' =>
      rw [word] at found
      obtain rfl : w' = w := Option.some.inj (Except.ok.inj found)
      obtain ⟨lo, hi, whole, apart, ends, roll, moved, odd⟩ := Lexeme.spelled_of_random word
      simp only [Lexeme.rolls, Bool.and_eq_true, beq_iff_eq] at rolls
      let r : SpelledRoll :=
        { before := c.rest.takeWhile (!Word.starts ·)
          name := (first :: more).takeWhile Word.continuesName
          lo
          hi
          passed := fun c member => by simpa using List.mem_takeWhile_imp member
          random := rolls.2
          named := by
            rw [whole, lo.head?_chars] at named
            exact named
          apart }
      refine ⟨r, ?_, ends, roll, moved, odd⟩
      rw [here, ← name, whole] at skipped
      show c.rest = (r.before ++ r.name ++ lo.chars ++ hi.chars) ++ _
      simp only [List.append_assoc]
      exact skipped.symm

/-- **What a roll gives.** Where the next word of a line is `RANDOM` and a word is found, two bounds
    are spelled. The word is a number, and all of it is read back as what was rolled: a number
    between the bounds, after one step of the dice, or the first bound, without a step, if they are
    the wrong way round. Nothing on the way there and back is beyond the range of numbers. -/
theorem Cursor.next_of_rolls {c : Cursor} {dice : Dice} {w : Word} (rolls : c.rolls = true)
    (found : (c.next dice).word = .ok (some w)) :
    ∃ r : SpelledRoll, c.rest = r.chars ++ (c.next dice).cursor.rest ∧
      (∀ x ∈ (c.next dice).cursor.rest.head?, x.isDigit = false) ∧
      (c.next dice).odd = r.odd ∧ w.kind = .number ∧
      (∃ v, Numeral.read w.text = ⟨v, true⟩ ∧ Machine.numeral w.text = .ok ⟨v, true⟩ ∧
        (r.lo.value ≤ r.hi.value → r.lo.value ≤ v ∧ v ≤ r.hi.value ∧
          (c.next dice).dice = { dice with action := dice.action.next }) ∧
        (r.hi.value < r.lo.value → v = r.lo.value ∧ (c.next dice).dice = dice)) ∧
      Machine.nextWord c dice = .ok (c.next dice) := by
  obtain ⟨r, spelled, ends, rfl, rolled, odd⟩ := spelled_of_rolls rolls found
  refine ⟨r, spelled, ends, odd, rfl, ?_, Machine.nextWord_eq c dice⟩
  have back : Numeral.read (Word.ofRoll (r.rolled dice).value).text =
      ⟨(r.rolled dice).value, true⟩ := Numeral.read_toString (r.rolled_bounds dice).1
    (r.rolled_bounds dice).2
  refine ⟨(r.rolled dice).value, back, (Machine.numeral_eq _).trans (congrArg _ back), ?_, ?_⟩
  · rw [rolled]
    exact dice.between_of_le
  · rw [rolled]
    exact dice.between_of_lt

/-- A roll from a negative bound to one with too many digits, in mixed case and after a
    parenthesis. -/
theorem Cursor.next_of_rolls_wide :
    let c := ofLine "(Random(-1,99999999999999999999)".toList
    let s := c.next default
    c.rolls = true ∧ s.word = .ok (some ⟨.number, "653787136"⟩) ∧
      ∃ r : SpelledRoll, c.rest = r.chars ++ [')'] ∧ s.odd = r.odd ∧
        ∃ v, Numeral.read "653787136" = ⟨v, true⟩ ∧
          (r.lo.value ≤ r.hi.value → r.lo.value ≤ v ∧ v ≤ r.hi.value) := by
  intro c s
  have rolls : c.rolls = true := by decide +kernel
  have found : s.word = .ok (some ⟨.number, "653787136"⟩) := by decide +kernel
  have left : s.cursor.rest = [')'] := by decide +kernel
  obtain ⟨r, spelled, _, odd, _, ⟨v, read, _, ordered, _⟩, _⟩ := next_of_rolls rolls found
  refine ⟨rolls, found, r, ?_, odd, v, read, fun h => ⟨(ordered h).1, (ordered h).2.1⟩⟩
  rw [← left]
  exact spelled

end DungeonScript

import DungeonScript.Game.Loading
import DungeonScript.Measure
import DungeonScript.Proofs.Grammar
import DungeonScript.Proofs.Numerals
import DungeonScript.Text.Ascii
import Mathlib.Data.List.Basic
import Mathlib.Data.List.TakeWhile

/-!
Lines as they are written: a keyword, an opening parenthesis, the arguments with commas
between them, a closing parenthesis. What such a line is written from is what it is read
as (`read_written`): the keyword's entry of the grammar, the words as they are spelled, the
numbers with their values. Nothing is rolled, nothing is remarked on, and what follows the
closing parenthesis is not looked at.

A word ends where a character stands that cannot continue it, so every lemma about a word
has the separator after it in its statement.
-/

namespace DungeonScript

/-! ## Numbers in decimal -/

namespace Numeral

theorem digitValue_of_isDigit {c : Char} (digit : c.isDigit = true) :
    digitValue c = c.toNat - '0'.toNat := by
  rw [digitValue, if_pos digit]

theorem valueOf_eq_ofDigitChars {cs : List Char} (digits : ∀ c ∈ cs, c.isDigit = true) :
    valueOf 10 cs = Nat.ofDigitChars 10 cs 0 := by
  rw [Nat.ofDigitChars_eq_foldl, valueOf]
  refine List.foldl_ext _ _ 0 fun v c member => ?_
  rw [digitValue_of_isDigit (digits c member), Nat.mul_comm]

theorem isDigit_of_mem_toDigits {n : Nat} : ∀ c ∈ Nat.toDigits 10 n, c.isDigit = true := fun _ =>
  Nat.isDigit_of_mem_toDigits (by decide) (by decide)

theorem valueOf_toDigits (n : Nat) : valueOf 10 (Nat.toDigits 10 n) = n := by
  rw [valueOf_eq_ofDigitChars isDigit_of_mem_toDigits, Nat.ofDigitChars_ten_toDigits]

theorem eq_zero_of_toDigits {n : Nat} {cs : List Char} (zero : Nat.toDigits 10 n = '0' :: cs) :
    n = 0 := by
  induction n using Nat.strongRecOn generalizing cs with
  | ind n ih =>
    by_cases small : n < 10
    · rw [Nat.toDigits_of_lt_base small] at zero
      exact Nat.digitChar_eq_zero.1 (List.cons.inj zero).1
    · rw [Nat.toDigits_of_base_le (by decide) (by omega)] at zero
      cases leading : Nat.toDigits 10 (n / 10) with
      | nil => exact absurd leading Nat.toDigits_ne_nil
      | cons d ds =>
        rw [leading, List.cons_append, List.cons.injEq] at zero
        have := ih (n / 10) (by omega) (zero.1 ▸ leading)
        omega

theorem magnitude_toDigits (n : Nat) : Magnitude (Nat.toDigits 10 n) n := by
  by_cases zero : n = 0
  · subst zero
    exact .octal (List.forall_mem_nil _)
  · have digits := isDigit_of_mem_toDigits (n := n)
    have value := valueOf_toDigits n
    cases written : Nat.toDigits 10 n with
    | nil => exact absurd written Nat.toDigits_ne_nil
    | cons first more =>
      rw [written] at digits value
      have significant : first ≠ '0' := by
        rintro rfl
        exact zero (eq_zero_of_toDigits written)
      have decimal := Magnitude.decimal significant digits
      rwa [value] at decimal

theorem toList_toString_of_nonneg {v : Int} (h : 0 ≤ v) :
    (toString v).toList = Nat.toDigits 10 v.toNat := by
  rw [Int.toString_eq_repr, Int.repr_eq_if, if_pos h, Nat.toList_repr]

theorem toList_toString_of_neg {v : Int} (h : v < 0) :
    (toString v).toList = '-' :: Nat.toDigits 10 (-v).toNat := by
  rw [Int.toString_eq_repr, Int.repr_eq_if, if_neg (by omega), String.toList_append,
    Nat.toList_repr]
  rfl

/-- A number that is written in decimal is read as itself. The least number is not: its
    magnitude has a bit too many. -/
theorem read_toString {v : Int} (least : leastNumber < v) (greatest : v ≤ greatestNumber) :
    read (toString v) = ⟨v, true⟩ := by
  unfold leastNumber at least
  unfold greatestNumber at greatest
  refine read_of_spells ?_ (by unfold greatestNumber; omega)
  rcases Int.lt_or_le v 0 with negative | positive
  · have number := Spells.of (List.forall_mem_nil _) .minus (magnitude_toDigits (-v).toNat)
    rw [toList_toString_of_neg negative]
    rwa [withSign, if_pos rfl, show -(((-v).toNat : Nat) : Int) = v by omega] at number
  · have number := Spells.of (List.forall_mem_nil _) .missing (magnitude_toDigits v.toNat)
    rw [toList_toString_of_nonneg positive]
    rwa [withSign, if_neg Bool.false_ne_true, Int.toNat_of_nonneg positive] at number

end Numeral

/-! ## Words -/

namespace Word

/-- A capital letter, a digit or an underscore. -/
def isNameCharacter (c : Char) : Bool := c.isUpper || c.isDigit || c = '_'

def isSeparator (c : Char) : Bool := c = '(' || c = ',' || c = ')'

end Word

theorem forall_mem_of_all {cs : List Char} {p : Char → Bool} {b : Bool}
    (h : cs.all (p · == b) = true) : ∀ c ∈ cs, p c = b :=
  fun c member => eq_of_beq (List.all_eq_true.1 h c member)

/-- A name in capitals that is not `RANDOM`. -/
structure Identifier where
  first : Char
  more : List Char
  capital : first.isUpper = true
  continued : ∀ c ∈ more, Word.isNameCharacter c = true
  notRandom : first :: more ≠ "RANDOM".toList

/-- Digits, perhaps after a minus sign. -/
structure DecimalNumeral where
  negative : Bool
  digits : List Char
  nonempty : digits ≠ []
  decimal : ∀ c ∈ digits, c.isDigit = true

/-- A text that can stand in quotes. -/
structure Quotation where
  inside : List Char
  nonempty : inside ≠ []
  unquoted : ∀ c ∈ inside, c ≠ '"'
  oneLine : ∀ c ∈ inside, Word.isLineEnd c = false

def Identifier.chars (i : Identifier) : List Char := i.first :: i.more

def DecimalNumeral.chars (d : DecimalNumeral) : List Char :=
  if d.negative then '-' :: d.digits else d.digits

/-- A word as an author writes it. -/
inductive WrittenWord where
  | name (i : Identifier)
  | comparison (c : Comparison)
  | numeral (d : DecimalNumeral)
  | quotation (q : Quotation)

namespace WrittenWord

def word : WrittenWord → Word
  | name i => ⟨.name, String.ofList i.chars⟩
  | comparison c => ⟨.operator, Vocabulary.keyword c⟩
  | numeral d => ⟨.number, String.ofList d.chars⟩
  | quotation q => ⟨.text, String.ofList q.inside⟩

/-- The word in the line: a quotation stands in quotes. -/
def spelled : WrittenWord → List Char
  | quotation q => '"' :: q.inside ++ ['"']
  | w => w.word.text.toList

end WrittenWord

/-! ### Separators -/

namespace Word

theorem eq_of_isSeparator {c : Char} (h : isSeparator c = true) : c = '(' ∨ c = ',' ∨ c = ')' := by
  simpa only [isSeparator, Bool.or_eq_true, decide_eq_true_eq, or_assoc] using h

theorem starts_of_isSeparator {c : Char} (h : isSeparator c = true) : starts c = false := by
  rcases eq_of_isSeparator h with rfl | rfl | rfl <;> decide

theorem continuesName_of_isSeparator {c : Char} (h : isSeparator c = true) :
    continuesName c = false := by
  rcases eq_of_isSeparator h with rfl | rfl | rfl <;> decide

theorem isDigit_of_isSeparator {c : Char} (h : isSeparator c = true) : c.isDigit = false := by
  rcases eq_of_isSeparator h with rfl | rfl | rfl <;> decide

/-! ### Characters of names -/

theorem isLower_of_isNameCharacter {c : Char} (h : isNameCharacter c = true) :
    c.isLower = false := by
  simp only [isNameCharacter, Bool.or_eq_true, decide_eq_true_eq] at h
  rcases h with (upper | digit) | rfl
  · exact isLower_of_isUpper upper
  · exact isLower_of_isDigit digit
  · decide

theorem continuesName_of_isNameCharacter {c : Char} (h : isNameCharacter c = true) :
    continuesName c = true := by
  simp only [isNameCharacter, continuesName, Char.isAlphanum, isAlpha_eq, Bool.or_eq_true] at *
  tauto

theorem isLineEnd_of_continuesName {c : Char} (h : continuesName c = true) :
    isLineEnd c = false := by
  cases ends : isLineEnd c with
  | false => rfl
  | true =>
    simp only [isLineEnd, Bool.or_eq_true, decide_eq_true_eq] at ends
    rcases ends with (rfl | rfl) | rfl <;> exact absurd h (by decide)

end Word

namespace Identifier

variable (i : Identifier)

theorem isNameCharacter_of_mem : ∀ c ∈ i.chars, Word.isNameCharacter c = true := by
  intro c member
  rcases List.mem_cons.1 member with rfl | member
  · simp [Word.isNameCharacter, i.capital]
  · exact i.continued c member

theorem isAlpha_first : i.first.isAlpha = true := by
  simp [isAlpha_eq, i.capital]

end Identifier

/-! ### One word read -/

section Read

variable {sep : Char} (rest : List Char) (dice : Dice)

/-- A word and what follows it, where a character follows that cannot continue it. -/
theorem takeWhile_dropWhile_of_ends {p : Char → Bool} {word : List Char}
    (continued : ∀ c ∈ word, p c = true) (ends : p sep = false) :
    (word ++ sep :: rest).takeWhile p = word ∧ (word ++ sep :: rest).dropWhile p = sep :: rest :=
  takeWhile_dropWhile_of_stops continued fun _ next => Option.some.inj next ▸ ends

theorem Identifier.read (i : Identifier) (ends : Word.isSeparator sep = true) :
    Lexeme.read i.first (i.more ++ sep :: rest) dice =
      .plain (.ok ⟨.name, String.ofList i.chars⟩) (sep :: rest) dice := by
  have continued : ∀ c ∈ i.chars, Word.continuesName c = true := fun c member =>
    Word.continuesName_of_isNameCharacter (i.isNameCharacter_of_mem c member)
  have upper : i.chars.map Char.toUpper = i.chars :=
    map_toUpper_eq_self fun c member =>
      Word.isLower_of_isNameCharacter (i.isNameCharacter_of_mem c member)
  obtain ⟨taken, left⟩ :=
    takeWhile_dropWhile_of_ends rest continued (Word.continuesName_of_isSeparator ends)
  rw [Lexeme.read, if_pos i.isAlpha_first, ← List.cons_append, ← chars, Lexeme.name]
  simp only [taken, left, upper]
  exact if_neg i.notRandom

/-- The digits of a numeral, after its sign. -/
theorem DecimalNumeral.read_digits (d : DecimalNumeral) (ends : Word.isSeparator sep = true)
    (sign : List Char) : Lexeme.number sign (d.digits ++ sep :: rest) dice =
      .plain (.ok ⟨.number, String.ofList (sign ++ d.digits)⟩) (sep :: rest) dice := by
  obtain ⟨taken, left⟩ :=
    takeWhile_dropWhile_of_ends rest d.decimal (Word.isDigit_of_isSeparator ends)
  simp only [Lexeme.number, taken, left]
  exact if_neg (by simp [d.nonempty])

theorem DecimalNumeral.read (d : DecimalNumeral) (ends : Word.isSeparator sep = true) :
    ∃ first more, d.chars = first :: more ∧ Word.starts first = true ∧
      Lexeme.read first (more ++ sep :: rest) dice =
        .plain (.ok ⟨.number, String.ofList d.chars⟩) (sep :: rest) dice := by
  have number := d.read_digits rest dice ends
  unfold chars
  split
  · exact ⟨'-', d.digits, rfl, by decide, number ['-']⟩
  · cases digits : d.digits with
    | nil => exact absurd digits d.nonempty
    | cons first more =>
      have digit : first.isDigit = true := d.decimal first (by simp [digits])
      have noLetter : first.isAlpha = false := isAlpha_of_isDigit digit
      refine ⟨first, more, rfl, by simp [Word.starts, Char.isAlphanum, digit], ?_⟩
      rw [Lexeme.read, if_neg (by simp [noLetter]), if_pos digit, ← List.cons_append, ← digits]
      exact number []

theorem Quotation.read (q : Quotation) :
    Lexeme.read '"' (q.inside ++ '"' :: rest) dice =
      .plain (.ok ⟨.text, String.ofList q.inside⟩) rest dice := by
  have unquoted : ∀ c ∈ q.inside, (c != '"') = true := fun c member => by
    simp [q.unquoted c member]
  have ends : ('"' != '"') = false := rfl
  obtain ⟨taken, left⟩ := takeWhile_dropWhile_of_ends rest unquoted ends
  show Lexeme.text _ dice = _
  rw [Lexeme.text, left, taken]

theorem Comparison.read (c : Comparison) (ends : Word.isSeparator sep = true) :
    ∃ first more, (Vocabulary.keyword c).toList = first :: more ∧ Word.starts first = true ∧
      Lexeme.read first (more ++ sep :: rest) dice =
        .plain (.ok ⟨.operator, Vocabulary.keyword c⟩) (sep :: rest) dice := by
  rcases Word.eq_of_isSeparator ends with rfl | rfl | rfl <;> cases c <;>
    exact ⟨_, _, rfl, by decide, rfl⟩

/-- A word that a separator ends is read as it is meant. -/
theorem WrittenWord.read (w : WrittenWord) (ends : Word.isSeparator sep = true) :
    ∃ first more, w.spelled = first :: more ∧ Word.starts first = true ∧
      Lexeme.read first (more ++ sep :: rest) dice = .plain (.ok w.word) (sep :: rest) dice := by
  cases w with
  | name i =>
    refine ⟨i.first, i.more, by simp [spelled, word, Identifier.chars], ?_, i.read rest dice ends⟩
    simp [Word.starts, Char.isAlphanum, i.isAlpha_first]
  | comparison c => exact c.read rest dice ends
  | numeral d => simpa only [spelled, word, String.toList_ofList] using d.read rest dice ends
  | quotation q =>
    refine ⟨'"', q.inside ++ ['"'], rfl, by decide, ?_⟩
    rw [List.append_assoc]
    exact q.read (sep :: rest) dice

end Read

/-! ## Arguments -/

def DecimalNumeral.ofNumber (v : Int) : DecimalNumeral :=
  ⟨v < 0, Nat.toDigits 10 v.natAbs, Nat.toDigits_ne_nil, Numeral.isDigit_of_mem_toDigits⟩

theorem DecimalNumeral.chars_ofNumber (v : Int) : (ofNumber v).chars = (toString v).toList := by
  rcases Int.lt_or_le v 0 with negative | positive
  · rw [Numeral.toList_toString_of_neg negative, show (-v).toNat = v.natAbs by omega]
    simp [chars, ofNumber, negative]
  · rw [Numeral.toList_toString_of_nonneg positive, show v.toNat = v.natAbs by omega]
    simp [chars, ofNumber, Int.not_lt.2 positive]

/-- An argument as an author writes it: a word, or a number in decimal. -/
inductive WrittenArgument where
  | word (w : WrittenWord)
  | number (value : Int) (least : leastNumber < value) (greatest : value ≤ greatestNumber)

namespace WrittenArgument

def sort : WrittenArgument → Argument
  | word _ => .word
  | number .. => .number

/-- The text of the word in the place of the argument. -/
def text : WrittenArgument → String
  | word w => w.word.text
  | number v .. => toString v

/-- The number in the place of the argument, 0 for a word. -/
def value : WrittenArgument → Int
  | word _ => 0
  | number v .. => v

def spelled : WrittenArgument → List Char
  | word w => w.spelled
  | number v .. => (toString v).toList

def asWord : WrittenArgument → WrittenWord
  | word w => w
  | number v .. => .numeral (.ofNumber v)

variable (a : WrittenArgument)

theorem spelled_asWord : a.asWord.spelled = a.spelled := by
  cases a with
  | word w => rfl
  | number v _ _ =>
    simp [asWord, spelled, WrittenWord.spelled, WrittenWord.word, DecimalNumeral.chars_ofNumber]

theorem text_asWord : a.asWord.word.text = a.text := by
  cases a with
  | word w => rfl
  | number v _ _ =>
    simp [asWord, text, WrittenWord.word, DecimalNumeral.chars_ofNumber]

theorem value_text : a.sort.value a.text = (a.value, []) := by
  cases a with
  | word w => rfl
  | number v least greatest =>
    simp only [sort, text, Argument.value, Numeral.read_toString least greatest]
    rfl

end WrittenArgument

theorem WrittenWord.text_isEmpty (w : WrittenWord) : w.word.text.isEmpty = false := by
  have nonempty : w.word.text.toList ≠ [] := by
    cases w with
    | name i => simp [word, Identifier.chars]
    | comparison c => cases c <;> decide
    | numeral d =>
      simp only [word, String.toList_ofList, DecimalNumeral.chars]
      split <;> simp [d.nonempty]
    | quotation q => simpa [word] using q.nonempty
  rw [← Bool.not_eq_true, String.isEmpty_iff]
  intro empty
  exact nonempty (by simp [empty])

namespace Cursor

variable {sep : Char}

/-- The next word, after what cannot start one. -/
theorem next_spelled {before more rest : List Char} {first : Char} {atEnd : Bool} {w : Word}
    {dice : Dice} (skipped : ∀ c ∈ before, Word.starts c = false) (starts : Word.starts first = true)
    (read : Lexeme.read first more dice = .plain (.ok w) (sep :: rest) dice) :
    next ⟨before ++ first :: more, atEnd⟩ dice =
      ⟨.ok (some w), ⟨sep :: rest, atEnd⟩, dice, [], none⟩ := by
  have word : (before ++ first :: more).dropWhile (!Word.starts ·) = first :: more := by
    rw [List.dropWhile_append_of_pos (by simpa using skipped),
      List.dropWhile_cons_of_neg (by simp [starts])]
  simp only [next, word, read, Lexeme.plain, meetsEnd, Except.map, List.isEmpty_cons, Bool.or_false]

/-- The argument between two separators. -/
theorem next_written (a : WrittenArgument) {lead : Char} (opens : Word.isSeparator lead = true)
    (closes : Word.isSeparator sep = true) (rest : List Char) (atEnd : Bool) (dice : Dice) :
    next ⟨lead :: (a.spelled ++ sep :: rest), atEnd⟩ dice =
      ⟨.ok (some a.asWord.word), ⟨sep :: rest, atEnd⟩, dice, [], none⟩ := by
  obtain ⟨first, more, spelled, starts, read⟩ := a.asWord.read rest dice closes
  rw [← a.spelled_asWord, spelled]
  have skipped : ∀ c ∈ [lead], Word.starts c = false := fun c member =>
    List.mem_singleton.1 member ▸ Word.starts_of_isSeparator opens
  exact next_spelled skipped starts read

end Cursor

/-- Arguments with commas between them and a closing parenthesis after them. -/
def writtenArguments (arguments : List WrittenArgument) : List Char :=
  [','].intercalate (arguments.map WrittenArgument.spelled) ++ [')']

theorem writtenArguments_singleton (a : WrittenArgument) :
    writtenArguments [a] = a.spelled ++ [')'] := by
  simp [writtenArguments]

theorem writtenArguments_cons_cons (a b : WrittenArgument) (rest : List WrittenArgument) :
    writtenArguments (a :: b :: rest) = a.spelled ++ ',' :: writtenArguments (b :: rest) := by
  simp [writtenArguments, List.intercalate_cons_cons]

namespace ScriptLine

variable {lead : Char} (dice : Dice)

/-- One written argument is taken, and the others from its separator on. -/
theorem takeArguments_cons_written (a : WrittenArgument) (others : List Argument) {sep : Char}
    (opens : Word.isSeparator lead = true) (closes : Word.isSeparator sep = true)
    (rest : List Char) :
    let r := takeArguments others ⟨sep :: rest, false⟩ dice
    takeArguments (a.sort :: others) ⟨lead :: (a.spelled ++ sep :: rest), false⟩ dice =
      ⟨r.outcome.map ((a.text, a.value) :: ·), r.dice, r.asides⟩ := by
  have word := Cursor.next_written a opens closes rest false dice
  have nonempty : ¬a.text.isEmpty = true := by
    simp [← a.text_asWord, a.asWord.text_isEmpty]
  simp only [takeArguments, word, Bool.false_eq_true, if_false, a.text_asWord, if_neg nonempty,
    a.value_text]
  rfl

/-- What is taken from a list of arguments, after its opening parenthesis or a comma. -/
theorem takeArguments_written (more : List Char) : ∀ (arguments : List WrittenArgument) (lead : Char),
    Word.isSeparator lead = true →
      takeArguments (arguments.map WrittenArgument.sort)
          ⟨lead :: (writtenArguments arguments ++ more), false⟩ dice =
        ⟨.ok (arguments.map fun a => (a.text, a.value)), dice, []⟩
  | [], _, _ => rfl
  | [a], _, opens => by
    rw [writtenArguments_singleton, List.append_assoc, List.singleton_append, List.map_cons,
      takeArguments_cons_written dice a _ opens rfl]
    rfl
  | a :: b :: rest, _, opens => by
    rw [writtenArguments_cons_cons, List.append_assoc, List.cons_append, List.map_cons,
      takeArguments_cons_written dice a _ opens rfl,
      takeArguments_written more (b :: rest) ',' rfl]
    rfl

end ScriptLine

/-! ## Lines -/

/-- A line of a keyword with its arguments in parentheses. -/
def Usage.written (u : Usage) (arguments : List WrittenArgument) : List Char :=
  u.keyword.toList ++ '(' :: writtenArguments arguments

def Usage.applied (u : Usage) (arguments : List WrittenArgument) : ScriptLine :=
  ⟨u, arguments.map WrittenArgument.text, arguments.map WrittenArgument.value⟩

/-! ### No end within a line -/

theorem DecimalNumeral.isLineEnd_chars (d : DecimalNumeral) :
    ∀ c ∈ d.chars, Word.isLineEnd c = false := by
  have digit : ∀ c ∈ d.digits, Word.isLineEnd c = false := fun c member =>
    Word.isLineEnd_of_continuesName
      (by simp [Word.continuesName, Char.isAlphanum, d.decimal c member])
  unfold chars
  split
  · exact List.forall_mem_cons.2 ⟨by decide, digit⟩
  · exact digit

theorem Identifier.isLineEnd_chars (i : Identifier) : ∀ c ∈ i.chars, Word.isLineEnd c = false :=
  fun c member => Word.isLineEnd_of_continuesName
    (Word.continuesName_of_isNameCharacter (i.isNameCharacter_of_mem c member))

theorem WrittenWord.isLineEnd_spelled (w : WrittenWord) :
    ∀ c ∈ w.spelled, Word.isLineEnd c = false := by
  cases w with
  | name i => simpa [spelled, word] using i.isLineEnd_chars
  | comparison c => exact forall_mem_of_all (by cases c <;> decide)
  | numeral d => simpa [spelled, word] using d.isLineEnd_chars
  | quotation q =>
    intro c member
    simp only [spelled, List.cons_append, List.mem_cons, List.mem_append, List.not_mem_nil,
      or_false] at member
    rcases member with rfl | inside | rfl
    · decide
    · exact q.oneLine c inside
    · decide

theorem WrittenArgument.isLineEnd_spelled (a : WrittenArgument) :
    ∀ c ∈ a.spelled, Word.isLineEnd c = false :=
  a.spelled_asWord ▸ a.asWord.isLineEnd_spelled

theorem isLineEnd_writtenArguments : ∀ arguments : List WrittenArgument,
    ∀ c ∈ writtenArguments arguments, Word.isLineEnd c = false
  | [] => forall_mem_of_all (by decide)
  | [a] => by
    have own := a.isLineEnd_spelled
    intro c member
    rw [writtenArguments_singleton] at member
    rcases List.mem_append.1 member with h | h
    · exact own c h
    · rw [List.mem_singleton.1 h]
      decide
  | a :: b :: rest => by
    have own := a.isLineEnd_spelled
    have later := isLineEnd_writtenArguments (b :: rest)
    intro c member
    rw [writtenArguments_cons_cons] at member
    rcases List.mem_append.1 member with h | h
    · exact own c h
    · rcases List.mem_cons.1 h with rfl | h
      · decide
      · exact later c h

/-! ### The keyword -/

namespace Grammar

/-- Whether the text is a name in capitals that is not `RANDOM`. -/
def isName : List Char → Bool
  | first :: more => first.isUpper && more.all Word.isNameCharacter && first :: more != "RANDOM".toList
  | [] => false

theorem isName_extended : ∀ u ∈ extended, isName u.keyword.toList = true := by decide +kernel

theorem exists_identifier {levelVersion : Int} {u : Usage} (known : u ∈ ofVersion levelVersion) :
    ∃ i : Identifier, i.chars = u.keyword.toList := by
  obtain ⟨v, extended, same⟩ := List.mem_map.1
    ((ofVersion_sublist levelVersion).subset (List.mem_map_of_mem known))
  have name := isName_extended v extended
  rw [same] at name
  cases chars : u.keyword.toList with
  | nil => simp [chars, isName] at name
  | cons first more =>
    simp only [chars, isName, Bool.and_eq_true, List.all_eq_true, bne_iff_ne] at name
    exact ⟨⟨first, more, name.1.1, name.1.2, name.2⟩, rfl⟩

end Grammar

namespace ScriptLine

variable {levelVersion : Int} {u : Usage} (dice : Dice)

/-- A written line ends where what follows its closing parenthesis ends. -/
theorem ofLine_written (known : u ∈ Grammar.ofVersion levelVersion)
    (arguments : List WrittenArgument) (more : List Char) :
    Cursor.ofLine (u.written arguments ++ more) =
      ⟨u.written arguments ++ more.takeWhile (!Word.isLineEnd ·), false⟩ := by
  obtain ⟨i, keyword⟩ := Grammar.exists_identifier known
  have within : ∀ c ∈ u.written arguments, (!Word.isLineEnd c) = true := by
    intro c member
    rw [Bool.not_eq_true']
    rcases List.mem_append.1 member with h | h
    · exact i.isLineEnd_chars c (keyword ▸ h)
    · rcases List.mem_cons.1 h with rfl | h
      · decide
      · exact isLineEnd_writtenArguments arguments c h
  rw [Cursor.ofLine, List.takeWhile_append_of_pos within]

/-- The first word of a written line is its keyword. -/
theorem next_written (known : u ∈ Grammar.ofVersion levelVersion) (rest : List Char) :
    Cursor.next ⟨u.keyword.toList ++ '(' :: rest, false⟩ dice =
      ⟨.ok (some ⟨.name, u.keyword⟩), ⟨'(' :: rest, false⟩, dice, [], none⟩ := by
  obtain ⟨i, keyword⟩ := Grammar.exists_identifier known
  have read := i.read rest dice (show Word.isSeparator '(' = true from rfl)
  have starts : Word.starts i.first = true := by
    simp [Word.starts, Char.isAlphanum, i.isAlpha_first]
  rw [keyword, String.ofList_toList] at read
  rw [← keyword]
  show Cursor.next ⟨[] ++ i.first :: (i.more ++ '(' :: rest), false⟩ dice = _
  exact Cursor.next_spelled (List.forall_mem_nil _) starts read

/-- **What is written is what is read.** A keyword of the grammar that is no comment, with
    arguments of the sorts its entry asks for, is read by the pass that takes it as this
    entry with exactly these words and numbers. Nothing is rolled and nothing is said, so
    the loader goes on to take the line as if it had not been read from a text. Neither
    depends on what follows the closing parenthesis. -/
theorem read_written {pass : Pass} {arguments : List WrittenArgument}
    (known : u ∈ Grammar.ofVersion levelVersion) (noComment : u.verb ≠ .rem)
    (taken : pass.takes u.verb = true) (fits : arguments.map WrittenArgument.sort = u.arguments)
    (more : List Char) :
    (∀ dice, read levelVersion pass (u.written arguments ++ more) dice =
      ⟨.ok (some (u.applied arguments)), dice, []⟩) ∧
    ∀ g : Game, g.progress.levelVersion = levelVersion →
      Game.scanLine pass (u.written arguments ++ more) g = g.takeLine (u.applied arguments) := by
  have line : ∀ dice, read levelVersion pass (u.written arguments ++ more) dice =
      ⟨.ok (some (u.applied arguments)), dice, []⟩ := by
    intro dice
    have first := next_written dice known
      (writtenArguments arguments ++ more.takeWhile (!Word.isLineEnd ·))
    have rest := takeArguments_written dice (more.takeWhile (!Word.isLineEnd ·)) arguments '(' rfl
    have count : u.arguments.take u.argumentCount = arguments.map WrittenArgument.sort := by
      rw [Grammar.argumentCount_of_mem known, List.take_length, fits]
    have enough : ¬arguments.length < u.requiredCount := by
      rw [Usage.requiredCount, ← fits, List.length_map]
      exact Nat.lt_irrefl _
    rw [read, ofLine_written known, Usage.written, List.append_assoc, List.cons_append]
    simp only [first, keyword?, Grammar.find?_of_mem known]
    rw [if_neg (by simp [noComment, taken]), count, rest]
    simp only [Except.bind, withArguments, List.length_map]
    rw [if_neg enough]
    simp [Usage.applied, Except.map, Scanned.asides]
  refine ⟨line, ?_⟩
  rintro g rfl
  unfold Game.scanLine
  rw [line g.dice]
  rfl

/-- A message that is set and shown somewhere. What stands in quotes is one word, whatever
    separators there are in it, and the text after the parenthesis is left alone. -/
theorem read_written_message :
    let u : Usage := ⟨"QUICK_OBJECTIVE", [.number, .word, .word], .quickObjective⟩
    u ∈ Grammar.ofVersion 1 ∧ Pass.full.takes u.verb = true ∧
    read 1 .full "QUICK_OBJECTIVE(-7,\"Gold, (and) RANDOM\",PLAYER0) RANDOM(".toList default =
      ⟨.ok (some ⟨u, ["-7", "Gold, (and) RANDOM", "PLAYER0"], [-7, 0, 0]⟩), default, []⟩ := by
  intro u
  let arguments : List WrittenArgument := [.number (-7) (by decide) (by decide),
    .word (.quotation ⟨"Gold, (and) RANDOM".toList, by decide,
      fun c member same => (show '"' ∉ "Gold, (and) RANDOM".toList by decide) (same ▸ member),
      forall_mem_of_all (by decide)⟩),
    .word (.name ⟨'P', "LAYER0".toList, by decide, forall_mem_of_all (by decide), by decide⟩)]
  have known : u ∈ Grammar.ofVersion 1 := by decide
  have taken : Pass.full.takes u.verb = true := rfl
  have fits : arguments.map WrittenArgument.sort = u.arguments := rfl
  have line : u.written arguments ++ " RANDOM(".toList =
      "QUICK_OBJECTIVE(-7,\"Gold, (and) RANDOM\",PLAYER0) RANDOM(".toList := by decide +kernel
  have meant : u.applied arguments =
      ⟨u, ["-7", "Gold, (and) RANDOM", "PLAYER0"], [-7, 0, 0]⟩ := by decide +kernel
  have written := (read_written known (by decide) taken fits " RANDOM(".toList).1 default
  rw [line, meant] at written
  exact ⟨known, taken, written⟩

end ScriptLine

end DungeonScript

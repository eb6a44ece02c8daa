import DungeonScript.Dice
import DungeonScript.Remark
import DungeonScript.Text.Numeral

/-!
Words. A script line is a keyword followed by arguments, set apart by anything that
cannot start a word: blanks, commas and parentheses serve alike. A word is a bare
name, a decimal number, a quoted text or a comparison sign; `RANDOM` and its two
bounds are replaced by a rolled number as soon as they are read.

A `Cursor` holds what is left of one line. It never looks past the first carriage
return, line feed or NUL, since it is given the line up to there.
-/

namespace DungeonScript

/-- The sorts of words. -/
inductive WordKind where
  /-- A bare identifier, in upper case. -/
  | name
  /-- Decimal digits, perhaps after a minus sign. -/
  | number
  /-- The inside of a quoted text. -/
  | text
  /-- A comparison sign. -/
  | operator
  deriving Repr, DecidableEq

/-- One word of a line. -/
structure Word where
  kind : WordKind
  text : String
  deriving Repr, DecidableEq

namespace Word

/-- A character no line goes past. -/
def isLineEnd (c : Char) : Bool := c = '\r' || c = '\n' || c = '\x00'

def starts (c : Char) : Bool :=
  c.isAlphanum || c = '-' || c = '"' || c = '=' || c = '!' || c = '<' || c = '>'

def continuesName (c : Char) : Bool := c.isAlphanum || c = '_'

def ofRoll (value : Int) : Word := ⟨.number, toString value⟩

end Word

/-! ## Bounds of a roll -/

/-- A bound of `RANDOM` and the text after it. -/
structure Bound where
  value : Int
  /-- Set when the digits are not a number of 64 bits. -/
  odd : Option OddBound
  rest : List Char

namespace Bound

def starts (c : Char) : Bool := c.isDigit || c = '-'

/-- The bound whose text starts with the sign and digits given. Missing digits
    count as 0, too many as the greatest number. -/
def ofDigits (second negative : Bool) (digits rest : List Char) : Bound :=
  let magnitude : Int := Numeral.valueOf 10 digits
  let fits := !digits.isEmpty && decide (magnitude ≤ greatestNumber)
  let taken : Int := if fits then magnitude else if digits.isEmpty then 0 else greatestNumber
  let value := if negative then -taken else taken
  ⟨value, if fits then none else some ⟨second, negative, String.ofList digits, value⟩, rest⟩

/-- The next bound of the line, wherever it starts. -/
def read? (second : Bool) (cs : List Char) : Option Bound :=
  match cs.dropWhile (!starts ·) with
  | [] => none
  | '-' :: more =>
    some (ofDigits second true (more.takeWhile Char.isDigit) (more.dropWhile Char.isDigit))
  | more => some (ofDigits second false (more.takeWhile Char.isDigit) (more.dropWhile Char.isDigit))

end Bound

/-! ## Lexemes -/

/-- What reading one word from its first character on gives. -/
structure Lexeme where
  word : Except ScanFault Word
  /-- The text after the word, or after what was read of it. -/
  rest : List Char
  dice : Dice
  /-- Bounds that were not numbers of 64 bits. -/
  odd : List OddBound
  caution : Option Caution

namespace Lexeme

def plain (word : Except ScanFault Word) (rest : List Char) (dice : Dice) : Lexeme :=
  ⟨word, rest, dice, [], none⟩

/-- The two bounds after `RANDOM`, and the roll between them. -/
def random (cs : List Char) (dice : Dice) : Lexeme :=
  match Bound.read? false cs with
  | none => plain (.error (.missingBound false)) [] dice
  | some lo =>
    match Bound.read? true lo.rest with
    | none => ⟨.error (.missingBound true), [], dice, lo.odd.toList, none⟩
    | some hi =>
      let r := dice.between lo.value hi.value
      ⟨.ok (.ofRoll r.value), hi.rest, r.dice, lo.odd.toList ++ hi.odd.toList, r.caution⟩

/-- A name, or a roll when the name is `RANDOM`. -/
def name (cs : List Char) (dice : Dice) : Lexeme :=
  let word := (cs.takeWhile Word.continuesName).map Char.toUpper
  let rest := cs.dropWhile Word.continuesName
  if word = "RANDOM".toList then random rest dice
  else plain (.ok ⟨.name, String.ofList word⟩) rest dice

def number (sign cs : List Char) (dice : Dice) : Lexeme :=
  let digits := cs.takeWhile Char.isDigit
  let rest := cs.dropWhile Char.isDigit
  if digits.isEmpty then plain (.error .danglingMinus) rest dice
  else plain (.ok ⟨.number, String.ofList (sign ++ digits)⟩) rest dice

def text (cs : List Char) (dice : Dice) : Lexeme :=
  match cs.dropWhile (· != '"') with
  | [] => plain (.error .unterminatedText) [] dice
  | _ :: rest => plain (.ok ⟨.text, String.ofList (cs.takeWhile (· != '"'))⟩) rest dice

/-- A comparison sign after its first character. -/
def operator (sign : Char) (cs : List Char) (dice : Dice) : Lexeme :=
  match cs with
  | '=' :: rest => plain (.ok ⟨.operator, String.ofList [sign, '=']⟩) rest dice
  | _ =>
    if sign = '!' ∨ sign = '=' then plain (.error (.incompleteOperator sign)) cs dice
    else plain (.ok ⟨.operator, String.singleton sign⟩) cs dice

def read (first : Char) (more : List Char) (dice : Dice) : Lexeme :=
  if first.isAlpha then name (first :: more) dice
  else if first.isDigit then number [] (first :: more) dice
  else if first = '-' then number ['-'] more dice
  else if first = '"' then text more dice
  else operator first more dice

end Lexeme

/-! ## Reading consumes

Every word uses up at least its first character, so a line has no more words than
characters. -/

theorem length_dropWhile_le {p : Char → Bool} (cs : List Char) :
    (cs.dropWhile p).length ≤ cs.length := (List.dropWhile_suffix p).length_le

theorem Bound.rest_length {second : Bool} {cs : List Char} {b : Bound}
    (h : Bound.read? second cs = some b) : b.rest.length ≤ cs.length := by
  have hd := length_dropWhile_le (p := (!Bound.starts ·)) cs
  unfold Bound.read? at h
  split at h
  · simp at h
  · rename_i more hm
    have := length_dropWhile_le (p := Char.isDigit) more
    rw [hm] at hd
    simp only [Option.some.injEq] at h
    simp only [← h, Bound.ofDigits, List.length_cons] at *; omega
  · have := length_dropWhile_le (p := Char.isDigit) (cs.dropWhile (!Bound.starts ·))
    simp only [Option.some.injEq] at h
    simp only [← h, Bound.ofDigits] at *; omega

theorem Lexeme.random_rest_length (cs : List Char) (dice : Dice) :
    (Lexeme.random cs dice).rest.length ≤ cs.length := by
  unfold Lexeme.random
  split
  · simp [Lexeme.plain]
  · rename_i lo hlo
    have h1 := Bound.rest_length hlo
    split
    · simp
    · rename_i hi hhi
      have h2 := Bound.rest_length hhi
      simp; omega

theorem Lexeme.read_rest_length (first : Char) (more : List Char) (dice : Dice) :
    (Lexeme.read first more dice).rest.length ≤ more.length := by
  unfold Lexeme.read
  split
  · rename_i hf
    have hc : Word.continuesName first = true := by
      simp [Word.continuesName, Char.isAlphanum, hf]
    have hd := length_dropWhile_le (p := Word.continuesName) more
    unfold Lexeme.name
    simp only [List.dropWhile_cons, hc, if_true]
    split
    · exact Nat.le_trans (Lexeme.random_rest_length _ _) hd
    · exact hd
  · split
    · rename_i hf
      have hd := length_dropWhile_le (p := Char.isDigit) more
      unfold Lexeme.number
      simp only [List.dropWhile_cons, hf, if_true]
      split <;> exact hd
    · split
      · have hd := length_dropWhile_le (p := Char.isDigit) more
        unfold Lexeme.number
        simp only
        split <;> exact hd
      · split
        · have hd := length_dropWhile_le (p := (· != '"')) more
          unfold Lexeme.text
          split
          · simp [Lexeme.plain]
          · rename_i h
            rw [h] at hd
            simp [Lexeme.plain] at *; omega
        · unfold Lexeme.operator
          split
          · simp [Lexeme.plain]
          · split <;> simp [Lexeme.plain]

/-! ## Cursors -/

/-- What is left of a line. -/
structure Cursor where
  rest : List Char
  /-- Set once reading has run into the end of the line. -/
  atEnd : Bool
  deriving Repr, DecidableEq

/-- What reading the next word gives; no word when the line has no more. -/
structure Scanned where
  word : Except ScanFault (Option Word)
  cursor : Cursor
  dice : Dice
  odd : List OddBound
  caution : Option Caution

namespace Cursor

def ofLine (line : List Char) : Cursor := ⟨line.takeWhile (!Word.isLineEnd ·), false⟩

/-- Whether reading a word this way means that the end of the line was met. -/
def meetsEnd (word : Except ScanFault Word) (rest : List Char) : Bool :=
  match word with
  | .ok _ => rest.isEmpty
  | .error (.missingBound _) => true
  | .error .unterminatedText => true
  | .error _ => false

def next (c : Cursor) (dice : Dice) : Scanned :=
  match c.rest.dropWhile (!Word.starts ·) with
  | [] => ⟨.ok none, ⟨[], true⟩, dice, [], none⟩
  | first :: more =>
    let l := Lexeme.read first more dice
    ⟨l.word.map some, ⟨l.rest, c.atEnd || meetsEnd l.word l.rest⟩, l.dice, l.odd, l.caution⟩

theorem next_rest_length {c : Cursor} {dice : Dice} (h : (c.next dice).word ≠ .ok none) :
    (c.next dice).cursor.rest.length < c.rest.length := by
  unfold next at h ⊢
  have hd := length_dropWhile_le (p := (!Word.starts ·)) c.rest
  split
  · rename_i hn
    simp [hn] at h
  · rename_i first more hm
    have hr := Lexeme.read_rest_length first more dice
    rw [hm] at hd
    simp at *; omega

/-- Every reading of the line up to the first that finds no word. -/
def scanAll (c : Cursor) (dice : Dice) : List Scanned :=
  match _hw : (c.next dice).word with
  | .ok none => [c.next dice]
  | .ok (some _) => c.next dice :: scanAll (c.next dice).cursor (c.next dice).dice
  | .error _ => c.next dice :: scanAll (c.next dice).cursor (c.next dice).dice
termination_by c.rest.length
decreasing_by all_goals exact next_rest_length (by simp [_hw])

end Cursor

end DungeonScript

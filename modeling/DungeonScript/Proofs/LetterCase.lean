import DungeonScript.Game.Loading
import DungeonScript.Proofs.Lines
import Mathlib.Data.List.Basic
import Mathlib.Data.List.TakeWhile

/-!
The case of letters. A script without quoted texts can be written in any mixture of small
and capital letters: what a text is read as, rolled for and reported about is that of the
text in capitals (`loads_alike_in_any_case`).

No stage of reading looks at a letter but to see that it is one, until the scanner puts
names in capitals. So every stage commutes with putting its text in capitals, from cutting
lines down to the bounds of a roll, and only a quoted text would carry the case of its
letters past the scanner.
-/

namespace DungeonScript

/-- Characters with the letters among them in capitals. -/
def capitals (cs : List Char) : List Char := cs.map Char.toUpper

section

variable {p : Char → Bool} (blind : ∀ c : Char, p c.toUpper = p c) (cs : List Char)
include blind

theorem takeWhile_capitals : (capitals cs).takeWhile p = capitals (cs.takeWhile p) := by
  rw [capitals, List.takeWhile_map, show p ∘ Char.toUpper = p from funext blind]
  rfl

theorem dropWhile_capitals : (capitals cs).dropWhile p = capitals (cs.dropWhile p) := by
  rw [capitals, List.dropWhile_map, show p ∘ Char.toUpper = p from funext blind]
  rfl

end

@[simp] theorem isEmpty_capitals (cs : List Char) : (capitals cs).isEmpty = cs.isEmpty :=
  List.isEmpty_map

/-! ## Lines -/

namespace Lines

theorem isIndent_toUpper (c : Char) : isIndent c.toUpper = isIndent c := by
  simp [isIndent, toUpper_eq_iff]

theorem splitAtClose_capitals (cs : List Char) :
    splitAtClose (capitals cs) =
      (splitAtClose cs).map fun p => (capitals p.1, capitals p.2) := by
  fun_induction splitAtClose cs with
  | case1 => rfl
  | case2 rest => rfl
  | case3 c rest open_ ih =>
    have notClose : ∀ more, c.toUpper = '*' → capitals rest ≠ '/' :: more := by
      intro more star slash
      cases rest with
      | nil => cases slash
      | cons d later =>
        have c_eq : c = '*' := (toUpper_eq_iff (by decide)).1 star
        have d_eq : d = '/' := (toUpper_eq_iff (by decide)).1 (List.cons.inj slash).1
        exact open_ later c_eq (by rw [d_eq])
    show splitAtClose (c.toUpper :: capitals rest) = _
    rw [splitAtClose, ih, Option.map_map, Option.map_map]
    · rfl
    · exact notClose

theorem opens_of_capitals {cs more : List Char} (opens : capitals cs = '/' :: '*' :: more) :
    ∃ rest, cs = '/' :: '*' :: rest := by
  match cs, opens with
  | [_], opens => cases (List.cons.inj opens).2
  | c :: d :: rest, opens =>
    obtain ⟨slash, later⟩ := List.cons.inj opens
    obtain rfl := (toUpper_eq_iff (by decide)).1 slash
    obtain rfl := (toUpper_eq_iff (by decide)).1 (List.cons.inj later).1
    exact ⟨rest, rfl⟩

theorem blockComment?_capitals (cs : List Char) :
    blockComment? (capitals cs) =
      (blockComment? cs).map fun p => (capitals p.1, capitals p.2) := by
  have indented : (capitals cs).dropWhile isIndent = capitals (cs.dropWhile isIndent) :=
    dropWhile_capitals isIndent_toUpper cs
  by_cases opens : ∃ rest, cs.dropWhile isIndent = '/' :: '*' :: rest
  · obtain ⟨rest, opens⟩ := opens
    have opens' : (capitals cs).dropWhile isIndent = '/' :: '*' :: capitals rest := by
      rw [indented, opens]
      rfl
    rw [blockComment?_of_opens opens', blockComment?_of_opens opens, splitAtClose_capitals]
  · have other : ∀ rest, cs.dropWhile isIndent ≠ '/' :: '*' :: rest := fun rest h => opens ⟨rest, h⟩
    have other' : ∀ rest, (capitals cs).dropWhile isIndent ≠ '/' :: '*' :: rest := fun rest h =>
      opens (opens_of_capitals (indented ▸ h))
    rw [blockComment?_eq_none other', blockComment?_eq_none other]
    rfl

theorem breaks_capitals (cs : List Char) : breaks (capitals cs) = breaks cs := by
  induction cs with
  | nil => rfl
  | cons c rest ih =>
    have same : (c.toUpper == '\n') = (c == '\n') := by
      rw [Bool.eq_iff_iff, beq_iff_eq, beq_iff_eq, toUpper_eq_iff (by decide)]
    show (c.toUpper :: capitals rest).count '\n' = _
    rw [List.count_cons, same, breaks, List.count_cons]
    exact congrArg (· + _) ih

theorem skipComment_capitals (cs : List Char) :
    skipComment (capitals cs) = ((skipComment cs).1, capitals (skipComment cs).2) := by
  unfold skipComment
  rw [blockComment?_capitals]
  cases blockComment? cs with
  | none => rfl
  | some p => simp only [Option.map_some, breaks_capitals]

theorem notLineFeed_toUpper (c : Char) : (c.toUpper != '\n') = (c != '\n') := by
  rw [Bool.eq_iff_iff, bne_iff_ne, bne_iff_ne, ne_eq, ne_eq, toUpper_eq_iff (by decide)]

theorem firstLine_capitals (cs : List Char) : firstLine (capitals cs) = capitals (firstLine cs) :=
  takeWhile_capitals notLineFeed_toUpper cs

theorem afterLine_capitals (cs : List Char) : afterLine (capitals cs) = capitals (afterLine cs) := by
  rw [afterLine, dropWhile_capitals notLineFeed_toUpper, capitals, ← List.map_drop]
  rfl

theorem dropReturn_capitals (cs : List Char) : dropReturn (capitals cs) = capitals (dropReturn cs) := by
  have last : (capitals cs).getLast? = some '\r' ↔ cs.getLast? = some '\r' := by
    rw [capitals, List.getLast?_map]
    cases cs.getLast? with
    | none => simp
    | some c => simp [toUpper_eq_iff]
  unfold dropReturn
  simp only [last]
  split
  · exact List.map_dropLast.symm
  · rfl

theorem numberedFrom_capitals (number : Nat) (cs : List Char) :
    numberedFrom number (capitals cs) =
      (numberedFrom number cs).map fun line => (line.1, capitals line.2) := by
  fun_induction numberedFrom number cs with
  | case1 number => rw [capitals, List.map_nil, numberedFrom, dif_pos rfl, List.map_nil]
  | case2 number cs nonempty s ih =>
    have nonempty' : capitals cs ≠ [] := by simpa [capitals] using nonempty
    rw [numberedFrom, dif_neg nonempty', skipComment_capitals, List.map_cons, ← ih]
    simp only [firstLine_capitals, dropReturn_capitals, afterLine_capitals]
    rfl

end Lines

/-! ## Words -/

namespace Word

theorem isAlphanum_toUpper (c : Char) : c.toUpper.isAlphanum = c.isAlphanum := by
  rw [Char.isAlphanum, Char.isAlphanum, isAlpha_toUpper, isDigit_toUpper]

theorem isLineEnd_toUpper (c : Char) : isLineEnd c.toUpper = isLineEnd c := by
  simp [isLineEnd, toUpper_eq_iff]

theorem starts_toUpper (c : Char) : starts c.toUpper = starts c := by
  simp [starts, isAlphanum_toUpper, toUpper_eq_iff]

theorem continuesName_toUpper (c : Char) : continuesName c.toUpper = continuesName c := by
  simp [continuesName, isAlphanum_toUpper, toUpper_eq_iff]

end Word

theorem takeWhile_isDigit_capitals (cs : List Char) :
    (capitals cs).takeWhile Char.isDigit = cs.takeWhile Char.isDigit := by
  rw [takeWhile_capitals isDigit_toUpper]
  exact map_toUpper_eq_self fun c member => isLower_of_isDigit (List.mem_takeWhile_imp member)

namespace Bound

theorem starts_toUpper (c : Char) : starts c.toUpper = starts c := by
  simp [starts, isDigit_toUpper, toUpper_eq_iff]

theorem ofDigits_capitals (second negative : Bool) (digits rest : List Char) :
    ofDigits second negative digits (capitals rest) =
      { ofDigits second negative digits rest with rest := capitals rest } := rfl

/-- A bound without what precedes it. -/
theorem read?_of_dropWhile {second : Bool} {cs : List Char} {first : Char} {more : List Char}
    (found : cs.dropWhile (!starts ·) = first :: more) :
    read? second cs = some (
      if first = '-' then
        ofDigits second true (more.takeWhile Char.isDigit) (more.dropWhile Char.isDigit)
      else ofDigits second false ((first :: more).takeWhile Char.isDigit)
        ((first :: more).dropWhile Char.isDigit)) := by
  unfold read?
  split
  · rename_i none
    rw [none] at found
    cases found
  · rename_i more' minus
    rw [minus] at found
    obtain ⟨rfl, rfl⟩ := List.cons.inj found
    rw [if_pos rfl]
  · rename_i more' other
    rw [found] at other
    rw [if_neg fun minus => other more (by rw [minus]), found]

theorem read?_capitals (second : Bool) (cs : List Char) :
    read? second (capitals cs) =
      (read? second cs).map fun b => { b with rest := capitals b.rest } := by
  have skipped : (capitals cs).dropWhile (!starts ·) = capitals (cs.dropWhile (!starts ·)) :=
    dropWhile_capitals (fun c => by rw [starts_toUpper]) cs
  cases found : cs.dropWhile (!starts ·) with
  | nil =>
    rw [found] at skipped
    simp only [read?, found, skipped]
    rfl
  | cons first more =>
    rw [found] at skipped
    rw [read?_of_dropWhile found, read?_of_dropWhile skipped, Option.map_some]
    by_cases minus : first = '-'
    · rw [if_pos minus, if_pos ((toUpper_eq_iff (by decide)).2 minus)]
      show some (ofDigits second true ((capitals more).takeWhile Char.isDigit)
        ((capitals more).dropWhile Char.isDigit)) = _
      rw [takeWhile_isDigit_capitals, dropWhile_capitals isDigit_toUpper, ofDigits_capitals]
      rfl
    · rw [if_neg minus, if_neg (mt (toUpper_eq_iff (by decide)).1 minus)]
      show some (ofDigits second false ((capitals (first :: more)).takeWhile Char.isDigit)
        ((capitals (first :: more)).dropWhile Char.isDigit)) = _
      rw [takeWhile_isDigit_capitals, dropWhile_capitals isDigit_toUpper, ofDigits_capitals]
      rfl

end Bound

namespace Lexeme

/-- The lexeme with the rest of the line in capitals. -/
def inCapitals (l : Lexeme) : Lexeme := { l with rest := capitals l.rest }

theorem random_capitals (cs : List Char) (dice : Dice) :
    random (capitals cs) dice = (random cs dice).inCapitals := by
  unfold random
  rw [Bound.read?_capitals]
  cases Bound.read? false cs with
  | none => rfl
  | some lo =>
    simp only [Option.map_some]
    rw [Bound.read?_capitals]
    cases Bound.read? true lo.rest with
    | none => rfl
    | some hi => rfl

theorem name_capitals (cs : List Char) (dice : Dice) :
    name (capitals cs) dice = (name cs dice).inCapitals := by
  have word : ((capitals cs).takeWhile Word.continuesName).map Char.toUpper =
      (cs.takeWhile Word.continuesName).map Char.toUpper := by
    rw [takeWhile_capitals Word.continuesName_toUpper, capitals, List.map_map]
    exact List.map_congr_left fun c _ => toUpper_toUpper c
  unfold name
  simp only [word, dropWhile_capitals Word.continuesName_toUpper]
  split
  · exact random_capitals _ dice
  · rfl

theorem number_capitals (sign cs : List Char) (dice : Dice) :
    number sign (capitals cs) dice = (number sign cs dice).inCapitals := by
  unfold number
  simp only [takeWhile_isDigit_capitals, dropWhile_capitals isDigit_toUpper]
  split <;> rfl

theorem operator_capitals (sign : Char) (cs : List Char) (dice : Dice) :
    operator sign (capitals cs) dice = (operator sign cs dice).inCapitals := by
  cases cs with
  | nil =>
    show operator sign [] dice = _
    simp only [operator]
    split <;> rfl
  | cons c rest =>
    by_cases equals : c = '='
    · subst equals
      rfl
    · have equals' : c.toUpper ≠ '=' := mt (toUpper_eq_iff (by decide)).1 equals
      have other : ∀ {c : Char} {rest : List Char}, c ≠ '=' → operator sign (c :: rest) dice =
          if sign = '!' ∨ sign = '=' then plain (.error (.incompleteOperator sign)) (c :: rest) dice
          else plain (.ok ⟨.operator, String.singleton sign⟩) (c :: rest) dice := by
        intro c rest differs
        unfold operator
        split
        · exact absurd (List.cons.inj ‹_›).1 differs
        · rfl
      show operator sign (c.toUpper :: capitals rest) dice = _
      rw [other equals, other equals']
      split <;> rfl

theorem read_capitals {first : Char} (unquoted : first ≠ '"') (more : List Char) (dice : Dice) :
    read first.toUpper (capitals more) dice = (read first more dice).inCapitals := by
  unfold read
  rw [isAlpha_toUpper, isDigit_toUpper]
  split
  · exact name_capitals (first :: more) dice
  · rename_i noLetter
    -- what follows tells `first` from signs, and it is its own capital
    have same : first.toUpper = first := toUpper_of_isLower_eq_false (by
      rw [Bool.not_eq_true, isAlpha_eq, Bool.or_eq_false_iff] at noLetter
      exact noLetter.2)
    rw [same]
    split
    · have numeral := number_capitals [] (first :: more) dice
      rwa [capitals, List.map_cons, same] at numeral
    · split
      · exact number_capitals ['-'] more dice
      · exact operator_capitals first more dice

end Lexeme

/-! ### What is left of a line -/

theorem Bound.rest_suffix {second : Bool} {cs : List Char} {b : Bound}
    (found : Bound.read? second cs = some b) : b.rest <:+ cs := by
  cases skipped : cs.dropWhile (!Bound.starts ·) with
  | nil =>
    simp only [read?, skipped] at found
    cases found
  | cons first more =>
    have suffix : first :: more <:+ cs := skipped ▸ List.dropWhile_suffix _
    rw [read?_of_dropWhile skipped, Option.some.injEq] at found
    subst found
    split
    · exact ((List.dropWhile_suffix _).trans (List.suffix_cons first more)).trans suffix
    · exact (List.dropWhile_suffix _).trans suffix

theorem Lexeme.random_rest_suffix (cs : List Char) (dice : Dice) :
    (Lexeme.random cs dice).rest <:+ cs := by
  unfold Lexeme.random
  split
  · exact List.nil_suffix
  · rename_i lo found
    split
    · exact List.nil_suffix
    · rename_i hi found'
      exact (Bound.rest_suffix found').trans (Bound.rest_suffix found)

theorem Lexeme.read_rest_suffix (first : Char) (more : List Char) (dice : Dice) :
    (Lexeme.read first more dice).rest <:+ first :: more := by
  unfold Lexeme.read
  split
  · unfold Lexeme.name
    simp only
    split
    · exact (Lexeme.random_rest_suffix _ dice).trans (List.dropWhile_suffix _)
    · exact List.dropWhile_suffix _
  · split
    · unfold Lexeme.number
      simp only
      split <;> exact List.dropWhile_suffix _
    · split
      · unfold Lexeme.number
        simp only
        split <;> exact (List.dropWhile_suffix _).trans (List.suffix_cons first more)
      · split
        · unfold Lexeme.text
          split
          · exact List.nil_suffix
          · rename_i c rest quoted
            have suffix : c :: rest <:+ more := quoted ▸ List.dropWhile_suffix _
            exact ((List.suffix_cons c rest).trans suffix).trans (List.suffix_cons first more)
        · unfold Lexeme.operator
          split
          · exact (List.suffix_cons _ _).trans (List.suffix_cons first _)
          · split <;> exact List.suffix_cons first more

namespace Cursor

theorem next_rest_suffix (c : Cursor) (dice : Dice) : (c.next dice).cursor.rest <:+ c.rest := by
  unfold next
  split
  · exact List.nil_suffix
  · rename_i first more found
    exact (Lexeme.read_rest_suffix first more dice).trans (found ▸ List.dropWhile_suffix _)

def inCapitals (c : Cursor) : Cursor := ⟨capitals c.rest, c.atEnd⟩

theorem meetsEnd_capitals (word : Except ScanFault Word) (rest : List Char) :
    meetsEnd word (capitals rest) = meetsEnd word rest := by
  unfold meetsEnd
  split
  · exact isEmpty_capitals rest
  · rfl
  · rfl
  · rfl

/-- The next word of a line without quotes is the same in any case. -/
theorem next_capitals {c : Cursor} (unquoted : '"' ∉ c.rest) (dice : Dice) :
    c.inCapitals.next dice =
      { c.next dice with cursor := (c.next dice).cursor.inCapitals } := by
  have skipped : (capitals c.rest).dropWhile (!Word.starts ·) =
      capitals (c.rest.dropWhile (!Word.starts ·)) :=
    dropWhile_capitals (fun c => by rw [Word.starts_toUpper]) c.rest
  cases found : c.rest.dropWhile (!Word.starts ·) with
  | nil =>
    rw [found] at skipped
    simp only [next, inCapitals, found, skipped]
    rfl
  | cons first more =>
    have suffix : first :: more <:+ c.rest := found ▸ List.dropWhile_suffix _
    have plain : first ≠ '"' := by
      rintro rfl
      exact unquoted (suffix.subset List.mem_cons_self)
    rw [found] at skipped
    have skipped : c.inCapitals.rest.dropWhile (!Word.starts ·) = first.toUpper :: capitals more :=
      skipped
    simp only [next, found, skipped, Lexeme.read_capitals plain]
    simp only [Lexeme.inCapitals, meetsEnd_capitals]
    rfl

theorem ofLine_capitals (text : List Char) : ofLine (capitals text) = (ofLine text).inCapitals := by
  have cut : (capitals text).takeWhile (!Word.isLineEnd ·) =
      capitals (text.takeWhile (!Word.isLineEnd ·)) :=
    takeWhile_capitals (fun c => by rw [Word.isLineEnd_toUpper]) text
  rw [ofLine, cut]
  rfl

end Cursor

/-! ## Script lines -/

namespace ScriptLine

theorem takeArguments_capitals : ∀ (as : List Argument) (c : Cursor) (dice : Dice),
    '"' ∉ c.rest → takeArguments as c.inCapitals dice = takeArguments as c dice
  | [], _, _, _ => rfl
  | a :: rest, c, dice, unquoted => by
    have later := takeArguments_capitals rest (c.next dice).cursor (c.next dice).dice
      fun quote => unquoted ((c.next_rest_suffix dice).subset quote)
    simp only [takeArguments]
    show (if c.atEnd then _ else _) = _
    split
    · rfl
    · rw [Cursor.next_capitals unquoted]
      simp only [Scanned.asides]
      split
      · rfl
      · rfl
      · simp only [later]

theorem read_capitals (levelVersion : Int) (pass : Pass) {text : List Char} (unquoted : '"' ∉ text)
    (dice : Dice) :
    read levelVersion pass (capitals text) dice = read levelVersion pass text dice := by
  have plain : '"' ∉ (Cursor.ofLine text).rest := fun quote =>
    unquoted ((List.takeWhile_prefix _).subset quote)
  have plain' : '"' ∉ ((Cursor.ofLine text).next dice).cursor.rest := fun quote =>
    plain (((Cursor.ofLine text).next_rest_suffix dice).subset quote)
  unfold read
  rw [Cursor.ofLine_capitals, Cursor.next_capitals plain]
  simp only [Scanned.asides, takeArguments_capitals _ _ _ plain']

end ScriptLine

/-! ## Loading -/

namespace Game

theorem loadLine_capitals (pass : Pass) {line : Nat × List Char} (unquoted : '"' ∉ line.2) (g : Game) :
    loadLine pass (line.1, capitals line.2) g = loadLine pass line g := by
  unfold loadLine scanLine
  simp only [ScriptLine.read_capitals _ pass unquoted]

theorem loadLines_capitals (pass : Pass) {lines : List (Nat × List Char)}
    (unquoted : ∀ line ∈ lines, '"' ∉ line.2) (g : Game) :
    loadLines pass (lines.map fun line => (line.1, capitals line.2)) g = loadLines pass lines g := by
  induction lines generalizing g with
  | nil => rfl
  | cons line rest ih =>
    have later := ih fun line member => unquoted line (List.mem_cons_of_mem _ member)
    simp only [List.map_cons, loadLines, loadLine_capitals pass (unquoted line List.mem_cons_self),
      later]

/-- A pass over a text without quotes is one over the text in capitals. -/
theorem runPass_upperCase (pass : Pass) {text : String} (unquoted : '"' ∉ text.toList) (g : Game) :
    runPass pass (upperCase text) g = runPass pass text g := by
  have lines : scriptLines (upperCase text) =
      (scriptLines text).map fun line => (line.1, capitals line.2) := by
    rw [scriptLines, toList_upperCase]
    exact Lines.numberedFrom_capitals 1 text.toList
  have plain : ∀ line ∈ scriptLines text, '"' ∉ line.2 := fun line member quote =>
    unquoted (Lines.mem_of_mem_numberedFrom member quote)
  unfold runPass
  rw [lines, loadLines_capitals pass plain]

/-- **Case does not matter outside of quotes.** Two texts without quotes that differ in the
    case of ASCII letters alone do the same to every game: in either pass and in a whole
    level load they leave the same game behind and note the same in the journal. -/
theorem loads_alike_in_any_case {text text' : String} (unquoted : '"' ∉ text.toList)
    (alike : sameWord text text' = true) (g : Game) :
    preload text g = preload text' g ∧ load text g = load text' g ∧
      loadLevel text g = loadLevel text' g := by
  have capitalsAlike : upperCase text = upperCase text' := sameWord_iff.1 alike
  have unquoted' : '"' ∉ text'.toList := by
    intro quote
    have member : '"' ∈ (upperCase text).toList := by
      rw [capitalsAlike, toList_upperCase]
      exact List.mem_map_of_mem quote
    rw [toList_upperCase] at member
    obtain ⟨c, inText, capital⟩ := List.mem_map.1 member
    rw [(toUpper_eq_iff (by decide)).1 capital] at inText
    exact unquoted inText
  have pass : ∀ pass g, runPass pass text g = runPass pass text' g := fun pass g => by
    rw [← runPass_upperCase pass unquoted, capitalsAlike, runPass_upperCase pass unquoted']
  simp only [loadLevel, preload, load, pass, and_self]

/-- A script in small letters, and the same script as a shouting author writes it. -/
theorem loads_alike_in_any_case_shouted :
    loadLevel "level_version(1)\nadd_creature_to_level(player0,imp,player0,1,Random(1,3),0)\n" default =
      loadLevel "LEVEL_VERSION(1)\nADD_CREATURE_TO_LEVEL(PLAYER0,IMP,PLAYER0,1,RANDOM(1,3),0)\n" default :=
  (loads_alike_in_any_case (by decide +kernel) (by decide +kernel) default).2.2

end Game

end DungeonScript

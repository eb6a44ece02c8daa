import DungeonScript.Proofs.Machine.Checked
import DungeonScript.ScriptLine
import DungeonScript.Text.Lines

/-!
The machine reads. A text is cut at positions in its bytes, lines are counted, and the numbers
of a line are negated and rolled; none of it crashes (`lines_eq`, `readLine_eq`). A cut is always
made where a search has just stopped, which is between characters; a line number stays below the
number of bytes; a number has 63 bits before it is negated; and a roll stays between its bounds.
-/

namespace DungeonScript

namespace Machine

/-! ## Cuts -/

def bytes : List Char → Nat
  | [] => 0
  | c :: cs => c.utf8Size + bytes cs

theorem bytes_cons (c : Char) (cs : List Char) : bytes (c :: cs) = c.utf8Size + bytes cs := rfl

theorem bytes_append (a b : List Char) : bytes (a ++ b) = bytes a + bytes b := by
  induction a with
  | nil => exact (Nat.zero_add _).symm
  | cons c a ih =>
    rw [List.cons_append, bytes_cons, bytes_cons, ih, Nat.add_assoc]

def cutAt (n : Nat) : List Char → Checked (List Char × List Char)
  | [] => if n = 0 then .ok ([], []) else .error .outOfBounds
  | c :: cs =>
    if n = 0 then .ok ([], c :: cs)
    else if n < c.utf8Size then .error .outOfBounds
    else do
      let (before, after) ← cutAt (n - c.utf8Size) cs
      return (c :: before, after)

theorem cutAt_append (a b : List Char) : cutAt (bytes a) (a ++ b) = .ok (a, b) := by
  induction a with
  | nil => cases b <;> rfl
  | cons c a ih =>
    have size := c.utf8Size_pos
    rw [bytes_cons, List.cons_append, cutAt, if_neg (by omega), if_neg (by omega),
      Nat.add_sub_cancel_left, ih]
    rfl

/-- The characters at the start of a text that `p` accepts, and the text after them. -/
def takeWhile (p : Char → Bool) (cs : List Char) : Checked (List Char × List Char) :=
  cutAt (bytes (cs.takeWhile p)) cs

@[simp] theorem takeWhile_eq (p : Char → Bool) (cs : List Char) :
    takeWhile p cs = .ok (cs.takeWhile p, cs.dropWhile p) := by
  have cut := cutAt_append (cs.takeWhile p) (cs.dropWhile p)
  rwa [List.takeWhile_append_dropWhile] at cut

def bump : List Char → Checked (List Char)
  | [] => .ok []
  | c :: cs => (·.2) <$> cutAt c.utf8Size (c :: cs)

@[simp] theorem bump_cons (c : Char) (cs : List Char) : bump (c :: cs) = .ok cs := by
  have cut := cutAt_append [c] cs
  rw [bytes_cons] at cut
  show (·.2) <$> cutAt (c.utf8Size + 0) (c :: cs) = _
  exact congrArg ((·.2) <$> ·) cut

/-! ## Lines -/

/-- What follows the start of a comment that starts the text. -/
def opened? (cs : List Char) : Option (List Char) :=
  match cs.dropWhile Lines.isIndent with
  | '/' :: '*' :: comment => some comment
  | _ => none

/-- The number of the line a text starts on and the text, after a comment at its start. -/
def skipComment (line : Nat) (cs : List Char) : Checked (Nat × List Char) :=
  match opened? cs with
  | none => return (line, cs)
  | some comment =>
    match Lines.splitAtClose comment with
    | none => return (line, cs)
    | some (inside, _) => do
      let closes := bytes inside
      let (inside, _) ← cutAt closes comment
      let line ← counter (line + Lines.breaks inside)
      let (_, rest) ← cutAt (← counter (closes + 2)) comment
      return (line, rest)

theorem blockComment?_eq (cs : List Char) :
    Lines.blockComment? cs = (opened? cs).bind Lines.splitAtClose := by
  unfold opened?
  fun_cases Lines.blockComment? cs with
  | case1 comment opens =>
    rw [opens]
    rfl
  | case2 other =>
    split
    · rename_i comment opens
      exact (other comment opens).elim
    · rfl

theorem bytes_opened? {cs comment : List Char} (h : opened? cs = some comment) :
    bytes comment < bytes cs := by
  have whole := bytes_append (cs.takeWhile Lines.isIndent) (cs.dropWhile Lines.isIndent)
  rw [List.takeWhile_append_dropWhile] at whole
  unfold opened? at h
  split at h
  · rename_i starts
    obtain rfl := Option.some.inj h
    have slash := Char.utf8Size_pos '/'
    rw [starts, bytes_cons, bytes_cons] at whole
    omega
  · cases h

theorem splitAtClose_eq {cs inside rest : List Char}
    (h : Lines.splitAtClose cs = some (inside, rest)) : cs = inside ++ '*' :: '/' :: rest := by
  fun_induction Lines.splitAtClose cs generalizing inside rest with
  | case1 => cases h
  | case2 r =>
    cases h
    rfl
  | case3 c r _ ih =>
    obtain ⟨p, found, same⟩ := Option.map_eq_some_iff.1 h
    cases same
    rw [List.cons_append, ← ih found]

/-- Cuts before and after the end of a comment. -/
theorem cutAt_close {comment inside rest : List Char}
    (h : Lines.splitAtClose comment = some (inside, rest)) :
    cutAt (bytes inside) comment = .ok (inside, '*' :: '/' :: rest) ∧
      cutAt (bytes inside + 2) comment = .ok (inside ++ ['*', '/'], rest) := by
  obtain rfl := splitAtClose_eq h
  refine ⟨cutAt_append inside _, ?_⟩
  have cut := cutAt_append (inside ++ ['*', '/']) rest
  rw [bytes_append, List.append_assoc] at cut
  exact cut

theorem bytes_close {comment inside rest : List Char}
    (h : Lines.splitAtClose comment = some (inside, rest)) :
    bytes comment = bytes inside + 2 + bytes rest := by
  rw [splitAtClose_eq h, bytes_append, bytes_cons, bytes_cons]
  show _ + (1 + (1 + _)) = _
  omega

theorem count_le_bytes (c : Char) (cs : List Char) : cs.count c ≤ bytes cs := by
  induction cs with
  | nil => exact Nat.le_refl _
  | cons d cs ih =>
    have size := d.utf8Size_pos
    rw [List.count_cons, bytes_cons]
    split <;> omega

theorem skipComment_eq {line : Nat} {cs : List Char} (fits : line + bytes cs < counterEnd) :
    skipComment line cs = .ok (line + (Lines.skipComment cs).1, (Lines.skipComment cs).2) := by
  unfold skipComment Lines.skipComment
  rw [blockComment?_eq]
  cases opens : opened? cs with
  | none => rfl
  | some comment =>
    simp only [Option.bind_some]
    cases closes : Lines.splitAtClose comment with
    | none => rfl
    | some parts =>
      obtain ⟨inside, rest⟩ := parts
      obtain ⟨before, after⟩ := cutAt_close closes
      have breaks : Lines.breaks inside ≤ bytes inside := count_le_bytes '\n' inside
      have shorter := bytes_opened? opens
      have size := bytes_close closes
      simp only [before, ok_bind]
      rw [counter_eq (by omega), ok_bind, counter_eq (by omega), ok_bind, after]
      rfl

theorem bytes_afterLine_lt (c : Char) (cs : List Char) :
    bytes (Lines.afterLine (c :: cs)) < bytes (c :: cs) := by
  have whole := bytes_append ((c :: cs).takeWhile (· != '\n')) ((c :: cs).dropWhile (· != '\n'))
  rw [List.takeWhile_append_dropWhile] at whole
  unfold Lines.afterLine
  cases rest : (c :: cs).dropWhile (· != '\n') with
  | nil =>
    have size := c.utf8Size_pos
    rw [bytes_cons]
    exact Nat.add_pos_left size _
  | cons d ds =>
    have size := d.utf8Size_pos
    rw [rest, bytes_cons d ds] at whole
    show bytes ds < _
    omega

theorem bytes_afterLine_le (cs : List Char) : bytes (Lines.afterLine cs) ≤ bytes cs := by
  cases cs with
  | nil => exact Nat.le_refl _
  | cons c cs => exact Nat.le_of_lt (bytes_afterLine_lt c cs)

/-- Each line read has taken up a byte, and so has each line of a comment. -/
theorem bytes_afterLine {cs : List Char} (some : cs ≠ []) :
    (Lines.skipComment cs).1 + 1 + bytes (Lines.afterLine (Lines.skipComment cs).2) ≤ bytes cs := by
  have whole : 0 + 1 + bytes (Lines.afterLine cs) ≤ bytes cs := by
    obtain ⟨c, cs, rfl⟩ := List.exists_cons_of_ne_nil some
    have shorter := bytes_afterLine_lt c cs
    omega
  unfold Lines.skipComment
  rw [blockComment?_eq]
  cases opens : opened? cs with
  | none => exact whole
  | some comment =>
    simp only [Option.bind_some]
    cases closes : Lines.splitAtClose comment with
    | none => exact whole
    | some parts =>
      obtain ⟨inside, rest⟩ := parts
      have breaks : Lines.breaks inside ≤ bytes inside := count_le_bytes '\n' inside
      have shorter := bytes_opened? opens
      have size := bytes_close closes
      have less := bytes_afterLine_le rest
      simp only
      omega

/-- Whatever the machine skips, the definition skips too. -/
theorem skipComment_rest {line number : Nat} {cs rest : List Char}
    (skipped : skipComment line cs = .ok (number, rest)) : rest = (Lines.skipComment cs).2 := by
  unfold skipComment at skipped
  unfold Lines.skipComment
  rw [blockComment?_eq]
  cases opens : opened? cs with
  | none =>
    rw [opens] at skipped
    cases skipped
    rfl
  | some comment =>
    simp only [opens] at skipped
    simp only [Option.bind_some]
    cases closes : Lines.splitAtClose comment with
    | none =>
      rw [closes] at skipped
      cases skipped
      rfl
    | some parts =>
      obtain ⟨before, after⟩ := cutAt_close closes
      simp only [closes, before, ok_bind] at skipped
      unfold counter at skipped
      split at skipped
      · rw [ok_bind] at skipped
        split at skipped
        · rw [ok_bind, after] at skipped
          cases skipped
          rfl
        · cases skipped
      · cases skipped

/-- The lines of a text that starts on line `line`, with their numbers. -/
def numberedFrom (line : Nat) (cs : List Char) : Checked (List (Nat × List Char)) :=
  if _empty : cs = [] then .ok []
  else
    match _skipped : skipComment line cs with
    | .error e => .error e
    | .ok (number, rest) => do
      let next ← counter (number + 1)
      let more ← numberedFrom next (Lines.afterLine rest)
      return (number, Lines.dropReturn (Lines.firstLine rest)) :: more
termination_by bytes cs
decreasing_by
  have size := bytes_afterLine _empty
  rw [← skipComment_rest _skipped] at size
  omega

theorem numberedFrom_eq {line : Nat} {cs : List Char} (fits : line + bytes cs < counterEnd) :
    numberedFrom line cs = .ok (Lines.numberedFrom line cs) := by
  fun_induction Lines.numberedFrom line cs with
  | case1 => rw [numberedFrom, dif_pos rfl]
  | case2 line cs some s ih =>
    -- a line takes up the bytes that its number grows by
    have size : s.1 + 1 + bytes (Lines.afterLine s.2) ≤ bytes cs := bytes_afterLine some
    have skips : skipComment line cs = .ok (line + s.1, s.2) := skipComment_eq fits
    rw [numberedFrom, dif_neg some]
    split
    · rename_i skipped
      cases skips.symm.trans skipped
    · rename_i skipped
      cases skips.symm.trans skipped
      rw [counter_eq (by omega), ok_bind, ih (by omega)]
      rfl

def lines (text : String) : Checked (List (Nat × List Char)) := numberedFrom 1 text.toList

/-- Every line of a text is found and numbered. -/
theorem lines_eq {text : String} (fits : bytes text.toList + 1 < counterEnd) :
    lines text = .ok (scriptLines text) := numberedFrom_eq (by omega)

/-! ## Numerals -/

/-- A form of magnitudes that gives none beyond 63 bits. -/
def Bounded (form : List Char → Option (Nat × List Char)) : Prop :=
  ∀ cs m, form cs = some m → (m.1 : Int) ≤ greatestNumber

theorem fitting_bounded {v : Nat} {rest : List Char} {m : Nat × List Char}
    (h : Numeral.fitting v rest = some m) : (m.1 : Int) ≤ greatestNumber := by
  unfold Numeral.fitting at h
  split at h
  · obtain rfl := Option.some.inj h
    show (v : Int) ≤ 9223372036854775807
    omega
  · cases h

theorem digits?_bounded (isDigit : Char → Bool) (base : Nat) :
    Bounded (Numeral.digits? isDigit base) := by
  intro cs m h
  unfold Numeral.digits? at h
  split at h
  · cases h
  · exact fitting_bounded h

theorem magnitude?_bounded : Bounded Numeral.magnitude? := by
  intro cs m h
  unfold Numeral.magnitude? at h
  simp only [Option.orElse_eq_orElse, Option.orElse_eq_or, Option.or_eq_some_iff] at h
  rcases h with hexadecimal | ⟨_, octal | ⟨_, decimal⟩⟩
  · unfold Numeral.hexadecimal? at hexadecimal
    split at hexadecimal
    · exact digits?_bounded _ _ _ m hexadecimal
    · exact digits?_bounded _ _ _ m hexadecimal
    · cases hexadecimal
  · unfold Numeral.octal? at octal
    split at octal
    · exact fitting_bounded octal
    · cases octal
  · exact digits?_bounded _ _ _ m decimal

def withSign (negative : Bool) (magnitude : Int) : Checked Int :=
  if negative then signed (-magnitude) else pure magnitude

theorem withSign_eq (negative : Bool) {magnitude : Int} (least : 0 ≤ magnitude)
    (most : magnitude ≤ greatestNumber) :
    withSign negative magnitude = .ok (if negative then -magnitude else magnitude) := by
  cases negative with
  | false => rfl
  | true =>
    refine signed_eq (inRange_iff.2 ?_)
    have most : magnitude ≤ 9223372036854775807 := most
    omega

/-- Blanks, an optional sign, and a magnitude in one of the given forms. -/
def signed? (form : List Char → Option (Nat × List Char)) (cs : List Char) :
    Checked (Option (Int × List Char)) :=
  let s := Numeral.splitSign (cs.dropWhile Numeral.isBlank)
  match form s.2 with
  | none => pure none
  | some m => do
    let value ← withSign s.1 m.1
    return some (value, m.2)

theorem signed?_eq {form : List Char → Option (Nat × List Char)} (bounded : Bounded form)
    (cs : List Char) : signed? form cs = .ok (Numeral.signed? form cs) := by
  unfold signed? Numeral.signed?
  cases found : form (Numeral.splitSign (cs.dropWhile Numeral.isBlank)).2 with
  | none => simp [found]
  | some m =>
    have signs := withSign_eq (Numeral.splitSign (cs.dropWhile Numeral.isBlank)).1
      (Int.natCast_nonneg m.1) (bounded _ m found)
    simp [found, signs]

def numeral (text : String) : Checked Numeral := do
  match ← signed? Numeral.magnitude? text.toList with
  | some (v, rest) => return ⟨v, rest.isEmpty⟩
  | none => return ⟨0, text.toList.isEmpty⟩

theorem numeral_eq (text : String) : numeral text = .ok (Numeral.read text) := by
  unfold numeral Numeral.read
  rw [signed?_eq magnitude?_bounded, ok_bind]
  cases Numeral.signed? Numeral.magnitude? text.toList <;> rfl

/-- The decimal number at the start of a text. -/
def leadingDecimal (text : String) : Checked Int := do
  match ← signed? Numeral.decimal? text.toList with
  | some (v, _) => return v
  | none => return 0

theorem leadingDecimal_eq (text : String) :
    leadingDecimal text = .ok (Numeral.leadingDecimal text) := by
  have bounded : Bounded Numeral.decimal? := digits?_bounded Char.isDigit 10
  unfold leadingDecimal Numeral.leadingDecimal
  rw [signed?_eq bounded, ok_bind]
  cases Numeral.signed? Numeral.decimal? text.toList <;> rfl

/-! ## Rolls -/

/-- A number below `width`, and the series after the roll. -/
def roll (s : Series) (width : Nat) : Checked (Nat × Series) :=
  if width = 0 then pure (0, s)
  else do
    let number ← remainder s.next.seed.toNat width
    return (number, s.next)

theorem roll_eq (s : Series) (width : Nat) : roll s width = .ok (s.roll width) := by
  unfold roll Series.roll remainder
  split <;> rfl

/-- A number from `lo` to `hi`. How far apart they are is worked out with care for the ends of the
    range; the sum is not. -/
def between (d : Dice) (lo hi : Int) : Checked Dice.Rolled :=
  if hi < lo then pure ⟨lo, d, some (.reversed lo hi)⟩
  else if InRange (hi - lo) ∧ InRange (hi - lo + 1) ∧ hi - lo + 1 ≤ Dice.widest then do
    let (number, action) ← roll d.action (hi - lo + 1).toNat
    return ⟨← signed (lo + number), { d with action }, none⟩
  else do
    let (number, action) ← roll d.action Dice.widest
    return ⟨← signed (lo + number), { d with action }, some (.tooWide lo hi)⟩

theorem between_eq (d : Dice) {lo hi : Int} (low : InRange lo) (high : InRange hi) :
    between d lo hi = .ok (d.between lo hi) := by
  rw [inRange_iff] at low high
  unfold between Dice.between
  split
  · rfl
  · rename_i ordered
    have widest : (Dice.widest : Int) = 4294967295 := rfl
    have narrow : InRange (hi - lo) ∧ InRange (hi - lo + 1) ∧ hi - lo + 1 ≤ Dice.widest ↔
        hi - lo + 1 ≤ Dice.widest := by
      rw [inRange_iff, inRange_iff]
      omega
    simp only [narrow]
    split
    · have width : 0 < (hi - lo + 1).toNat := by omega
      have below := d.action.roll_lt width
      have sum : InRange (lo + ((d.action.roll (hi - lo + 1).toNat).1 : Int)) :=
        inRange_iff.2 (by omega)
      rw [roll_eq, ok_bind, signed_eq sum]
      rfl
    · have width : 0 < Dice.widest := by decide
      have below := d.action.roll_lt width
      have sum : InRange (lo + ((d.action.roll Dice.widest).1 : Int)) := inRange_iff.2 (by omega)
      rw [roll_eq, ok_bind, signed_eq sum]
      rfl

/-! ## Words -/

/-- The bound whose text starts with the sign and digits given. -/
def boundOf (second negative : Bool) (digits rest : List Char) : Checked Bound := do
  let magnitude : Int := Numeral.valueOf 10 digits
  let fits := !digits.isEmpty && decide (magnitude ≤ greatestNumber)
  let taken : Int := if fits then magnitude else if digits.isEmpty then 0 else greatestNumber
  let value ← withSign negative taken
  return ⟨value, if fits then none else some ⟨second, negative, String.ofList digits, value⟩, rest⟩

theorem boundOf_eq (second negative : Bool) (digits rest : List Char) :
    boundOf second negative digits rest = .ok (Bound.ofDigits second negative digits rest) ∧
      InRange (Bound.ofDigits second negative digits rest).value := by
  let magnitude : Int := Numeral.valueOf 10 digits
  let fits := !digits.isEmpty && decide (magnitude ≤ greatestNumber)
  let taken : Int := if fits then magnitude else if digits.isEmpty then 0 else greatestNumber
  have small : 0 ≤ taken ∧ taken ≤ greatestNumber := by
    show 0 ≤ (if fits = true then magnitude else _) ∧ (if fits = true then magnitude else _) ≤ _
    split
    · rename_i fits
      exact ⟨Int.natCast_nonneg _, of_decide_eq_true (Bool.and_eq_true_iff.1 fits).2⟩
    · split <;> decide
  constructor
  · show (withSign negative taken >>= _) = _
    rw [withSign_eq negative small.1 small.2]
    rfl
  · have most : taken ≤ 9223372036854775807 := small.2
    show InRange (if negative then -taken else taken)
    rw [inRange_iff]
    cases negative with
    | false =>
      show _ ≤ taken ∧ taken ≤ _
      omega
    | true =>
      show _ ≤ -taken ∧ -taken ≤ _
      omega

/-- The next bound of the line, wherever it starts. -/
def bound (second : Bool) (cs : List Char) : Checked (Option Bound) := do
  let (_, cs) ← takeWhile (!Bound.starts ·) cs
  match cs with
  | [] => return none
  | '-' :: more => do
    let (digits, rest) ← takeWhile Char.isDigit (← bump ('-' :: more))
    some <$> boundOf second true digits rest
  | more => do
    let (digits, rest) ← takeWhile Char.isDigit more
    some <$> boundOf second false digits rest

theorem bound_eq (second : Bool) (cs : List Char) :
    bound second cs = .ok (Bound.read? second cs) := by
  unfold bound Bound.read?
  rw [takeWhile_eq, ok_bind]
  simp only
  generalize cs.dropWhile (!Bound.starts ·) = rest
  split
  · rfl
  · simp only [bump_cons, takeWhile_eq, ok_bind, (boundOf_eq _ _ _ _).1, ok_map]
  · simp only [takeWhile_eq, ok_bind, (boundOf_eq _ _ _ _).1, ok_map]

theorem inRange_of_read? {second : Bool} {cs : List Char} {b : Bound}
    (h : Bound.read? second cs = some b) : InRange b.value := by
  unfold Bound.read? at h
  split at h
  · cases h
  all_goals
    obtain rfl := Option.some.inj h
    exact (boundOf_eq _ _ _ _).2

/-- The two bounds after `RANDOM`, and the roll between them. -/
def random (cs : List Char) (dice : Dice) : Checked Lexeme := do
  match ← bound false cs with
  | none => return .plain (.error (.missingBound false)) [] dice
  | some lo =>
    match ← bound true lo.rest with
    | none => return ⟨.error (.missingBound true), [], dice, lo.odd.toList, none⟩
    | some hi =>
      let r ← between dice lo.value hi.value
      return ⟨.ok (.ofRoll r.value), hi.rest, r.dice, lo.odd.toList ++ hi.odd.toList, r.caution⟩

theorem random_eq (cs : List Char) (dice : Dice) :
    random cs dice = .ok (Lexeme.random cs dice) := by
  unfold random Lexeme.random
  rw [bound_eq, ok_bind]
  cases first : Bound.read? false cs with
  | none => rfl
  | some lo =>
    simp only [bound_eq, ok_bind]
    cases second : Bound.read? true lo.rest with
    | none => rfl
    | some hi =>
      simp only [between_eq dice (inRange_of_read? first) (inRange_of_read? second), ok_bind]
      rfl

def lexeme (first : Char) (more : List Char) (dice : Dice) : Checked Lexeme :=
  if first.isAlpha then do
    let (word, rest) ← takeWhile Word.continuesName (first :: more)
    let word := word.map Char.toUpper
    if word = "RANDOM".toList then random rest dice
    else return .plain (.ok ⟨.name, String.ofList word⟩) rest dice
  else if first.isDigit then number [] (first :: more)
  else do
    let more ← bump (first :: more)
    if first = '-' then number ['-'] more
    else if first = '"' then do
      let (word, rest) ← takeWhile (· != '"') more
      match rest with
      | [] => return .plain (.error .unterminatedText) [] dice
      | quote :: rest =>
        return .plain (.ok ⟨.text, String.ofList word⟩) (← bump (quote :: rest)) dice
    else
      match more with
      | '=' :: rest =>
        return .plain (.ok ⟨.operator, String.ofList [first, '=']⟩) (← bump ('=' :: rest)) dice
      | _ => return Lexeme.operator first more dice
where
  /-- The digits of a number, after its sign. -/
  number (sign cs : List Char) : Checked Lexeme := do
    let (digits, rest) ← takeWhile Char.isDigit cs
    if digits.isEmpty then return .plain (.error .danglingMinus) rest dice
    else return .plain (.ok ⟨.number, String.ofList (sign ++ digits)⟩) rest dice

theorem lexeme_eq (first : Char) (more : List Char) (dice : Dice) :
    lexeme first more dice = .ok (Lexeme.read first more dice) := by
  have number (sign cs : List Char) :
      lexeme.number dice sign cs = .ok (Lexeme.number sign cs dice) := by
    unfold lexeme.number Lexeme.number
    rw [takeWhile_eq, ok_bind]
    simp only
    split <;> rfl
  unfold lexeme Lexeme.read
  simp only [takeWhile_eq, bump_cons, ok_bind, number, random_eq]
  split
  · unfold Lexeme.name
    simp only
    split <;> rfl
  · split
    · rfl
    · split
      · rfl
      · split
        · unfold Lexeme.text
          cases more.dropWhile (· != '"') <;> rfl
        · split <;> rfl

def nextWord (c : Cursor) (dice : Dice) : Checked Scanned := do
  let (_, rest) ← takeWhile (!Word.starts ·) c.rest
  match rest with
  | [] => return ⟨.ok none, ⟨[], true⟩, dice, [], none⟩
  | first :: more =>
    let l ← lexeme first more dice
    return ⟨l.word.map some, ⟨l.rest, c.atEnd || Cursor.meetsEnd l.word l.rest⟩, l.dice, l.odd,
      l.caution⟩

theorem nextWord_eq (c : Cursor) (dice : Dice) : nextWord c dice = .ok (c.next dice) := by
  unfold nextWord Cursor.next
  rw [takeWhile_eq, ok_bind]
  simp only
  cases c.rest.dropWhile (!Word.starts ·) with
  | nil => rfl
  | cons first more =>
    simp only [lexeme_eq, ok_bind]
    rfl

/-! ## Script lines -/

/-- The number an argument reads as, and what is said about it. -/
def argument (a : Argument) (text : String) : Checked (Int × List Aside) :=
  match a with
  | .word => pure (0, [])
  | .number => do
    let n ← numeral text
    return (n.value, if n.complete then [] else [.remark (.oddNumber text n.value)])

theorem argument_eq (a : Argument) (text : String) : argument a text = .ok (a.value text) := by
  cases a with
  | word => rfl
  | number =>
    unfold argument
    rw [numeral_eq]
    rfl

def takeArguments : List Argument → Cursor → Dice → Checked (DicedReading (List (String × Int)))
  | [], _, dice => pure ⟨.ok [], dice, []⟩
  | a :: rest, c, dice =>
    if c.atEnd then pure ⟨.ok [], dice, []⟩
    else do
      let s ← nextWord c dice
      match s.word with
      | .error f => return ⟨.error (.scan f), s.dice, s.asides⟩
      | .ok none => return ⟨.ok [], s.dice, s.asides⟩
      | .ok (some w) =>
        if w.text.isEmpty then return ⟨.ok [], s.dice, s.asides⟩
        else do
          let v ← argument a w.text
          let r ← takeArguments rest s.cursor s.dice
          return ⟨r.outcome.map ((w.text, v.1) :: ·), r.dice, s.asides ++ v.2 ++ r.asides⟩

theorem takeArguments_eq : ∀ (arguments : List Argument) (c : Cursor) (dice : Dice),
    takeArguments arguments c dice = .ok (ScriptLine.takeArguments arguments c dice)
  | [], _, _ => rfl
  | a :: rest, c, dice => by
    unfold takeArguments ScriptLine.takeArguments
    split
    · rfl
    · simp only [nextWord_eq, ok_bind, argument_eq, takeArguments_eq rest]
      cases (c.next dice).word with
      | error f => rfl
      | ok w? =>
        cases w? with
        | none => rfl
        | some w =>
          simp only
          split <;> rfl

def readLine (levelVersion : Int) (pass : Pass) (text : List Char) (dice : Dice) :
    Checked (DicedReading (Option ScriptLine)) := do
  let s ← nextWord (.ofLine text) dice
  match s.word with
  | .error f => return ⟨.error (.scan f), s.dice, s.asides⟩
  | .ok none => return ⟨.ok none, s.dice, s.asides⟩
  | .ok (some first) =>
    match ScriptLine.keyword? levelVersion first with
    | none =>
      if pass = .full ∧ ScriptLine.looksLikeKeyword first then
        return ⟨.error (.invalidCommand first.text levelVersion), s.dice, s.asides⟩
      else return ⟨.ok none, s.dice, s.asides⟩
    | some u =>
      if u.verb = .rem ∨ !pass.takes u.verb then return ⟨.ok none, s.dice, s.asides⟩
      else do
        let r ← takeArguments (u.arguments.take u.argumentCount) s.cursor s.dice
        return ⟨r.outcome.bind fun arguments => (ScriptLine.withArguments u arguments).map some,
          r.dice, s.asides ++ r.asides⟩

/-- No line makes reading crash. -/
theorem readLine_eq (levelVersion : Int) (pass : Pass) (text : List Char) (dice : Dice) :
    readLine levelVersion pass text dice = .ok (ScriptLine.read levelVersion pass text dice) := by
  unfold readLine ScriptLine.read
  simp only [nextWord_eq, ok_bind, takeArguments_eq]
  cases ((Cursor.ofLine text).next dice).word with
  | error f => rfl
  | ok first? =>
    cases first? with
    | none => rfl
    | some first =>
      simp only
      cases ScriptLine.keyword? levelVersion first with
      | none =>
        simp only
        split <;> rfl
      | some u =>
        simp only
        split <;> rfl

end Machine

end DungeonScript

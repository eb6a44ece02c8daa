import DungeonScript.Word
import Mathlib.Data.List.TakeWhile

/-!
Scanning. A cursor is given its line up to the line end. A scanner is given the text as it stands,
with whatever follows, and has to stop by itself: wherever `Cursor.next` runs on to the end of its
line, `Cursor.scan` asks of each character whether the line ends with it. The two come to the same:
of what `scan` leaves, the part that belongs to the line (`Word.visible`) is what `next` leaves, and
all else is equal (`next_visible`).

So nothing that follows the line end is ever told. A call that finds something, be it a fault,
passes over a character of the line (`passes_scan`). Hence no more calls find something than there
are characters, and after one that finds nothing the others do not either (`scan_line`).
-/

namespace DungeonScript

namespace Word

/-! ## The line within a text -/

def visible (cs : List Char) : List Char := cs.takeWhile (!isLineEnd ·)

/-- The first character, if it belongs to the line. -/
def peek? : List Char → Option Char
  | [] => none
  | c :: _ => if isLineEnd c then none else some c

/-- A test that is asked of characters of the line alone. -/
def onLine (p : Char → Bool) (c : Char) : Bool := !isLineEnd c && p c

theorem visible_of_isLineEnd {c : Char} (ends : isLineEnd c = true) (cs : List Char) :
    visible (c :: cs) = [] := by
  unfold visible
  rw [List.takeWhile_cons_of_neg (by rw [ends]; decide)]

theorem visible_of_not_isLineEnd {c : Char} (inside : isLineEnd c = false) (cs : List Char) :
    visible (c :: cs) = c :: visible cs := by
  unfold visible
  rw [List.takeWhile_cons_of_pos (by rw [inside]; decide)]

/-- Either the line is over, or a character of it stands first. -/
theorem peek?_cases (cs : List Char) :
    (peek? cs = none ∧ visible cs = []) ∨
      ∃ c more, cs = c :: more ∧ isLineEnd c = false ∧ peek? cs = some c ∧
        visible cs = c :: visible more := by
  cases cs with
  | nil => exact .inl ⟨rfl, rfl⟩
  | cons c more =>
    cases ends : isLineEnd c with
    | true => exact .inl ⟨if_pos ends, visible_of_isLineEnd ends more⟩
    | false =>
      have peeked : peek? (c :: more) = some c := by
        rw [peek?, ends]
        rfl
      exact .inr ⟨c, more, rfl, ends, peeked, visible_of_not_isLineEnd ends more⟩

/-- A test that no line end passes needs not be kept to the line. -/
theorem onLine_eq {p : Char → Bool}
    (stops : p '\r' = false ∧ p '\n' = false ∧ p '\x00' = false) : onLine p = p := by
  funext c
  unfold onLine
  cases ends : isLineEnd c with
  | false => rfl
  | true =>
    simp only [isLineEnd, Bool.or_eq_true, decide_eq_true_eq, or_assoc] at ends
    rcases ends with rfl | rfl | rfl
    · exact stops.1.symm
    · exact stops.2.1.symm
    · exact stops.2.2.symm

variable (p : Char → Bool) (cs : List Char)

theorem visible_dropWhile : visible (cs.dropWhile (onLine p)) = (visible cs).dropWhile p := by
  induction cs with
  | nil => rfl
  | cons c cs ih =>
    cases ends : isLineEnd c with
    | true =>
      have stays : ¬onLine p c = true := by simp [onLine, ends]
      rw [List.dropWhile_cons_of_neg stays, visible_of_isLineEnd ends]
      rfl
    | false =>
      have same : onLine p c = p c := by simp [onLine, ends]
      rw [visible_of_not_isLineEnd ends, List.dropWhile_cons, List.dropWhile_cons, same]
      split
      · exact ih
      · exact visible_of_not_isLineEnd ends cs

theorem takeWhile_visible : (visible cs).takeWhile p = cs.takeWhile (onLine p) := by
  induction cs with
  | nil => rfl
  | cons c cs ih =>
    cases ends : isLineEnd c with
    | true =>
      have stays : ¬onLine p c = true := by simp [onLine, ends]
      rw [List.takeWhile_cons_of_neg stays, visible_of_isLineEnd ends]
      rfl
    | false =>
      have same : onLine p c = p c := by simp [onLine, ends]
      rw [visible_of_not_isLineEnd ends, List.takeWhile_cons, List.takeWhile_cons, same, ih]

/-- `rest` is left of a text when no more of it than some of its line is passed over. -/
def Passes (cs rest : List Char) : Prop :=
  ∃ passed, (∀ c ∈ passed, isLineEnd c = false) ∧ cs = passed ++ rest

theorem passes_refl : Passes cs cs := ⟨[], nofun, rfl⟩

theorem passes_dropWhile : Passes cs (cs.dropWhile (onLine p)) := by
  refine ⟨cs.takeWhile (onLine p), ?_, List.takeWhile_append_dropWhile.symm⟩
  intro c taken
  have test := List.mem_takeWhile_imp taken
  unfold onLine at test
  rw [Bool.and_eq_true, Bool.not_eq_true'] at test
  exact test.1

variable {p cs}

theorem passes_cons {c : Char} (inside : isLineEnd c = false) : Passes (c :: cs) cs :=
  ⟨[c], List.forall_mem_singleton.2 inside, rfl⟩

theorem Passes.trans {a b c : List Char} (first : Passes a b) (later : Passes b c) :
    Passes a c := by
  obtain ⟨before, inside, rfl⟩ := first
  obtain ⟨after, inside', rfl⟩ := later
  refine ⟨before ++ after, ?_, (List.append_assoc ..).symm⟩
  exact List.forall_mem_append.2 ⟨inside, inside'⟩

end Word

open Word

/-! ## Scanning a text -/

namespace Bound

/-- The next bound of the line, or the text from the end of the line on. -/
def scan (second : Bool) (cs : List Char) : Except (List Char) Bound :=
  let here := cs.dropWhile (onLine (!starts ·))
  match peek? here with
  | none => .error here
  | some '-' =>
    .ok (ofDigits second true (here.tail.takeWhile Char.isDigit) (here.tail.dropWhile Char.isDigit))
  | some _ =>
    .ok (ofDigits second false (here.takeWhile Char.isDigit) (here.dropWhile Char.isDigit))

end Bound

namespace Lexeme

/-- The two bounds after `RANDOM`, and the roll between them. -/
def scanRandom (cs : List Char) (dice : Dice) : Lexeme :=
  match Bound.scan false cs with
  | .error rest => plain (.error (.missingBound false)) rest dice
  | .ok lo =>
    match Bound.scan true lo.rest with
    | .error rest => ⟨.error (.missingBound true), rest, dice, lo.odd.toList, none⟩
    | .ok hi =>
      let r := dice.between lo.value hi.value
      ⟨.ok (.ofRoll r.value), hi.rest, r.dice, lo.odd.toList ++ hi.odd.toList, r.caution⟩

/-- A name, or a roll when the name is `RANDOM`. -/
def scanName (cs : List Char) (dice : Dice) : Lexeme :=
  let word := (cs.takeWhile Word.continuesName).map Char.toUpper
  let rest := cs.dropWhile Word.continuesName
  if word = "RANDOM".toList then scanRandom rest dice
  else plain (.ok ⟨.name, String.ofList word⟩) rest dice

def scanText (cs : List Char) (dice : Dice) : Lexeme :=
  let here := cs.dropWhile (onLine (· != '"'))
  if peek? here = some '"' then
    plain (.ok ⟨.text, String.ofList (cs.takeWhile (onLine (· != '"')))⟩) here.tail dice
  else plain (.error .unterminatedText) here dice

def scan (first : Char) (more : List Char) (dice : Dice) : Lexeme :=
  if first.isAlpha then scanName (first :: more) dice
  else if first.isDigit then number [] (first :: more) dice
  else if first = '-' then number ['-'] more dice
  else if first = '"' then scanText more dice
  else operator first more dice

end Lexeme

/-- The next word of the line that the text of the cursor starts with. -/
def Cursor.scan (c : Cursor) (dice : Dice) : Scanned :=
  let here := c.rest.dropWhile (onLine (!Word.starts ·))
  match peek? here with
  | none => ⟨.ok none, ⟨here, true⟩, dice, [], none⟩
  | some first =>
    let l := Lexeme.scan first here.tail dice
    ⟨l.word.map some, ⟨l.rest, c.atEnd || meetsEnd l.word (visible l.rest)⟩, l.dice, l.odd,
      l.caution⟩

/-! ## What it sees -/

def Bound.visible (b : Bound) : Bound := { b with rest := Word.visible b.rest }

def Lexeme.visible (l : Lexeme) : Lexeme := { l with rest := Word.visible l.rest }

def Cursor.visible (c : Cursor) : Cursor := { c with rest := Word.visible c.rest }

/-- What was read, with what is left of the line. -/
def Scanned.visible (s : Scanned) : Scanned := { s with cursor := s.cursor.visible }

theorem onLine_isDigit : onLine Char.isDigit = Char.isDigit := onLine_eq (by decide)

theorem onLine_continuesName : onLine Word.continuesName = Word.continuesName :=
  onLine_eq (by decide)

theorem Bound.ofDigits_visible (second negative : Bool) (cs : List Char) :
    ofDigits second negative ((Word.visible cs).takeWhile Char.isDigit)
        ((Word.visible cs).dropWhile Char.isDigit) =
      (ofDigits second negative (cs.takeWhile Char.isDigit)
        (cs.dropWhile Char.isDigit)).visible := by
  rw [takeWhile_visible, ← visible_dropWhile, onLine_isDigit]
  rfl

theorem Bound.read?_visible (second : Bool) (cs : List Char) :
    read? second (Word.visible cs) = (scan second cs).toOption.map Bound.visible := by
  unfold read? scan
  rw [← visible_dropWhile]
  generalize cs.dropWhile (onLine (!starts ·)) = here
  rcases peek?_cases here with ⟨ended, nothing⟩ | ⟨c, more, rfl, _, peeked, seen⟩
  · simp only [ended, nothing]
    rfl
  · have unsigned := ofDigits_visible second false (c :: more)
    simp only [peeked, seen] at unsigned ⊢
    by_cases sign : c = '-'
    · subst sign
      exact congrArg some (ofDigits_visible second true more)
    · split
      · rename_i none
        cases none
      · rename_i minus
        exact absurd (List.cons.inj minus).1 sign
      · split
        · rename_i none
          cases none
        · rename_i minus
          exact absurd (Option.some.inj minus) sign
        · exact congrArg some unsigned

theorem Bound.scan_error {second : Bool} {cs rest : List Char}
    (h : scan second cs = .error rest) : Passes cs rest ∧ Word.visible rest = [] := by
  have skipped := passes_dropWhile (!starts ·) cs
  unfold scan at h
  generalize cs.dropWhile (onLine (!starts ·)) = here at h skipped
  rcases peek?_cases here with ⟨ended, nothing⟩ | ⟨c, more, rfl, _, peeked, _⟩
  · simp only [ended] at h
    obtain rfl := Except.error.inj h
    exact ⟨skipped, nothing⟩
  · simp only [peeked] at h
    split at h
    · rename_i none
      cases none
    · cases h
    · cases h

theorem Bound.scan_ok {second : Bool} {cs : List Char} {b : Bound}
    (h : scan second cs = .ok b) : Passes cs b.rest := by
  have skipped := passes_dropWhile (!starts ·) cs
  have digits (cs : List Char) : Passes cs (cs.dropWhile Char.isDigit) := by
    have passed := passes_dropWhile Char.isDigit cs
    rwa [onLine_isDigit] at passed
  unfold scan at h
  generalize cs.dropWhile (onLine (!starts ·)) = here at h skipped
  rcases peek?_cases here with ⟨ended, _⟩ | ⟨c, more, rfl, inside, peeked, _⟩
  · simp only [ended] at h
    cases h
  · simp only [peeked] at h
    split at h
    · rename_i none
      cases none
    · obtain rfl := Except.ok.inj h
      exact (skipped.trans (passes_cons inside)).trans (digits more)
    · obtain rfl := Except.ok.inj h
      exact skipped.trans (digits (c :: more))

namespace Lexeme

variable (d : Dice)

/-! ## The same words -/

theorem random_visible (cs : List Char) :
    random (Word.visible cs) d = (scanRandom cs d).visible := by
  unfold random scanRandom
  rw [Bound.read?_visible]
  cases first : Bound.scan false cs with
  | error rest =>
    have ended : Word.visible rest = [] := (Bound.scan_error first).2
    simp only [Except.toOption, Option.map_none, visible, plain, ended]
  | ok lo =>
    have second : Bound.read? true lo.visible.rest = _ := Bound.read?_visible true lo.rest
    simp only [Except.toOption, Option.map_some, second]
    cases second : Bound.scan true lo.rest with
    | error rest =>
      have ended : Word.visible rest = [] := (Bound.scan_error second).2
      simp only [Option.map_none, visible, ended]
      rfl
    | ok hi => rfl

theorem name_visible (cs : List Char) : name (Word.visible cs) d = (scanName cs d).visible := by
  unfold name scanName
  rw [takeWhile_visible, ← visible_dropWhile, onLine_continuesName]
  simp only
  split
  · exact random_visible d _
  · rfl

theorem number_visible (sign cs : List Char) :
    number sign (Word.visible cs) d = (number sign cs d).visible := by
  unfold number
  rw [takeWhile_visible, ← visible_dropWhile, onLine_isDigit]
  simp only
  split <;> rfl

theorem text_visible (cs : List Char) : text (Word.visible cs) d = (scanText cs d).visible := by
  have stopped := List.head?_dropWhile_not (onLine (· != '"')) cs
  unfold text scanText
  rw [takeWhile_visible, ← visible_dropWhile]
  generalize cs.dropWhile (onLine (· != '"')) = here at stopped
  rcases peek?_cases here with ⟨ended, nothing⟩ | ⟨c, more, rfl, inside, _, _⟩
  · simp only [ended, nothing, reduceCtorEq, if_false, visible, plain]
  · obtain rfl : c = '"' := by
      simpa only [List.head?_cons, onLine, inside, Bool.not_false, Bool.true_and,
        bne_eq_false_iff_eq] using stopped
    rfl

theorem operator_of_ne {cs : List Char} (other : ∀ rest, cs ≠ '=' :: rest) (sign : Char) :
    operator sign cs d =
      if sign = '!' ∨ sign = '=' then plain (.error (.incompleteOperator sign)) cs d
      else plain (.ok ⟨.operator, String.singleton sign⟩) cs d := by
  unfold operator
  split
  · rename_i rest
    exact absurd rfl (other rest)
  · rfl

theorem operator_visible (sign : Char) (cs : List Char) :
    operator sign (Word.visible cs) d = (operator sign cs d).visible := by
  by_cases equals : ∃ rest, cs = '=' :: rest
  · obtain ⟨rest, rfl⟩ := equals
    rfl
  · have other : ∀ rest, cs ≠ '=' :: rest := fun rest same => equals ⟨rest, same⟩
    have seen : ∀ rest, Word.visible cs ≠ '=' :: rest := by
      intro rest same
      rcases peek?_cases cs with ⟨_, nothing⟩ | ⟨c, more, rfl, _, _, whole⟩
      · cases nothing.symm.trans same
      · cases whole.symm.trans same
        exact other more rfl
    rw [operator_of_ne d other, operator_of_ne d seen]
    split <;> rfl

theorem read_visible {first : Char} (inside : isLineEnd first = false) (more : List Char) :
    read first (Word.visible more) d = (scan first more d).visible := by
  unfold read scan
  have whole := visible_of_not_isLineEnd inside more
  rw [← whole, name_visible, number_visible, number_visible, text_visible, operator_visible]
  split
  · rfl
  · split
    · rfl
    · split
      · rfl
      · split <;> rfl

/-! ## What is passed over -/

variable {d}

theorem passes_random (cs : List Char) : Passes cs (scanRandom cs d).rest := by
  unfold scanRandom
  cases first : Bound.scan false cs with
  | error rest => exact (Bound.scan_error first).1
  | ok lo =>
    simp only
    cases second : Bound.scan true lo.rest with
    | error rest => exact (Bound.scan_ok first).trans (Bound.scan_error second).1
    | ok hi => exact (Bound.scan_ok first).trans (Bound.scan_ok second)

theorem passes_name (cs : List Char) :
    Passes (cs.dropWhile Word.continuesName) (scanName cs d).rest := by
  unfold scanName
  simp only
  split
  · exact passes_random _
  · exact passes_refl _

theorem number_rest (sign cs : List Char) :
    (number sign cs d).rest = cs.dropWhile Char.isDigit := by
  unfold number
  simp only
  split <;> rfl

theorem passes_text (cs : List Char) : Passes cs (scanText cs d).rest := by
  have inside := passes_dropWhile (· != '"') cs
  unfold scanText
  simp only
  generalize cs.dropWhile (onLine (· != '"')) = here at inside
  rcases peek?_cases here with ⟨ended, _⟩ | ⟨c, more, rfl, within, _, _⟩
  · rw [ended, if_neg (by decide)]
    exact inside
  · split
    · exact inside.trans (passes_cons within)
    · exact inside

theorem passes_operator (sign : Char) (cs : List Char) : Passes cs (operator sign cs d).rest := by
  unfold operator
  split
  · exact passes_cons (by decide)
  · split <;> exact passes_refl _

theorem passes_scan (first : Char) (more : List Char) : Passes more (scan first more d).rest := by
  have names := passes_dropWhile Word.continuesName more
  have digits := passes_dropWhile Char.isDigit more
  rw [onLine_continuesName] at names
  rw [onLine_isDigit] at digits
  unfold scan
  split
  · rename_i alpha
    have goesOn : Word.continuesName first = true := by
      simp only [Word.continuesName, Char.isAlphanum, alpha, Bool.true_or]
    have named := passes_name (d := d) (first :: more)
    rw [List.dropWhile_cons_of_pos goesOn] at named
    exact names.trans named
  · split
    · rename_i digit
      rw [number_rest, List.dropWhile_cons_of_pos digit]
      exact digits
    · split
      · rw [number_rest]
        exact digits
      · split
        · exact passes_text more
        · exact passes_operator first more

end Lexeme

namespace Cursor

/-! ## Calls -/

theorem next_visible (c : Cursor) (d : Dice) : c.visible.next d = (c.scan d).visible := by
  unfold next scan
  show (match (Word.visible c.rest).dropWhile _ with | [] => _ | _ :: _ => _) = _
  rw [← visible_dropWhile]
  generalize c.rest.dropWhile (onLine (!Word.starts ·)) = here
  rcases peek?_cases here with ⟨ended, nothing⟩ | ⟨first, more, rfl, inside, peeked, seen⟩
  · simp only [ended, nothing, Scanned.visible, visible]
  · simp only [peeked, seen, Lexeme.read_visible d inside]
    rfl

/-- A call that finds something passes over a character of the line. -/
theorem passes_scan {c : Cursor} {d : Dice} (found : (c.scan d).word ≠ .ok none) :
    ∃ passed ≠ [], (∀ c ∈ passed, isLineEnd c = false) ∧
      c.rest = passed ++ (c.scan d).cursor.rest := by
  have skipped := passes_dropWhile (!Word.starts ·) c.rest
  unfold scan at found ⊢
  generalize c.rest.dropWhile (onLine (!Word.starts ·)) = here at skipped found
  rcases peek?_cases here with ⟨ended, _⟩ | ⟨first, more, rfl, inside, peeked, _⟩
  · simp only [ended] at found
    exact absurd rfl found
  · simp only [peeked]
    obtain ⟨before, within, whole⟩ := skipped
    obtain ⟨word, within', rest⟩ := Lexeme.passes_scan (d := d) first more
    have some : before ++ first :: word ≠ [] :=
      List.append_ne_nil_of_right_ne_nil _ (List.cons_ne_nil _ _)
    refine ⟨before ++ first :: word, some, ?_, ?_⟩
    · exact List.forall_mem_append.2 ⟨within, List.forall_mem_cons.2 ⟨inside, within'⟩⟩
    · rw [whole, List.append_assoc, List.cons_append]
      exact congrArg (before ++ first :: ·) rest

theorem next_of_nothing {c : Cursor} {d : Dice} (nothing : (c.next d).word = .ok none) :
    c.next d = ⟨.ok none, ⟨[], true⟩, d, [], none⟩ := by
  unfold next at nothing ⊢
  split
  · rfl
  · rename_i first more found
    simp only [found] at nothing
    cases word : (Lexeme.read first more d).word with
    | error f =>
      rw [word] at nothing
      cases nothing
    | ok w =>
      rw [word] at nothing
      cases nothing

/-- How far a reader has come after `k` calls. -/
def reached (read : Cursor → Dice → Scanned) : Nat → Cursor → Dice → Cursor × Dice
  | 0, c, d => (c, d)
  | k + 1, c, d => reached read k (read c d).cursor (read c d).dice

/-- What a reader finds with the call that follows `k` others. -/
def call (read : Cursor → Dice → Scanned) (k : Nat) (c : Cursor) (d : Dice) : Scanned :=
  read (reached read k c d).1 (reached read k c d).2

theorem reached_visible (k : Nat) (c : Cursor) (d : Dice) :
    reached next k c.visible d = ((reached scan k c d).1.visible, (reached scan k c d).2) := by
  induction k generalizing c d with
  | zero => rfl
  | succ k ih =>
    show reached next k (c.visible.next d).cursor (c.visible.next d).dice = _
    rw [next_visible]
    exact ih (c.scan d).cursor (c.scan d).dice

theorem call_visible (k : Nat) (c : Cursor) (d : Dice) :
    call next k c.visible d = (call scan k c d).visible := by
  unfold call
  rw [reached_visible]
  exact next_visible _ _

theorem call_of_nothing {c : Cursor} {d : Dice} (nothing : (c.next d).word = .ok none) (k : Nat) :
    call next k c d = ⟨.ok none, ⟨[], true⟩, d, [], none⟩ := by
  induction k generalizing c with
  | zero => exact next_of_nothing nothing
  | succ k ih =>
    show call next k (c.next d).cursor (c.next d).dice = _
    rw [next_of_nothing nothing]
    exact ih rfl

/-- The first `m` calls find something. All others find nothing and leave the dice alone. -/
def FindsFirst (read : Cursor → Dice → Scanned) (m : Nat) (c : Cursor) (d : Dice) : Prop :=
  ∀ k, ((call read k c d).word = .ok none ↔ m ≤ k) ∧
    (m ≤ k → (call read k c d).dice = (reached read m c d).2)

theorem FindsFirst.succ {read : Cursor → Dice → Scanned} {m : Nat} {c : Cursor} {d : Dice}
    (something : (read c d).word ≠ .ok none)
    (later : FindsFirst read m (read c d).cursor (read c d).dice) :
    FindsFirst read (m + 1) c d := by
  intro k
  cases k with
  | zero => exact ⟨⟨fun none => absurd none something, nofun⟩, nofun⟩
  | succ k =>
    have calls := later k
    rw [Nat.succ_le_succ_iff]
    exact calls

/-- No more calls find something than there are characters on the line. -/
theorem exists_findsFirst (c : Cursor) (d : Dice) :
    ∃ m ≤ c.rest.length, FindsFirst next m c d := by
  have found {c : Cursor} {d : Dice} (something : (c.next d).word ≠ .ok none)
      (later : ∃ m ≤ (c.next d).cursor.rest.length,
        FindsFirst next m (c.next d).cursor (c.next d).dice) :
      ∃ m ≤ c.rest.length, FindsFirst next m c d := by
    obtain ⟨m, most, calls⟩ := later
    exact ⟨m + 1, Nat.lt_of_le_of_lt most (next_rest_length something), calls.succ something⟩
  -- the calls of `scanAll` are all that find something, and one more
  fun_induction scanAll c d with
  | case1 c d nothing =>
    refine ⟨0, Nat.zero_le _, fun k => ?_⟩
    rw [call_of_nothing nothing]
    exact ⟨⟨fun _ => Nat.zero_le k, fun _ => rfl⟩, fun _ => rfl⟩
  | case2 c d w word ih => exact found (by rw [word]; nofun) ih
  | case3 c d f fault ih => exact found (by rw [fault]; nofun) ih

end Cursor

def Scanned.seen (s : Scanned) :
    Except ScanFault (Option Word) × Bool × Dice × List OddBound × Option Caution :=
  (s.word, s.cursor.atEnd, s.dice, s.odd, s.caution)

open Cursor in
/-- **What calls do on a line.** Call the scanner on a text again and again, for a word or for what
    is wrong with it. What it finds is what a cursor finds that has the first line alone. Each call
    that finds something passes over a character or more, and over none that ends the line. So there
    is a number of calls, no greater than the number of characters before the line end, up to which
    all find something, and from which on none does or moves the dice. And on all texts with the
    same first line each call tells the same. -/
theorem scan_line (text : List Char) (dice : Dice) :
    let start : Cursor := ⟨text, false⟩
    (∀ k, call next k (ofLine text) dice = (call scan k start dice).visible) ∧
    (∀ k, (call scan k start dice).word ≠ .ok none →
      ∃ passed ≠ [], (∀ c ∈ passed, isLineEnd c = false) ∧
        (reached scan k start dice).1.rest = passed ++ (call scan k start dice).cursor.rest) ∧
    (∃ m ≤ (Word.visible text).length, ∀ k,
      ((call scan k start dice).word = .ok none ↔ m ≤ k) ∧
      (m ≤ k → (call scan k start dice).dice = (reached scan m start dice).2)) ∧
    ∀ other, Word.visible other = Word.visible text → ∀ k,
      (call scan k ⟨other, false⟩ dice).seen = (call scan k start dice).seen := by
  intro start
  have same (k : Nat) : call next k (ofLine text) dice = (call scan k start dice).visible :=
    call_visible k start dice
  refine ⟨same, fun k found => passes_scan found, ?_, fun other line k => ?_⟩
  · obtain ⟨m, most, calls⟩ := exists_findsFirst (ofLine text) dice
    have there : reached next m (ofLine text) dice =
        ((reached scan m start dice).1.visible, (reached scan m start dice).2) :=
      reached_visible m start dice
    refine ⟨m, most, fun k => ?_⟩
    have call := calls k
    rw [same, there] at call
    exact call
  · have visible : call next k (ofLine other) dice = (call scan k ⟨other, false⟩ dice).visible :=
      call_visible k ⟨other, false⟩ dice
    have cut : ofLine other = ofLine text := congrArg (Cursor.mk · false) line
    rw [cut, same] at visible
    exact (congrArg Scanned.seen visible).symm

open Cursor in
/-- A quote that is closed on the next line is not closed, and nothing is found after it. -/
theorem scan_line_of_open_quote :
    let start : Cursor := ⟨"SAY(\"one\ntwo\",3)".toList, false⟩
    (call scan 0 start default).word = .ok (some ⟨.name, "SAY"⟩) ∧
      (call scan 1 start default).word = .error .unterminatedText ∧
      ∀ k, 2 ≤ k → (call scan k start default).word = .ok none := by
  intro start
  obtain ⟨_, _, ⟨m, _, calls⟩, _⟩ := scan_line start.rest default
  have nothing : (call scan 2 start default).word = .ok none := by decide
  have most : m ≤ 2 := (calls 2).1.1 nothing
  exact ⟨by decide, by decide, fun k past => (calls k).1.2 (Nat.le_trans most past)⟩

end DungeonScript

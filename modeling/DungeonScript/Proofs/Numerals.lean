import DungeonScript.Text.Ascii
import DungeonScript.Text.Numeral
import Mathlib.Data.List.TakeWhile

/-!
Which number a text starts with. The three forms of a magnitude overlap: `08` starts with the
octal `0` and `0x` without a digit behind it does too, while the `0` of `0x1` is part of more. A
grammar that knows of no order among the forms (`Spells`) says what is a number, and of the numbers
at the start of a text the longest is the one that is read (`read_longest`).
-/

namespace DungeonScript

/-- Characters of a class, up to where the class ends. -/
theorem takeWhile_dropWhile_of_stops {p : Char → Bool} {word rest : List Char}
    (inside : ∀ c ∈ word, p c = true) (stops : ∀ c ∈ rest.head?, p c = false) :
    (word ++ rest).takeWhile p = word ∧ (word ++ rest).dropWhile p = rest := by
  rw [List.takeWhile_append_of_pos inside, List.dropWhile_append_of_pos inside]
  cases rest with
  | nil => exact ⟨List.append_nil word, rfl⟩
  | cons c more =>
    have stop : ¬p c = true := by simp [stops c rfl]
    rw [List.takeWhile_cons_of_neg stop, List.dropWhile_cons_of_neg stop]
    exact ⟨List.append_nil word, rfl⟩

namespace Numeral

/-! ## The grammar -/

/-- A magnitude and its value: `0x` and hexadecimal digits, `0` and any octal digits, or decimal
    digits that do not start with `0`. -/
inductive Magnitude : List Char → Nat → Prop where
  | hexadecimal {x : Char} {digits : List Char} (mark : x = 'x' ∨ x = 'X') (some : digits ≠ [])
      (hex : ∀ d ∈ digits, isHex d = true) : Magnitude ('0' :: x :: digits) (valueOf 16 digits)
  | octal {digits : List Char} (octal : ∀ d ∈ digits, isOctal d = true) :
      Magnitude ('0' :: digits) (valueOf 8 digits)
  | decimal {first : Char} {digits : List Char} (significant : first ≠ '0')
      (decimal : ∀ d ∈ first :: digits, d.isDigit = true) :
      Magnitude (first :: digits) (valueOf 10 (first :: digits))

/-- A sign that may be missing, and whether it is a minus. -/
inductive Sign : List Char → Bool → Prop where
  | missing : Sign [] false
  | plus : Sign ['+'] false
  | minus : Sign ['-'] true

def withSign (negative : Bool) (m : Nat) : Int := if negative then -(m : Int) else m

theorem natAbs_withSign (negative : Bool) (m : Nat) : (withSign negative m).natAbs = m := by
  cases negative
  · exact Int.natAbs_natCast m
  · exact (Int.natAbs_neg m).trans (Int.natAbs_natCast m)

/-- A number and its value: blanks, a sign that may be missing, and a magnitude. -/
inductive Spells : List Char → Int → Prop where
  | of {blanks sign magnitude : List Char} {negative : Bool} {m : Nat}
      (blank : ∀ c ∈ blanks, isBlank c = true) (signed : Sign sign negative)
      (measured : Magnitude magnitude m) :
      Spells (blanks ++ (sign ++ magnitude)) (withSign negative m)

/-- The longest number at the start of a text, and its value. -/
structure Longest (text p : List Char) (v : Int) : Prop where
  first : p <+: text
  spells : Spells p v
  longest : ∀ q u, q <+: text → Spells q u → q.length ≤ p.length

/-- A text that a number starts starts with a longest number. -/
theorem exists_longest_prefix {α : Type} {P : List α → Prop} {xs : List α}
    (found : ∃ p, p <+: xs ∧ P p) :
    ∃ p, p <+: xs ∧ P p ∧ ∀ q, q <+: xs → P q → q.length ≤ p.length := by
  induction xs generalizing P with
  | nil =>
    obtain ⟨p, first, holds⟩ := found
    refine ⟨p, first, holds, fun q short _ => ?_⟩
    rw [List.prefix_nil.1 short]
    exact Nat.zero_le _
  | cons x rest ih =>
    by_cases deeper : ∃ q, q <+: rest ∧ P (x :: q)
    · obtain ⟨p, first, holds, longest⟩ := ih (P := fun q => P (x :: q)) deeper
      refine ⟨x :: p, List.cons_prefix_cons.2 ⟨rfl, first⟩, holds, fun q starts other => ?_⟩
      cases q with
      | nil => exact Nat.zero_le _
      | cons y q =>
        obtain ⟨rfl, within⟩ := List.cons_prefix_cons.1 starts
        exact Nat.succ_le_succ (longest q within other)
    · obtain ⟨p, first, holds⟩ := found
      refine ⟨p, first, holds, fun q starts other => ?_⟩
      cases q with
      | nil => exact Nat.zero_le _
      | cons y q =>
        obtain ⟨rfl, within⟩ := List.cons_prefix_cons.1 starts
        exact absurd ⟨q, within, other⟩ deeper

theorem exists_longest {text : List Char} (found : ∃ p v, p <+: text ∧ Spells p v) :
    ∃ p v, Longest text p v := by
  obtain ⟨p, v, first, spells⟩ := found
  obtain ⟨p, first, ⟨v, spells⟩, longest⟩ :=
    exists_longest_prefix (P := fun p => ∃ v, Spells p v) ⟨p, first, v, spells⟩
  exact ⟨p, v, first, spells, fun q u first spells => longest q first ⟨u, spells⟩⟩

/-! ## The magnitude -/

theorem digits?_of_stops {isDigit : Char → Bool} {base : Nat} {digits rest : List Char}
    (some : digits ≠ []) (inside : ∀ c ∈ digits, isDigit c = true)
    (stops : ∀ c ∈ rest.head?, isDigit c = false) :
    digits? isDigit base (digits ++ rest) = fitting (valueOf base digits) rest := by
  obtain ⟨taken, left⟩ := takeWhile_dropWhile_of_stops inside stops
  rw [digits?, taken, left, if_neg (by simpa using some)]

theorem digits?_eq_none {isDigit : Char → Bool} {base : Nat} {cs : List Char}
    (other : ∀ c ∈ cs.head?, isDigit c = false) : digits? isDigit base cs = none := by
  cases cs with
  | nil => rfl
  | cons c rest =>
    have stop : ¬isDigit c = true := by simp [other c rfl]
    rw [digits?, List.takeWhile_cons_of_neg stop]
    rfl

theorem hexadecimal?_eq_none {cs : List Char}
    (other : ∀ x d rest, x = 'x' ∨ x = 'X' → isHex d = true → cs ≠ '0' :: x :: d :: rest) :
    hexadecimal? cs = none := by
  have bare {x : Char} {rest : List Char} (mark : x = 'x' ∨ x = 'X') (here : cs = '0' :: x :: rest) :
      digits? isHex 16 rest = none := by
    refine digits?_eq_none fun d next => ?_
    rw [← Bool.not_eq_true]
    intro hex
    cases rest with
    | nil => cases next
    | cons c more =>
      obtain rfl : c = d := Option.some.inj next
      exact other x c more mark hex here
  unfold hexadecimal?
  split
  · exact bare (.inl rfl) rfl
  · exact bare (.inr rfl) rfl
  · rfl

theorem octal?_eq_none {cs : List Char} (other : ∀ rest, cs ≠ '0' :: rest) :
    octal? cs = none := by
  unfold octal?
  split
  · exact absurd rfl (other _)
  · rfl

/-- No magnitude at the start of the text goes beyond its first part. -/
def EndsAt (mag rest : List Char) : Prop :=
  ∀ q n, q <+: mag ++ rest → Magnitude q n → q.length ≤ mag.length

/-- A magnitude ends before a character of a class if it could take in any of that class. -/
theorem EndsAt.next {mag rest : List Char} (ends : EndsAt mag rest) {inClass : Char → Bool}
    (grows : ∀ c, inClass c = true → ∃ n, Magnitude (mag ++ [c]) n) :
    ∀ c ∈ rest.head?, inClass c = false := by
  intro c next
  rw [← Bool.not_eq_true]
  intro member
  obtain ⟨n, more⟩ := grows c member
  cases rest with
  | nil => cases next
  | cons d tail =>
    obtain rfl : d = c := Option.some.inj next
    have short := ends (mag ++ [d]) n ⟨tail, by simp⟩ more
    rw [List.length_append] at short
    exact absurd short (Nat.not_succ_le_self _)

theorem inside_concat {inClass : Char → Bool} {cs : List Char} {c : Char}
    (inside : ∀ d ∈ cs, inClass d = true) (member : inClass c = true) :
    ∀ d ∈ cs ++ [c], inClass d = true := by
  intro d here
  rcases List.mem_append.1 here with old | new
  · exact inside d old
  · rwa [List.mem_singleton.1 new]

/-- `0x` and a digit are more than `0`, the longest octal magnitude there. -/
theorem EndsAt.hexadecimal?_eq_none {digits rest : List Char} (ends : EndsAt ('0' :: digits) rest)
    (octal : ∀ d ∈ digits, isOctal d = true) : hexadecimal? ('0' :: digits ++ rest) = none := by
  refine Numeral.hexadecimal?_eq_none fun x d tail mark hex here => ?_
  have spelled : Magnitude ['0', x, d] (valueOf 16 [d]) :=
    .hexadecimal mark (List.cons_ne_nil d []) fun c member => by rwa [List.mem_singleton.1 member]
  have short := ends ['0', x, d] _ ⟨tail, here.symm⟩ spelled
  cases digits with
  | nil => exact absurd short (by simp)
  | cons c more =>
    obtain rfl : c = x := (List.cons.inj (List.cons.inj here).2).1
    have digit := octal c List.mem_cons_self
    rcases mark with rfl | rfl <;> exact absurd digit (by decide)

/-- The longest magnitude at the start of a text is read, in whichever form it is. -/
theorem magnitude?_of_endsAt {mag rest : List Char} {m : Nat} (spelled : Magnitude mag m)
    (ends : EndsAt mag rest) (fits : (m : Int) ≤ greatestNumber) :
    magnitude? (mag ++ rest) = some (m, rest) := by
  have fit : fitting m rest = some (m, rest) := if_pos (by unfold greatestNumber at fits; omega)
  cases spelled with
  | @hexadecimal x digits mark some hex =>
    have stops := ends.next fun c more => ⟨_, .hexadecimal mark (by simp) (inside_concat hex more)⟩
    have read : hexadecimal? ('0' :: x :: (digits ++ rest)) = fitting (valueOf 16 digits) rest := by
      rcases mark with rfl | rfl <;> exact digits?_of_stops some hex stops
    rw [magnitude?, List.cons_append, List.cons_append, read, fit]
    rfl
  | @octal digits octal =>
    have stops := ends.next fun c more => ⟨_, .octal (inside_concat octal more)⟩
    obtain ⟨taken, left⟩ := takeWhile_dropWhile_of_stops octal stops
    have read : octal? ('0' :: digits ++ rest) = fitting (valueOf 8 digits) rest := by
      rw [List.cons_append, octal?, taken, left]
    rw [magnitude?, ends.hexadecimal?_eq_none octal, read, fit]
    rfl
  | @decimal first digits significant decimal =>
    have stops := ends.next fun c more => ⟨_, .decimal significant (inside_concat decimal more)⟩
    have read : decimal? (first :: digits ++ rest) = fitting (valueOf 10 (first :: digits)) rest :=
      digits?_of_stops (List.cons_ne_nil _ _) decimal stops
    have other : ∀ cs, first :: digits ++ rest ≠ '0' :: cs := fun cs h =>
      significant (List.cons.inj h).1
    rw [magnitude?, hexadecimal?_eq_none fun x d rest _ _ => other _, octal?_eq_none other, read,
      fit]
    rfl

theorem Magnitude.head {mag : List Char} {m : Nat} (spelled : Magnitude mag m) :
    ∃ first more, mag = first :: more ∧ first.isDigit = true := by
  cases spelled with
  | hexadecimal => exact ⟨'0', _, rfl, by decide⟩
  | octal => exact ⟨'0', _, rfl, by decide⟩
  | decimal _ decimal => exact ⟨_, _, rfl, decimal _ List.mem_cons_self⟩

theorem magnitude?_eq_none {cs : List Char} (none : ∀ q n, q <+: cs → ¬Magnitude q n) :
    magnitude? cs = Option.none := by
  have noDigit : ∀ c ∈ cs.head?, c.isDigit = false := by
    intro c next
    rw [← Bool.not_eq_true]
    intro digit
    cases cs with
    | nil => cases next
    | cons d rest =>
      obtain rfl : d = c := Option.some.inj next
      by_cases zero : d = '0'
      · subst zero
        exact none ['0'] _ ⟨rest, rfl⟩ (.octal fun _ member => nomatch member)
      · refine none [d] _ ⟨rest, rfl⟩ (.decimal zero fun c member => ?_)
        rwa [List.mem_singleton.1 member]
  have other : ∀ rest, cs ≠ '0' :: rest := by
    rintro rest rfl
    exact absurd (noDigit '0' rfl) (by decide)
  rw [magnitude?, hexadecimal?_eq_none fun x d rest _ _ => other _, octal?_eq_none other, decimal?,
    digits?_eq_none noDigit]
  rfl

/-! ## Blanks and sign -/

theorem isBlank_of_isDigit {c : Char} (digit : c.isDigit = true) : isBlank c = false := by
  rw [← Bool.not_eq_true]
  intro blank
  simp only [isBlank, Bool.or_eq_true, decide_eq_true_eq] at blank
  rcases blank with ((rfl | rfl) | rfl) | rfl <;> exact absurd digit (by decide)

/-- The sign at the start of a text, if there is one. -/
def signOf : List Char → List Char
  | '-' :: _ => ['-']
  | '+' :: _ => ['+']
  | _ => []

theorem signOf_spec (cs : List Char) :
    Sign (signOf cs) (splitSign cs).1 ∧ signOf cs ++ (splitSign cs).2 = cs := by
  unfold signOf
  split
  · exact ⟨.minus, rfl⟩
  · exact ⟨.plus, rfl⟩
  · rename_i noMinus noPlus
    rw [splitSign.eq_3 _ noMinus noPlus]
    exact ⟨.missing, rfl⟩

/-- The blanks and the sign at the start of a text. -/
def opening (cs : List Char) : List Char := cs.takeWhile isBlank ++ signOf (cs.dropWhile isBlank)

/-- Whether the sign at the start of a text is a minus, and what follows it. -/
def afterOpening (cs : List Char) : Bool × List Char := splitSign (cs.dropWhile isBlank)

theorem opening_append (cs : List Char) : opening cs ++ (afterOpening cs).2 = cs := by
  rw [opening, afterOpening, List.append_assoc, (signOf_spec _).2, List.takeWhile_append_dropWhile]

theorem spells_opening {cs mag : List Char} {m : Nat} (spelled : Magnitude mag m) :
    Spells (opening cs ++ mag) (withSign (afterOpening cs).1 m) := by
  rw [opening, List.append_assoc]
  exact .of (fun c member => List.mem_takeWhile_imp member) (signOf_spec _).1 spelled

/-- Blanks and a sign before a digit are what a text opens with. -/
theorem opening_before_digit {blanks sign rest : List Char} {negative : Bool} {digit : Char}
    (blank : ∀ c ∈ blanks, isBlank c = true) (signed : Sign sign negative)
    (isDigit : digit.isDigit = true) :
    opening (blanks ++ (sign ++ digit :: rest)) = blanks ++ sign ∧
      afterOpening (blanks ++ (sign ++ digit :: rest)) = (negative, digit :: rest) := by
  have stops : ∀ c ∈ (sign ++ digit :: rest).head?, isBlank c = false := by
    intro c next
    cases signed with
    | missing => exact Option.some.inj next ▸ isBlank_of_isDigit isDigit
    | plus | minus => exact Option.some.inj next ▸ by decide
  obtain ⟨taken, left⟩ := takeWhile_dropWhile_of_stops blank stops
  rw [opening, afterOpening, taken, left]
  cases signed with
  | plus | minus => exact ⟨rfl, rfl⟩
  | missing =>
    have noMinus : digit ≠ '-' := by rintro rfl; exact absurd isDigit (by decide)
    have noPlus : digit ≠ '+' := by rintro rfl; exact absurd isDigit (by decide)
    simp [signOf, splitSign, noMinus, noPlus]

/-- A number at the start of a text is a magnitude behind the blanks and the sign there. -/
theorem Spells.behind_opening {cs p : List Char} {v : Int} (spells : Spells p v) (first : p <+: cs) :
    ∃ mag m, Magnitude mag m ∧ mag <+: (afterOpening cs).2 ∧ p = opening cs ++ mag ∧
      v = withSign (afterOpening cs).1 m := by
  obtain ⟨rest, rfl⟩ := first
  cases spells with
  | @of blanks sign mag negative m blank signed spelled =>
    obtain ⟨d, more, rfl, digit⟩ := spelled.head
    obtain ⟨opens, after⟩ := @opening_before_digit _ _ (more ++ rest) _ _ blank signed digit
    simp only [List.append_assoc, List.cons_append, opens, after]
    exact ⟨_, m, spelled, List.prefix_append (d :: more) rest, rfl, rfl⟩

/-! ## The number -/

theorem signed?_magnitude? (cs : List Char) :
    signed? magnitude? cs = (magnitude? (afterOpening cs).2).map fun m =>
      (withSign (afterOpening cs).1 m.1, m.2) :=
  rfl

theorem signed?_eq_none {cs : List Char} (none : ¬∃ p v, p <+: cs ∧ Spells p v) :
    signed? magnitude? cs = Option.none := by
  have unread : magnitude? (afterOpening cs).2 = Option.none := by
    refine magnitude?_eq_none fun q n ⟨rest, here⟩ spelled => none ?_
    refine ⟨opening cs ++ q, _, ⟨rest, ?_⟩, spells_opening spelled⟩
    rw [List.append_assoc, here, opening_append]
  rw [signed?_magnitude?, unread]
  rfl

/-- The longest number at the start of a text is its opening and the longest magnitude there. -/
theorem signed?_of_longest {cs p : List Char} {v : Int} (longest : Longest cs p v)
    (fits : (v.natAbs : Int) ≤ greatestNumber) :
    ∃ rest, cs = p ++ rest ∧ signed? magnitude? cs = some (v, rest) := by
  obtain ⟨mag, m, spelled, ⟨rest, here⟩, rfl, rfl⟩ :=
    longest.spells.behind_opening longest.first
  have ends : EndsAt mag rest := by
    rintro q n ⟨more, there⟩ other
    have within : opening cs ++ q <+: cs :=
      ⟨more, by rw [List.append_assoc, there, here, opening_append]⟩
    have short := longest.longest _ _ within (spells_opening other)
    rwa [List.length_append, List.length_append, Nat.add_le_add_iff_left] at short
  refine ⟨rest, by rw [List.append_assoc, here, opening_append], ?_⟩
  rw [natAbs_withSign] at fits
  rw [signed?_magnitude?, ← here, magnitude?_of_endsAt spelled ends fits]
  rfl

theorem read_of_spells {text : String} {v : Int} (spells : Spells text.toList v)
    (fits : (v.natAbs : Int) ≤ greatestNumber) : read text = ⟨v, true⟩ := by
  have longest : Longest text.toList text.toList v :=
    ⟨List.prefix_rfl, spells, fun q u first _ => first.length_le⟩
  obtain ⟨rest, whole, signed⟩ := signed?_of_longest longest fits
  obtain rfl : rest = [] := List.self_eq_append_right.1 whole
  rw [read, signed]
  rfl

/-- **What number a text is read as.** Where no number stands at the start of a text, the number is
    0, and it is complete only for the empty text. Otherwise it is the longest one there, in the
    base of its form, if its magnitude fits 63 bits, and it is complete if that is all of the
    text. -/
theorem read_longest (text : String) :
    ((¬∃ p v, p <+: text.toList ∧ Spells p v) → read text = ⟨0, decide (text = "")⟩) ∧
    ((∃ p v, p <+: text.toList ∧ Spells p v) → ∃ p v, Longest text.toList p v) ∧
    ∀ p v, Longest text.toList p v → (v.natAbs : Int) ≤ greatestNumber →
      read text = ⟨v, decide (p = text.toList)⟩ := by
  refine ⟨fun none => ?_, exists_longest, fun p v longest fits => ?_⟩
  · have empty : text.toList.isEmpty = decide (text = "") := by
      rw [Bool.eq_iff_iff, List.isEmpty_iff, String.toList_eq_nil_iff, decide_eq_true_iff]
    rw [read, signed?_eq_none none, ← empty]
  · obtain ⟨rest, whole, signed⟩ := signed?_of_longest longest fits
    have all : rest.isEmpty = decide (p = text.toList) := by
      rw [Bool.eq_iff_iff, List.isEmpty_iff, decide_eq_true_iff, whole, List.self_eq_append_right]
    rw [read, signed, ← all]

/-- A sign is no number; `08` is the octal `0` and something else; `-0x1F` is all of the text. -/
theorem read_longest_of_forms :
    (¬∃ p v, p <+: "-".toList ∧ Spells p v) ∧ read "-" = ⟨0, false⟩ ∧
    Longest "08".toList ['0'] 0 ∧ read "08" = ⟨0, false⟩ ∧
    Longest "-0x1F".toList "-0x1F".toList (-31) ∧ read "-0x1F" = ⟨-31, true⟩ := by
  have bare : ¬∃ p v, p <+: "-".toList ∧ Spells p v := by
    rintro ⟨p, v, first, spells⟩
    obtain ⟨mag, m, spelled, within, -⟩ := spells.behind_opening first
    obtain ⟨d, more, rfl, -⟩ := spelled.head
    cases List.prefix_nil.1 within
  have zero : Magnitude ['0'] 0 := .octal (List.forall_mem_nil _)
  have eight : Longest "08".toList ['0'] 0 := by
    refine ⟨⟨['8'], rfl⟩, .of (List.forall_mem_nil _) .missing zero, ?_⟩
    intro q u first spells
    obtain ⟨mag, m, spelled, within, same, -⟩ := spells.behind_opening first
    have within : mag <+: ['0', '8'] := within
    rw [show q = mag from same]
    cases spelled with
    | hexadecimal mark some hex =>
      obtain ⟨-, within⟩ := List.cons_prefix_cons.1 within
      obtain ⟨rfl, -⟩ := List.cons_prefix_cons.1 within
      exact absurd mark (by decide)
    | @octal digits octal =>
      obtain ⟨-, within⟩ := List.cons_prefix_cons.1 within
      cases digits with
      | nil => exact Nat.le_refl 1
      | cons d more =>
        obtain ⟨rfl, -⟩ := List.cons_prefix_cons.1 within
        exact absurd (octal '8' List.mem_cons_self) (by decide)
    | decimal significant decimal => exact absurd (List.cons_prefix_cons.1 within).1 significant
  have hex : ∀ d ∈ ['1', 'F'], isHex d = true :=
    List.forall_mem_cons.2 ⟨rfl, List.forall_mem_singleton.2 rfl⟩
  have digits : Magnitude ['0', 'x', '1', 'F'] 31 :=
    .hexadecimal (.inl rfl) (List.cons_ne_nil _ _) hex
  have hexadecimal : Longest "-0x1F".toList "-0x1F".toList (-31) :=
    ⟨⟨[], rfl⟩, .of (List.forall_mem_nil _) .minus digits, fun q u first _ => first.length_le⟩
  refine ⟨bare, ?_, eight, ?_, hexadecimal, ?_⟩
  · exact (read_longest "-").1 bare
  · exact (read_longest "08").2.2 _ _ eight (by decide)
  · exact (read_longest "-0x1F").2.2 _ _ hexadecimal (by decide)

end Numeral

end DungeonScript

/-!
Script lines. A text is cut at line feeds, and one carriage return before the cut
is dropped. A block comment that starts a line, after spaces or tabs, is skipped:
what follows its end is read as the rest of the line it ends on. A comment that is
never closed is no comment.
-/

namespace DungeonScript

namespace Lines

def isIndent (c : Char) : Bool := c = ' ' || c = '\t'

/-- The text up to the first `*/` and the text after it. -/
def splitAtClose : List Char → Option (List Char × List Char)
  | [] => none
  | '*' :: '/' :: rest => some ([], rest)
  | c :: rest => (splitAtClose rest).map fun p => (c :: p.1, p.2)

/-- The inside of a block comment that starts the text, and what follows it. -/
def blockComment? (cs : List Char) : Option (List Char × List Char) :=
  match cs.dropWhile isIndent with
  | '/' :: '*' :: rest => splitAtClose rest
  | _ => none

def breaks (cs : List Char) : Nat := cs.count '\n'

/-- Line feeds skipped by a comment at the start of the text, and the text after
    it. -/
def skipComment (cs : List Char) : Nat × List Char :=
  match blockComment? cs with
  | some (inside, rest) => (breaks inside, rest)
  | none => (0, cs)

def firstLine (cs : List Char) : List Char := cs.takeWhile (· != '\n')

def afterLine (cs : List Char) : List Char := (cs.dropWhile (· != '\n')).drop 1

/-- The line without one carriage return at its end. -/
def dropReturn (cs : List Char) : List Char :=
  if cs.getLast? = some '\r' then cs.dropLast else cs

theorem splitAtClose_length {cs inside rest : List Char}
    (h : splitAtClose cs = some (inside, rest)) : rest.length < cs.length := by
  fun_induction splitAtClose cs generalizing inside rest with
  | case1 => simp at h
  | case2 r =>
    simp only [Option.some.injEq, Prod.mk.injEq] at h
    simp only [← h.2, List.length_cons]; omega
  | case3 c r _ ih =>
    obtain ⟨p, hp, hpr⟩ := Option.map_eq_some_iff.1 h
    have := ih (show splitAtClose r = some (p.1, p.2) from hp)
    simp at hpr
    simp [← hpr.2]; omega

theorem skipComment_length (cs : List Char) : (skipComment cs).2.length ≤ cs.length := by
  unfold skipComment
  split
  · rename_i inside rest h
    unfold blockComment? at h
    split at h
    · rename_i r hr
      have h1 := splitAtClose_length h
      have h2 := (List.dropWhile_suffix isIndent (l := cs)).length_le
      rw [hr] at h2
      simp at h2 ⊢; omega
    · simp at h
  · simp

theorem afterLine_length {cs : List Char} (h : cs ≠ []) : (afterLine cs).length < cs.length := by
  unfold afterLine
  have h1 := (List.dropWhile_suffix (· != '\n') (l := cs)).length_le
  have h2 : 0 < cs.length := List.length_pos_iff.2 h
  cases hd : cs.dropWhile (· != '\n') with
  | nil => simpa using h2
  | cons c r => rw [hd] at h1; simp at h1 ⊢; omega

/-- The lines of a text that starts on line `number`, with their numbers. -/
def numberedFrom (number : Nat) (cs : List Char) : List (Nat × List Char) :=
  if h : cs = [] then []
  else
    let s := skipComment cs
    (number + s.1, dropReturn (firstLine s.2)) :: numberedFrom (number + s.1 + 1) (afterLine s.2)
termination_by cs.length
decreasing_by
  have h1 := skipComment_length cs
  have h2 : 0 < cs.length := List.length_pos_iff.2 h
  by_cases hs : (skipComment cs).2 = []
  · simp [hs, afterLine, h2]
  · have h3 := afterLine_length hs
    omega

end Lines

/-- The lines of a script text with their numbers, counted from 1. -/
def scriptLines (text : String) : List (Nat × List Char) := Lines.numberedFrom 1 text.toList

end DungeonScript

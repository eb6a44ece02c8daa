import DungeonScript.Text.Lines
import Mathlib.Data.List.Basic
import Mathlib.Data.List.Infix
import Mathlib.Data.List.TakeWhile

/-!
Lines. A text is read line by line, and a comment that is terminated is skipped where it
opens a line. So there are places in a text where the reader starts a line (`StartsLine`):
its start, and every place after a line feed that is not inside of such a comment
(`startsLine_or_inComment`). The text before such a place is cut alike whatever stands after
it (`numberedFrom_append`), and a line that is put in there, if no comment opens or ends on
it, is one line more (`numberedFrom_insert`).
-/

namespace DungeonScript

namespace Lines

/-! ## Ends of comments -/

def HoldsEnd (cs : List Char) : Prop := ['*', '/'] <:+: cs

instance (cs : List Char) : Decidable (HoldsEnd cs) :=
  inferInstanceAs (Decidable (['*', '/'] <:+: cs))

theorem not_holdsEnd_nil : ¬HoldsEnd [] := by
  intro h
  cases List.infix_nil.1 h

theorem holdsEnd_cons {c : Char} {cs : List Char} :
    HoldsEnd (c :: cs) ↔ (∃ rest, c = '*' ∧ cs = '/' :: rest) ∨ HoldsEnd cs := by
  rw [HoldsEnd, List.infix_cons_iff]
  refine or_congr ?_ Iff.rfl
  constructor
  · rintro ⟨rest, same⟩
    obtain ⟨star, more⟩ := List.cons.inj same
    exact ⟨rest, star.symm, more.symm⟩
  · rintro ⟨rest, rfl, rfl⟩
    exact ⟨rest, rfl⟩

theorem HoldsEnd.append_left {cs : List Char} (h : HoldsEnd cs) (more : List Char) :
    HoldsEnd (cs ++ more) := h.trans (List.prefix_append cs more).isInfix

theorem HoldsEnd.append_right {cs : List Char} (h : HoldsEnd cs) (before : List Char) :
    HoldsEnd (before ++ cs) := h.trans (List.suffix_append before cs).isInfix

theorem holdsEnd_append_lineFeed {cs more : List Char} :
    HoldsEnd (cs ++ '\n' :: more) ↔ HoldsEnd cs ∨ HoldsEnd more := by
  induction cs with
  | nil =>
    rw [List.nil_append, holdsEnd_cons]
    constructor
    · rintro (⟨_, star, _⟩ | h)
      · cases star
      · exact .inr h
    · rintro (h | h)
      · exact absurd h not_holdsEnd_nil
      · exact .inr h
  | cons c rest ih =>
    have straddle : (∃ later, c = '*' ∧ rest ++ '\n' :: more = '/' :: later) ↔
        ∃ later, c = '*' ∧ rest = '/' :: later := by
      cases rest with
      | nil => simp
      | cons d ds => simp
    rw [List.cons_append, holdsEnd_cons, holdsEnd_cons, ih, straddle, or_assoc]

theorem splitAtClose_eq_none {cs : List Char} : splitAtClose cs = none ↔ ¬HoldsEnd cs := by
  fun_induction splitAtClose cs with
  | case1 => simp [not_holdsEnd_nil]
  | case2 rest => simp [holdsEnd_cons]
  | case3 c rest other ih =>
    have apart : ¬∃ later, c = '*' ∧ rest = '/' :: later := by
      rintro ⟨later, star, slash⟩
      exact other later star slash
    rw [Option.map_eq_none_iff, ih, holdsEnd_cons, or_iff_right apart]

theorem splitAtClose_append {inside : List Char} (open_ : ¬HoldsEnd inside) (rest : List Char) :
    splitAtClose (inside ++ '*' :: '/' :: rest) = some (inside, rest) := by
  induction inside with
  | nil => rfl
  | cons c cs ih =>
    rw [holdsEnd_cons, not_or] at open_
    rw [List.cons_append, splitAtClose, ih open_.2]
    · rfl
    · intro later star slash
      cases cs with
      | nil => cases slash
      | cons d ds => exact open_.1 ⟨ds, star, by rw [(List.cons.inj slash).1]⟩

theorem eq_of_splitAtClose {cs inside rest : List Char}
    (split : splitAtClose cs = some (inside, rest)) :
    cs = inside ++ '*' :: '/' :: rest ∧ ¬HoldsEnd inside := by
  fun_induction splitAtClose cs generalizing inside with
  | case1 => cases split
  | case2 r =>
    cases split
    exact ⟨rfl, not_holdsEnd_nil⟩
  | case3 c r other ih =>
    obtain ⟨p, found, same⟩ := Option.map_eq_some_iff.1 split
    cases same
    obtain ⟨whole, open_⟩ := ih found
    refine ⟨by rw [whole]; rfl, ?_⟩
    rw [holdsEnd_cons, not_or]
    refine ⟨?_, open_⟩
    rintro ⟨later, star, slash⟩
    exact other (later ++ '*' :: '/' :: p.2) star (by rw [whole, slash]; rfl)

/-! ## Comments -/

theorem blockComment?_of_opens {cs rest : List Char}
    (opens : cs.dropWhile isIndent = '/' :: '*' :: rest) : blockComment? cs = splitAtClose rest := by
  simp only [blockComment?, opens]

theorem blockComment?_eq_none {cs : List Char}
    (other : ∀ rest, cs.dropWhile isIndent ≠ '/' :: '*' :: rest) : blockComment? cs = none := by
  unfold blockComment?
  split
  · exact absurd ‹_› (other _)
  · rfl

/-! ## What the lines are made of -/

theorem splitAtClose_suffix {cs inside rest : List Char}
    (split : splitAtClose cs = some (inside, rest)) : rest <:+ cs :=
  ⟨inside ++ ['*', '/'], by rw [(eq_of_splitAtClose split).1, List.append_assoc]; rfl⟩

theorem skipComment_suffix (cs : List Char) : (skipComment cs).2 <:+ cs := by
  unfold skipComment
  split
  · rename_i inside rest found
    unfold blockComment? at found
    split at found
    · rename_i more indented
      have opened : '/' :: '*' :: more <:+ cs := indented ▸ List.dropWhile_suffix isIndent
      exact (splitAtClose_suffix found).trans
        (((List.suffix_cons '*' more).trans (List.suffix_cons '/' _)).trans opened)
    · cases found
  · exact List.suffix_rfl

theorem afterLine_suffix (cs : List Char) : afterLine cs <:+ cs :=
  (List.drop_suffix 1 _).trans (List.dropWhile_suffix _)

theorem mem_of_mem_dropReturn {cs : List Char} {c : Char} (member : c ∈ dropReturn cs) : c ∈ cs := by
  unfold dropReturn at member
  split at member
  · exact List.dropLast_subset _ member
  · exact member

theorem mem_of_mem_numberedFrom {number : Nat} {cs : List Char} {line : Nat × List Char} {c : Char}
    (lines : line ∈ numberedFrom number cs) (member : c ∈ line.2) : c ∈ cs := by
  fun_induction numberedFrom number cs with
  | case1 => cases lines
  | case2 number cs nonempty s ih =>
    have rest := (skipComment_suffix cs).subset
    rcases List.mem_cons.1 lines with rfl | later
    · exact rest ((List.takeWhile_prefix _).subset (mem_of_mem_dropReturn member))
    · exact rest ((afterLine_suffix s.2).subset (ih later))

/-! ## Places where a line starts -/

/-- No text, or text that ends with a line feed. -/
def WholeLines (cs : List Char) : Prop := cs = [] ∨ ∃ more, cs = more ++ ['\n']

theorem WholeLines.holdsEnd_append {cs : List Char} (lines : WholeLines cs) (more : List Char) :
    HoldsEnd (cs ++ more) ↔ HoldsEnd cs ∨ HoldsEnd more := by
  constructor
  · intro ends
    rcases lines with rfl | ⟨before, rfl⟩
    · exact .inr ends
    · rw [List.append_assoc, List.singleton_append, holdsEnd_append_lineFeed] at ends
      exact ends.imp_left (·.append_left ['\n'])
  · exact (·.elim (·.append_left more) (·.append_right cs))

/-- A line starts between the two parts of a text: the part before is one line after the other,
    each with the comment skipped that opens it, if that is terminated. -/
inductive StartsLine : List Char → List Char → Prop where
  | first (after : List Char) : StartsLine [] after
  | afterLine {line before after : List Char} (whole : '\n' ∉ line)
      (plain : blockComment? (line ++ '\n' :: (before ++ after)) = none)
      (later : StartsLine before after) : StartsLine (line ++ '\n' :: before) after
  | afterComment {indent inside line before after : List Char}
      (blank : ∀ c ∈ indent, isIndent c = true) (open_ : ¬HoldsEnd inside) (whole : '\n' ∉ line)
      (later : StartsLine before after) :
      StartsLine (indent ++ '/' :: '*' :: (inside ++ '*' :: '/' :: (line ++ '\n' :: before))) after

/-- The place between the two parts of a text is inside of a terminated comment: one opens
    where a line starts before the place, and its end comes after the place. -/
def InComment (before after : List Char) : Prop :=
  ∃ earlier indent inside, before = earlier ++ (indent ++ '/' :: '*' :: inside) ∧
    StartsLine earlier (indent ++ '/' :: '*' :: (inside ++ after)) ∧
    (∀ c ∈ indent, isIndent c = true) ∧ ¬HoldsEnd inside ∧ HoldsEnd after

theorem StartsLine.wholeLines {before after : List Char} (starts : StartsLine before after) :
    WholeLines before := by
  induction starts with
  | first => exact .inl rfl
  | @afterLine line before _ _ _ _ ih =>
    right
    rcases ih with rfl | ⟨more, rfl⟩
    · exact ⟨line, rfl⟩
    · exact ⟨line ++ '\n' :: more, by simp⟩
  | @afterComment indent inside line before _ _ _ _ _ ih =>
    right
    rcases ih with rfl | ⟨more, rfl⟩
    · exact ⟨indent ++ '/' :: '*' :: (inside ++ '*' :: '/' :: line), by simp⟩
    · exact ⟨indent ++ '/' :: '*' :: (inside ++ '*' :: '/' :: (line ++ '\n' :: more)), by simp⟩

/-! ### The first line of a text -/

theorem dropWhile_isIndent_line (line rest : List Char) :
    (line ++ '\n' :: rest).dropWhile isIndent = line.dropWhile isIndent ++ '\n' :: rest := by
  induction line with
  | nil => rfl
  | cons c cs ih =>
    rw [List.cons_append, List.dropWhile_cons, List.dropWhile_cons, ih]
    split <;> rfl

theorem dropWhile_isIndent_opened {indent : List Char} (blank : ∀ c ∈ indent, isIndent c = true)
    (inside : List Char) :
    (indent ++ '/' :: '*' :: inside).dropWhile isIndent = '/' :: '*' :: inside := by
  rw [List.dropWhile_append_of_pos blank]
  rfl

theorem opens_of_append_lineFeed {cs rest inside : List Char}
    (opens : cs ++ '\n' :: rest = '/' :: '*' :: inside) : ∃ more, cs = '/' :: '*' :: more := by
  match cs, opens with
  | [], opens => cases (List.cons.inj opens).1
  | [_], opens => cases (List.cons.inj (List.cons.inj opens).2).1
  | c :: d :: more, opens =>
    obtain ⟨slash, later⟩ := List.cons.inj opens
    exact ⟨more, by rw [slash, (List.cons.inj later).1]⟩

/-- Whether a comment opens a line and is terminated does not depend on what follows the line,
    but for the end of the comment. -/
theorem blockComment?_eq_none_of_ends {line rest rest' : List Char}
    (plain : blockComment? (line ++ '\n' :: rest) = none) (fewer : HoldsEnd rest' → HoldsEnd rest) :
    blockComment? (line ++ '\n' :: rest') = none := by
  by_cases opens : ∃ inside, line.dropWhile isIndent = '/' :: '*' :: inside
  · obtain ⟨inside, opens⟩ := opens
    have comment : ∀ more, blockComment? (line ++ '\n' :: more) = splitAtClose (inside ++ '\n' :: more) :=
      fun more => blockComment?_of_opens (by rw [dropWhile_isIndent_line, opens]; rfl)
    rw [comment, splitAtClose_eq_none, holdsEnd_append_lineFeed, not_or] at plain ⊢
    exact ⟨plain.1, mt fewer plain.2⟩
  · refine blockComment?_eq_none fun inside found => opens ?_
    rw [dropWhile_isIndent_line] at found
    exact opens_of_append_lineFeed found

theorem bne_lineFeed_of_mem {line : List Char} (whole : '\n' ∉ line) :
    ∀ c ∈ line, (c != '\n') = true := by
  intro c member
  rw [bne_iff_ne]
  rintro rfl
  exact whole member

theorem firstLine_append {line : List Char} (whole : '\n' ∉ line) (rest : List Char) :
    firstLine (line ++ '\n' :: rest) = line := by
  rw [firstLine, List.takeWhile_append_of_pos (bne_lineFeed_of_mem whole)]
  simp

theorem afterLine_append {line : List Char} (whole : '\n' ∉ line) (rest : List Char) :
    afterLine (line ++ '\n' :: rest) = rest := by
  rw [afterLine, List.dropWhile_append_of_pos (bne_lineFeed_of_mem whole)]
  rfl

/-- A line on which no comment opens. -/
theorem numberedFrom_line {line rest : List Char} (whole : '\n' ∉ line)
    (plain : blockComment? (line ++ '\n' :: rest) = none) (number : Nat) :
    numberedFrom number (line ++ '\n' :: rest) =
      (number, dropReturn line) :: numberedFrom (number + 1) rest := by
  have nonempty : line ++ '\n' :: rest ≠ [] := by simp
  have skipped : skipComment (line ++ '\n' :: rest) = (0, line ++ '\n' :: rest) := by
    simp only [skipComment, plain]
  rw [numberedFrom, dif_neg nonempty, skipped]
  simp only [firstLine_append whole, afterLine_append whole, Nat.add_zero]

/-- A line on which a comment ends. -/
theorem numberedFrom_comment {indent inside line : List Char}
    (blank : ∀ c ∈ indent, isIndent c = true) (open_ : ¬HoldsEnd inside) (whole : '\n' ∉ line)
    (rest : List Char) (number : Nat) :
    numberedFrom number (indent ++ '/' :: '*' :: (inside ++ '*' :: '/' :: (line ++ '\n' :: rest))) =
      (number + breaks inside, dropReturn line) ::
        numberedFrom (number + breaks inside + 1) rest := by
  have comment : blockComment? (indent ++ '/' :: '*' :: (inside ++ '*' :: '/' :: (line ++ '\n' :: rest))) =
      some (inside, line ++ '\n' :: rest) := by
    rw [blockComment?_of_opens (dropWhile_isIndent_opened blank _), splitAtClose_append open_]
  rw [numberedFrom, dif_neg (by simp)]
  simp only [skipComment, comment, firstLine_append whole, afterLine_append whole]

/-! ### What stands before a place -/

theorem breaks_line {line : List Char} (whole : '\n' ∉ line) (rest : List Char) :
    breaks (line ++ '\n' :: rest) = breaks rest + 1 := by
  rw [breaks, List.count_append, List.count_eq_zero.2 whole, List.count_cons_self, Nat.zero_add]
  rfl

theorem breaks_comment {indent inside line : List Char} (blank : ∀ c ∈ indent, isIndent c = true)
    (whole : '\n' ∉ line) (rest : List Char) :
    breaks (indent ++ '/' :: '*' :: (inside ++ '*' :: '/' :: (line ++ '\n' :: rest))) =
      breaks inside + (breaks rest + 1) := by
  have noBreak : '\n' ∉ indent := fun member => absurd (blank _ member) (by decide)
  rw [← breaks_line whole rest]
  simp [breaks, List.count_eq_zero.2 noBreak]

theorem numberedFrom_nil (number : Nat) : numberedFrom number [] = [] := by
  rw [numberedFrom, dif_pos rfl]

/-- A line on which no comment opens is such a line at the end of the text, too. -/
theorem blockComment?_alone {line before after : List Char}
    (plain : blockComment? (line ++ '\n' :: (before ++ after)) = none) :
    blockComment? (line ++ '\n' :: before) = none :=
  blockComment?_eq_none_of_ends plain fun ends => ends.append_left after

/-- What stands before the start of a line is cut alike whatever stands after it. -/
theorem numberedFrom_append {before after : List Char} (starts : StartsLine before after)
    (number : Nat) : numberedFrom number (before ++ after) =
      numberedFrom number before ++ numberedFrom (number + breaks before) after := by
  induction starts generalizing number with
  | first => simp [numberedFrom_nil, breaks]
  | @afterLine line before after whole plain later ih =>
    rw [List.append_assoc, List.cons_append, numberedFrom_line whole plain,
      numberedFrom_line whole (blockComment?_alone plain), ih, breaks_line whole, List.cons_append]
    congr 3
    omega
  | @afterComment indent inside line before after blank open_ whole later ih =>
    simp only [List.append_assoc, List.cons_append]
    rw [numberedFrom_comment blank open_ whole, numberedFrom_comment blank open_ whole, ih,
      breaks_comment blank whole, List.cons_append]
    congr 3
    omega

theorem le_of_mem_numberedFrom {number : Nat} {cs : List Char} {line : Nat × List Char}
    (member : line ∈ numberedFrom number cs) : number ≤ line.1 := by
  fun_induction numberedFrom number cs with
  | case1 => cases member
  | case2 number cs nonempty s ih =>
    rcases List.mem_cons.1 member with rfl | later
    · exact Nat.le_add_right _ _
    · have := ih later
      omega

/-- Before the start of a line there are as many line feeds as are counted. -/
theorem lt_of_mem_numberedFrom {before after : List Char} (starts : StartsLine before after)
    {number : Nat} {line : Nat × List Char} (member : line ∈ numberedFrom number before) :
    line.1 < number + breaks before := by
  induction starts generalizing number with
  | first =>
    rw [numberedFrom_nil] at member
    cases member
  | afterLine whole plain _ ih =>
    rw [numberedFrom_line whole (blockComment?_alone plain)] at member
    rw [breaks_line whole]
    rcases List.mem_cons.1 member with rfl | later
    · show number < _
      omega
    · have := ih later
      omega
  | @afterComment _ inside _ _ _ blank open_ whole _ ih =>
    rw [numberedFrom_comment blank open_ whole] at member
    rw [breaks_comment blank whole]
    rcases List.mem_cons.1 member with rfl | later
    · show number + breaks inside < _
      omega
    · have := ih later
      omega

theorem numberedFrom_add (number more : Nat) (cs : List Char) :
    numberedFrom (number + more) cs =
      (numberedFrom number cs).map fun line => (line.1 + more, line.2) := by
  fun_induction numberedFrom number cs with
  | case1 number => rw [numberedFrom_nil, List.map_nil]
  | case2 number cs nonempty s ih =>
    have here : number + more + s.1 = number + s.1 + more := by omega
    rw [numberedFrom, dif_neg nonempty, List.map_cons, ← ih]
    show (number + more + s.1, _) :: numberedFrom (number + more + s.1 + 1) _ = _
    rw [here, Nat.add_right_comm (number + s.1) more 1]

/-! ### One line more -/

/-- A line on which no comment opens or ends. -/
structure Uncommented (line : List Char) : Prop where
  whole : '\n' ∉ line
  unopened : ∀ rest, line.dropWhile isIndent ≠ '/' :: '*' :: rest
  unended : ¬HoldsEnd line

theorem Uncommented.blockComment? {line : List Char} (plain : Uncommented line) (rest : List Char) :
    Lines.blockComment? (line ++ '\n' :: rest) = none := by
  refine blockComment?_eq_none fun inside found => ?_
  rw [dropWhile_isIndent_line] at found
  obtain ⟨more, opens⟩ := opens_of_append_lineFeed found
  exact plain.unopened more opens

theorem StartsLine.insert {before after line : List Char} (starts : StartsLine before after)
    (plain : Uncommented line) : StartsLine before (line ++ '\n' :: after) := by
  induction starts with
  | first after => exact .first _
  | @afterLine first before after whole unopened later ih =>
    refine .afterLine whole (blockComment?_eq_none_of_ends unopened fun ends => ?_) ih
    rw [later.wholeLines.holdsEnd_append, holdsEnd_append_lineFeed,
      or_iff_right plain.unended] at ends
    exact ends.elim (·.append_left after) (·.append_right before)
  | afterComment blank open_ whole _ ih => exact .afterComment blank open_ whole ih

/-- A line that is put in where a line starts is one line more. The lines after it have numbers
    greater by one. -/
theorem numberedFrom_insert {before after line : List Char} (starts : StartsLine before after)
    (plain : Uncommented line) (number : Nat) :
    numberedFrom number (before ++ (line ++ '\n' :: after)) =
      numberedFrom number before ++ (number + breaks before, dropReturn line) ::
        (numberedFrom (number + breaks before) after).map fun line => (line.1 + 1, line.2) := by
  rw [numberedFrom_append (starts.insert plain), numberedFrom_line plain.whole (plain.blockComment? after),
    numberedFrom_add]

/-! ### Every other place is in a comment -/

theorem InComment.afterLine {line before after : List Char} (inside : InComment before after)
    (whole : '\n' ∉ line) (plain : blockComment? (line ++ '\n' :: (before ++ after)) = none) :
    InComment (line ++ '\n' :: before) after := by
  obtain ⟨earlier, indent, within, rfl, starts, comment⟩ := inside
  refine ⟨line ++ '\n' :: earlier, indent, within, by simp, .afterLine whole ?_ starts, comment⟩
  simpa using plain

theorem InComment.afterComment {indent inside line before after : List Char}
    (blank : ∀ c ∈ indent, isIndent c = true) (open_ : ¬HoldsEnd inside) (whole : '\n' ∉ line)
    (within : InComment before after) :
    InComment (indent ++ '/' :: '*' :: (inside ++ '*' :: '/' :: (line ++ '\n' :: before))) after := by
  obtain ⟨earlier, indent', inside', rfl, starts, comment⟩ := within
  exact ⟨_, indent', inside', by simp, .afterComment blank open_ whole starts, comment⟩

theorem WholeLines.exists_line {cs : List Char} (whole : WholeLines cs) (nonempty : cs ≠ []) :
    ∃ line rest, cs = line ++ '\n' :: rest ∧ '\n' ∉ line ∧ WholeLines rest := by
  obtain ⟨more, rfl⟩ := whole.resolve_left nonempty
  clear whole nonempty
  induction more with
  | nil => exact ⟨[], [], rfl, by simp, .inl rfl⟩
  | cons c more ih =>
    by_cases feed : c = '\n'
    · subst feed
      exact ⟨[], more ++ ['\n'], rfl, by simp, .inr ⟨more, rfl⟩⟩
    · obtain ⟨line, rest, same, whole, lines⟩ := ih
      refine ⟨c :: line, rest, by rw [List.cons_append, same]; rfl, ?_, lines⟩
      simp [whole, Ne.symm feed]

theorem WholeLines.of_append {before cs : List Char} (whole : WholeLines (before ++ cs)) :
    WholeLines cs := by
  rcases List.eq_nil_or_concat cs with rfl | ⟨more, c, rfl⟩
  · exact .inl rfl
  · rcases whole with none | ⟨lines, same⟩
    · simp at none
    · rw [List.concat_eq_append, ← List.append_assoc] at same
      have last := List.append_inj_right' same rfl
      exact .inr ⟨more, by rw [List.concat_eq_append, last]⟩

/-- A comment that opens a line and is terminated. -/
theorem exists_opening {line rest : List Char} {comment : List Char × List Char}
    (found : blockComment? (line ++ '\n' :: rest) = some comment) :
    ∃ indent within, line = indent ++ '/' :: '*' :: within ∧ (∀ c ∈ indent, isIndent c = true) ∧
      HoldsEnd (within ++ '\n' :: rest) := by
  unfold blockComment? at found
  split at found
  · rename_i more opened
    rw [dropWhile_isIndent_line] at opened
    obtain ⟨within, opens⟩ := opens_of_append_lineFeed opened
    rw [opens] at opened
    obtain rfl : within ++ '\n' :: rest = more := (List.cons.inj (List.cons.inj opened).2).2
    refine ⟨line.takeWhile isIndent, within, ?_, fun c => List.mem_takeWhile_imp, ?_⟩
    · rw [← opens, List.takeWhile_append_dropWhile]
    · refine Classical.byContradiction fun open_ => ?_
      rw [splitAtClose_eq_none.2 open_] at found
      cases found
  · cases found

theorem exists_close {cs : List Char} (ends : HoldsEnd cs) :
    ∃ inside rest, cs = inside ++ '*' :: '/' :: rest ∧ ¬HoldsEnd inside := by
  cases split : splitAtClose cs with
  | none => exact absurd ends (splitAtClose_eq_none.1 split)
  | some p => exact ⟨p.1, p.2, eq_of_splitAtClose split⟩

/-- Every place after a line feed is the start of a line, or inside of a terminated comment. -/
theorem startsLine_or_inComment {before : List Char} (lines : WholeLines before)
    (after : List Char) : StartsLine before after ∨ InComment before after := by
  -- by length, since a comment that opens the first line may take later lines with it
  induction short : before.length using Nat.strongRecOn generalizing before with
  | ind n ih =>
    by_cases nonempty : before = []
    · exact .inl (nonempty ▸ .first after)
    obtain ⟨line, rest, rfl, whole, restLines⟩ := lines.exists_line nonempty
    cases found : blockComment? (line ++ '\n' :: (rest ++ after)) with
    | none =>
      have later := ih rest.length (by simp at short; omega) restLines rfl
      exact later.imp (.afterLine whole found) (·.afterLine whole found)
    | some comment =>
      obtain ⟨indent, within, rfl, blank, ends⟩ := exists_opening found
      by_cases closed : HoldsEnd (within ++ '\n' :: rest)
      · -- the comment ends before the place, and a line starts after the line it ends on
        obtain ⟨inside, later, split, open_⟩ := exists_close closed
        have text : indent ++ '/' :: '*' :: within ++ '\n' :: rest =
            (indent ++ '/' :: '*' :: (inside ++ ['*'])) ++ '/' :: later := by simp [split]
        rw [text] at lines short ⊢
        obtain ⟨tail, later', same, wholeTail, laterLines⟩ :=
          lines.of_append.exists_line (List.cons_ne_nil _ _)
        match tail, same, wholeTail with
        | [], same, _ => cases (List.cons.inj same).1
        | _ :: tail, same, wholeTail =>
          obtain rfl : later = tail ++ '\n' :: later' := (List.cons.inj same).2
          have wholeTail : '\n' ∉ tail := fun member => wholeTail (List.mem_cons_of_mem _ member)
          have shorter : later'.length < n := by simp at short; omega
          have place := ih later'.length shorter laterLines rfl
          simp only [List.append_assoc, List.cons_append, List.nil_append]
          exact place.imp (.afterComment blank open_ wholeTail) (·.afterComment blank open_ wholeTail)
      · -- the comment ends after the place
        rw [holdsEnd_append_lineFeed, restLines.holdsEnd_append, ← or_assoc,
          ← holdsEnd_append_lineFeed, or_iff_right closed] at ends
        exact .inr ⟨[], indent, within ++ '\n' :: rest, by simp, .first _, blank, closed, ends⟩

end Lines

end DungeonScript

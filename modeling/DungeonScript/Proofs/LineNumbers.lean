import DungeonScript.Proofs.Lines

/-!
Line numbers. The pieces of a text between its line feeds are its physical lines, and what is read
of a text is told of them here, without the reader: a comment opens a line and ends at the first end
behind its opening, on the same line or on a later one (`Comment`); it counts if the line it opens
does not lie under an earlier comment that counts (`Open`, `Skips`). Every line that is read is a
physical line, or what follows a comment on the line where that ends; its number is that of the
physical line, and only lines before the end of a comment are left out (`scriptLines_numbered`).

A reader works on the text that is left and on a count of line feeds, one of which may run ahead of
the other; so the text that is left is kept in step with the physical lines that are left (`Cut`).
-/

namespace DungeonScript

namespace Lines

/-! ## Comments and physical lines -/

def physical (cs : List Char) : List (List Char) := cs.splitOn '\n'

/-- A comment opens the line, after spaces or tabs. Its inside starts with `inside`. -/
def Opens (line inside : List Char) : Prop :=
  ∃ indent, (∀ c ∈ indent, isIndent c = true) ∧ line = indent ++ '/' :: '*' :: inside

/-- The line goes on with `rest` after the first end of a comment on it. -/
def FirstEnd (line rest : List Char) : Prop :=
  ∃ inside, ¬HoldsEnd inside ∧ line = inside ++ '*' :: '/' :: rest

/-- The first end of a comment stands so many lines further on, and is followed by `rest` there. -/
inductive Closes : List (List Char) → Nat → List Char → Prop where
  | here {line rest : List Char} {lines : List (List Char)} (ends : FirstEnd line rest) :
      Closes (line :: lines) 0 rest
  | later {line rest : List Char} {lines : List (List Char)} {n : Nat} (open_ : ¬HoldsEnd line)
      (closes : Closes lines n rest) : Closes (line :: lines) (n + 1) rest

/-- A comment opens the line at place `i` and is terminated `n` lines further on, before `rest`. -/
def Comment (lines : List (List Char)) (i n : Nat) (rest : List Char) : Prop :=
  ∃ line more inside, lines.drop i = line :: more ∧ Opens line inside ∧
    Closes (inside :: more) n rest

/-- The line at place `i` does not lie under a comment: every one that opens such a line before it
    has ended before it. -/
def Open (lines : List (List Char)) (i : Nat) : Prop :=
  ∀ h, h < i → Open lines h → ∀ n rest, Comment lines h n rest → h + n < i
termination_by i

/-- A comment that counts, from the line at place `h` on to `n` lines further on. -/
structure Skips (lines : List (List Char)) (h n : Nat) (rest : List Char) : Prop where
  outside : Open lines h
  comment : Comment lines h n rest

/-- What is read of physical lines that are counted from `number` on. -/
structure Numbered (number : Nat) (lines : List (List Char)) (read : List (Nat × List Char)) :
    Prop where
  /-- The numbers increase strictly. -/
  increasing : (read.map (·.1)).Pairwise (· < ·)
  /-- No more is read than there is. -/
  finite : read.length ≤ lines.length
  /-- What is read under a number is a tail of the line of that number, without one carriage return at
      its end: what follows the comment that ends on the line, or else all of the line. -/
  tail : ∀ n s, (n, s) ∈ read → ∃ i line, n = number + i ∧ lines[i]? = some line ∧
    s <:+ dropReturn line ∧
    (∀ h m rest, Skips lines h m rest → h + m = i → s = dropReturn rest) ∧
    ((∀ h m rest, Skips lines h m rest → h + m ≠ i) → s = dropReturn line)
  /-- What is not read are the lines of a comment before its last one, and a last line without
      text. -/
  unread : ∀ i line, lines[i]? = some line → ((∀ s, (number + i, s) ∉ read) ↔
    (∃ h m rest, Skips lines h m rest ∧ h ≤ i ∧ i < h + m) ∨
      (i + 1 = lines.length ∧ line = []))

/-! ### The end of a comment -/

theorem FirstEnd.unique {line rest rest' : List Char} (ends : FirstEnd line rest)
    (ends' : FirstEnd line rest') : rest = rest' := by
  obtain ⟨inside, open_, rfl⟩ := ends
  obtain ⟨inside', open_', same⟩ := ends'
  have split := splitAtClose_append open_ rest
  rw [same, splitAtClose_append open_' rest'] at split
  exact (Prod.mk.inj (Option.some.inj split)).2.symm

theorem FirstEnd.holdsEnd {line rest : List Char} (ends : FirstEnd line rest) : HoldsEnd line := by
  obtain ⟨inside, _, rfl⟩ := ends
  exact ⟨inside, rest, by simp⟩

theorem Closes.unique {lines : List (List Char)} {n n' : Nat} {rest rest' : List Char}
    (closes : Closes lines n rest) (closes' : Closes lines n' rest') : n = n' ∧ rest = rest' := by
  induction closes generalizing n' with
  | here ends =>
    cases closes' with
    | here ends' => exact ⟨rfl, ends.unique ends'⟩
    | later open_ _ => exact absurd ends.holdsEnd open_
  | later open_ _ ih =>
    cases closes' with
    | here ends' => exact absurd ends'.holdsEnd open_
    | later _ closes' =>
      obtain ⟨rfl, rfl⟩ := ih closes'
      exact ⟨rfl, rfl⟩

/-! ### Physical lines of parts of a text -/

theorem physical_line {line : List Char} (whole : '\n' ∉ line) : physical line = [line] :=
  List.splitOn_eq_singleton whole

theorem physical_append {line : List Char} (whole : '\n' ∉ line) (rest : List Char) :
    physical (line ++ '\n' :: rest) = line :: physical rest :=
  List.splitOn_append_cons_self_of_not_mem whole rest

theorem oneLine_or_more (cs : List Char) :
    '\n' ∉ cs ∨ ∃ line rest, cs = line ++ '\n' :: rest ∧ '\n' ∉ line := by
  by_cases more : '\n' ∈ cs
  · exact .inr (List.eq_append_cons_of_mem more)
  · exact .inl more

/-- The physical lines `lines` are what is left where the text `cs` is left: behind the last line
    there is neither. -/
def Cut (cs : List Char) (lines : List (List Char)) : Prop :=
  lines = physical cs ∨ cs = [] ∧ lines = []

theorem physical_eq_firstLine (cs : List Char) :
    ∃ lines, physical cs = firstLine cs :: lines ∧ Cut (afterLine cs) lines := by
  rcases oneLine_or_more cs with whole | ⟨line, rest, rfl, whole⟩
  · have all := bne_lineFeed_of_mem whole
    refine ⟨[], ?_, .inr ⟨?_, rfl⟩⟩
    · rw [physical_line whole, firstLine, List.takeWhile_eq_self_iff.2 all]
    · rw [afterLine, List.dropWhile_eq_nil_iff.2 all, List.drop_nil]
  · exact ⟨physical rest, by rw [physical_append whole, firstLine_append whole],
      .inl (by rw [afterLine_append whole])⟩

/-- What a text without line feeds stands before goes on on the same line. -/
theorem physical_append_of_line {line : List Char} (whole : '\n' ∉ line) {after first : List Char}
    {lines : List (List Char)} (cut : physical after = first :: lines) :
    physical (line ++ after) = (line ++ first) :: lines := by
  induction line with
  | nil => exact cut
  | cons c rest ih =>
    obtain ⟨other, whole⟩ := not_or.1 (mt List.mem_cons.2 whole)
    have later := ih whole
    rw [physical] at later
    rw [List.cons_append, physical, List.splitOn_cons_eq_if_modifyHead,
      if_neg (by simpa using Ne.symm other), later]
    rfl

/-- As many lines further on as the first part of a text breaks, its last line and the first of the
    second part are one physical line. -/
theorem drop_physical_append (before : List Char) {after line : List Char}
    {lines : List (List Char)} (cut : physical after = line :: lines) :
    ∃ last, (physical (before ++ after)).drop (breaks before) = (last ++ line) :: lines := by
  induction short : before.length using Nat.strongRecOn generalizing before with
  | ind n ih =>
    rcases oneLine_or_more before with whole | ⟨first, rest, rfl, whole⟩
    · have unbroken : breaks before = 0 := List.count_eq_zero.2 whole
      exact ⟨before, by rw [unbroken, List.drop_zero, physical_append_of_line whole cut]⟩
    · obtain ⟨last, found⟩ := ih rest.length (by simp at short; omega) rest rfl
      refine ⟨last, ?_⟩
      rw [List.append_assoc, List.cons_append, physical_append whole, breaks_line whole,
        List.drop_succ_cons, found]

/-! ### Comments of a text -/

theorem closes_physical {inside : List Char} (open_ : ¬HoldsEnd inside) (rest : List Char) :
    Closes (physical (inside ++ '*' :: '/' :: rest)) (breaks inside) (firstLine rest) := by
  induction short : inside.length using Nat.strongRecOn generalizing inside with
  | ind n ih =>
    rcases oneLine_or_more inside with whole | ⟨line, more, rfl, whole⟩
    · have unbroken : breaks inside = 0 := List.count_eq_zero.2 whole
      obtain ⟨lines, cut, -⟩ := physical_eq_firstLine (inside ++ '*' :: '/' :: rest)
      have first : firstLine (inside ++ '*' :: '/' :: rest) = inside ++ '*' :: '/' :: firstLine rest := by
        rw [firstLine, List.takeWhile_append_of_pos (bne_lineFeed_of_mem whole)]
        rfl
      rw [cut, unbroken, first]
      exact .here ⟨inside, open_, rfl⟩
    · rw [holdsEnd_append_lineFeed, not_or] at open_
      rw [List.append_assoc, List.cons_append, physical_append whole, breaks_line whole]
      exact .later open_.1 (ih more.length (by simp at short; omega) open_.2 rfl)

theorem holdsEnd_of_closes {cs : List Char} {n : Nat} {rest : List Char}
    (closes : Closes (physical cs) n rest) : HoldsEnd cs := by
  induction short : cs.length using Nat.strongRecOn generalizing cs n with
  | ind k ih =>
    rcases oneLine_or_more cs with whole | ⟨line, more, rfl, whole⟩
    · rw [physical_line whole] at closes
      cases closes with
      | here ends => exact ends.holdsEnd
      | later _ closes => cases closes
    · rw [physical_append whole] at closes
      rw [holdsEnd_append_lineFeed]
      cases closes with
      | here ends => exact .inl ends.holdsEnd
      | later _ closes => exact .inr (ih more.length (by simp at short; omega) closes rfl)

theorem lineFeed_not_mem_opening {indent : List Char} (blank : ∀ c ∈ indent, isIndent c = true) :
    '\n' ∉ indent ++ ['/', '*'] := by
  intro member
  rcases List.mem_append.1 member with inIndent | inOpening
  · exact absurd (blank _ inIndent) (by decide)
  · exact absurd inOpening (by decide)

/-- A comment that opens the first physical line opens the text. -/
theorem exists_opened {cs line inside : List Char} {more : List (List Char)}
    (cut : physical cs = line :: more) (opens : Opens line inside) :
    ∃ indent within, (∀ c ∈ indent, isIndent c = true) ∧ cs = indent ++ '/' :: '*' :: within ∧
      physical within = inside :: more := by
  obtain ⟨indent, blank, rfl⟩ := opens
  refine ⟨indent, ?_⟩
  rcases oneLine_or_more cs with whole | ⟨first, rest, rfl, whole⟩
  · rw [physical_line whole] at cut
    obtain ⟨rfl, rfl⟩ := List.cons.inj cut
    refine ⟨inside, blank, rfl, physical_line fun member => whole ?_⟩
    exact List.mem_append_right _ (List.mem_cons_of_mem _ (List.mem_cons_of_mem _ member))
  · rw [physical_append whole] at cut
    obtain ⟨rfl, rfl⟩ := List.cons.inj cut
    refine ⟨inside ++ '\n' :: rest, blank, by simp, physical_append (fun member => whole ?_) rest⟩
    exact List.mem_append_right _ (List.mem_cons_of_mem _ (List.mem_cons_of_mem _ member))

theorem eq_of_blockComment? {cs inside after : List Char}
    (found : blockComment? cs = some (inside, after)) :
    ∃ indent, (∀ c ∈ indent, isIndent c = true) ∧ ¬HoldsEnd inside ∧
      cs = indent ++ '/' :: '*' :: (inside ++ '*' :: '/' :: after) := by
  unfold blockComment? at found
  split at found
  · rename_i within opened
    obtain ⟨rfl, open_⟩ := eq_of_splitAtClose found
    refine ⟨cs.takeWhile isIndent, fun c => List.mem_takeWhile_imp, open_, ?_⟩
    rw [← opened, List.takeWhile_append_dropWhile]
  · cases found

/-- The comment that is skipped at the start of a text is the one that opens its first line. -/
theorem comment_zero_iff {cs : List Char} {n : Nat} {rest : List Char} :
    Comment (physical cs) 0 n rest ↔
      ∃ inside after, blockComment? cs = some (inside, after) ∧ n = breaks inside ∧
        rest = firstLine after := by
  constructor
  · rintro ⟨line, more, first, cut, opens, closes⟩
    rw [List.drop_zero] at cut
    obtain ⟨indent, within, blank, rfl, rest⟩ := exists_opened cut opens
    rw [← rest] at closes
    obtain ⟨inside, after, rfl, open_⟩ := exists_close (holdsEnd_of_closes closes)
    refine ⟨inside, after, ?_, closes.unique (closes_physical open_ after)⟩
    rw [blockComment?_of_opens (dropWhile_isIndent_opened blank _), splitAtClose_append open_]
  · rintro ⟨inside, after, found, rfl, rfl⟩
    obtain ⟨indent, blank, open_, rfl⟩ := eq_of_blockComment? found
    obtain ⟨lines, cut, -⟩ := physical_eq_firstLine (inside ++ '*' :: '/' :: after)
    have opened := physical_append_of_line (lineFeed_not_mem_opening blank) cut
    have closes := closes_physical open_ after
    rw [cut] at closes
    rw [List.append_assoc] at opened
    exact ⟨_, lines, _, opened, ⟨indent, blank, by simp⟩, closes⟩

/-! ### Comments of the lines that are left -/

variable {lines : List (List Char)} {d h i n : Nat} {rest : List Char}

theorem Comment.unique {n' : Nat} {rest' : List Char} (comment : Comment lines i n rest)
    (comment' : Comment lines i n' rest') : n = n' ∧ rest = rest' := by
  obtain ⟨line, more, inside, here, ⟨indent, blank, rfl⟩, closes⟩ := comment
  obtain ⟨_, _, inside', there, ⟨indent', blank', rfl⟩, closes'⟩ := comment'
  obtain ⟨same, rfl⟩ := List.cons.inj (here.symm.trans there)
  have opened := dropWhile_isIndent_opened blank inside
  rw [same, dropWhile_isIndent_opened blank' inside'] at opened
  obtain rfl : inside' = inside := (List.cons.inj (List.cons.inj opened).2).2
  exact closes.unique closes'

theorem Closes.exists_last (closes : Closes lines n rest) :
    ∃ line, lines[n]? = some line ∧ HoldsEnd line := by
  induction closes with
  | here ends => exact ⟨_, rfl, ends.holdsEnd⟩
  | later _ _ ih => exact ih

theorem Comment.last_ne_nil (comment : Comment lines i n rest) {line : List Char}
    (last : lines[i + n]? = some line) : line ≠ [] := by
  obtain ⟨first, more, inside, here, ⟨indent, _, rfl⟩, closes⟩ := comment
  rw [← List.getElem?_drop, here] at last
  rintro rfl
  cases n with
  | zero => simp at last
  | succ n =>
    obtain ⟨line, there, ends⟩ := closes.exists_last
    obtain rfl := Option.some.inj (last.symm.trans there)
    exact not_holdsEnd_nil ends

theorem comment_drop : Comment (lines.drop d) h n rest ↔ Comment lines (d + h) n rest := by
  unfold Comment
  rw [List.drop_drop]

theorem open_drop (outside : Open lines d) : Open (lines.drop d) h ↔ Open lines (d + h) := by
  -- Whether a line lies under a comment is settled by the lines before it that lie under none.
  induction h using Nat.strongRecOn with
  | ind h ih =>
    rw [Open, Open]
    constructor
    · intro ended k before outside' n rest comment
      by_cases early : k < d
      · rw [Open] at outside
        have := outside k early outside' n rest comment
        omega
      · obtain ⟨k, rfl⟩ : ∃ k', k = d + k' := ⟨k - d, by omega⟩
        have later := ended k (by omega) ((ih k (by omega)).2 outside') n rest (comment_drop.2 comment)
        omega
    · intro ended k before outside' n rest comment
      have later := ended (d + k) (by omega) ((ih k before).1 outside') n rest (comment_drop.1 comment)
      omega

theorem skips_drop (outside : Open lines d) :
    Skips (lines.drop d) h n rest ↔ Skips lines (d + h) n rest :=
  ⟨fun skips => ⟨(open_drop outside).1 skips.outside, comment_drop.1 skips.comment⟩,
    fun skips => ⟨(open_drop outside).2 skips.outside, comment_drop.2 skips.comment⟩⟩

theorem Skips.before_or_behind (outside : Open lines d) (skips : Skips lines h n rest) :
    h + n < d ∨ ∃ h', h = d + h' ∧ Skips (lines.drop d) h' n rest := by
  by_cases early : h < d
  · rw [Open] at outside
    exact .inl (outside h early skips.outside n rest skips.comment)
  · obtain ⟨h', rfl⟩ : ∃ h', h = d + h' := ⟨h - d, by omega⟩
    exact .inr ⟨h', rfl, (skips_drop outside).2 skips⟩

/-! ## One line after the other -/

theorem open_zero : Open lines 0 := by
  rw [Open]
  exact nofun

/-- Up to the end of the comment that opens the first line, no later line lies under none. -/
theorem eq_zero_of_open {m : Nat} {rest : List Char} (comment : Comment lines 0 m rest)
    (outside : Open lines h) (under : h ≤ m) : h = 0 := by
  by_contra later
  rw [Open] at outside
  have := outside 0 (by omega) open_zero m rest comment
  omega

/-- What is read first of physical lines is what follows the comment that opens the first of them, on
    its last line, or else the first line. -/
inductive ReadFirst (lines : List (List Char)) : Nat → List Char → Prop where
  | afterComment {m : Nat} {rest : List Char} (comment : Comment lines 0 m rest) :
      ReadFirst lines m (dropReturn rest)
  | plain {line : List Char} {more : List (List Char)} (first : lines = line :: more)
      (none : ∀ n rest, ¬Comment lines 0 n rest) : ReadFirst lines 0 (dropReturn line)

variable {m : Nat} {line s : List Char} {more : List (List Char)}

theorem ReadFirst.open_succ (first : ReadFirst lines m s) : Open lines (m + 1) := by
  rw [Open]
  intro h before outside n rest later
  cases first with
  | afterComment comment =>
    obtain rfl := eq_zero_of_open comment outside (by omega)
    rw [(later.unique comment).1]
    omega
  | plain _ none =>
    obtain rfl : h = 0 := by omega
    exact absurd later (none n rest)

/-- What is read first follows the comment that counts and ends on its line, or is all of the line. -/
theorem ReadFirst.tail (first : ReadFirst lines m s) (here : lines.drop m = line :: more) :
    (∀ h n rest, Skips lines h n rest → h + n = m → s = dropReturn rest) ∧
      ((∀ h n rest, Skips lines h n rest → h + n ≠ m) → s = dropReturn line) := by
  cases first with
  | afterComment comment =>
    refine ⟨fun h n rest skips ends => ?_, fun none => ?_⟩
    · obtain rfl := eq_zero_of_open comment skips.outside (by omega)
      rw [(skips.comment.unique comment).2]
    · exact absurd (Nat.zero_add m) (none 0 m _ ⟨open_zero, comment⟩)
  | plain first none =>
    refine ⟨fun h n rest skips ends => ?_, fun _ => ?_⟩
    · obtain rfl : h = 0 := by omega
      exact absurd skips.comment (none n rest)
    · rw [List.drop_zero, first] at here
      rw [(List.cons.inj here).1]

theorem ReadFirst.skips (first : ReadFirst lines m s) (before : i < m) :
    ∃ rest, Skips lines 0 m rest := by
  cases first with
  | afterComment comment => exact ⟨_, open_zero, comment⟩
  | plain => omega

section Behind

variable (first : ReadFirst lines m s) (here : lines.drop m = line :: more)

include here in
theorem drop_succ_eq : lines.drop (m + 1) = more := by
  rw [← List.drop_drop, here, List.drop_succ_cons, List.drop_zero]

include here in
theorem getElem?_behind (i : Nat) : lines[m + i]? = (line :: more)[i]? := by
  rw [← here, List.getElem?_drop]

include first here

theorem ReadFirst.skips_of_behind (skips : Skips more h n rest) :
    Skips lines (m + 1 + h) n rest := by
  rw [← drop_succ_eq here] at skips
  exact (skips_drop first.open_succ).1 skips

/-- A comment that counts has ended where the first line is read, or is one of the lines behind. -/
theorem ReadFirst.before_or_behind (skips : Skips lines h n rest) :
    h + n ≤ m ∨ ∃ h', h = m + 1 + h' ∧ Skips more h' n rest := by
  have apart := skips.before_or_behind first.open_succ
  rw [drop_succ_eq here] at apart
  exact apart.imp_left Nat.le_of_lt_succ

end Behind

section Numbered

variable {number : Nat} {read : List (Nat × List Char)}

theorem Numbered.lt_of_mem (later : Numbered (number + m + 1) more read) {n : Nat}
    (among : (n, s) ∈ read) : number + m < n := by
  obtain ⟨i, _, rfl, _⟩ := later.tail n s among
  omega

variable (first : ReadFirst lines m s) (here : lines.drop m = line :: more)
  (later : Numbered (number + m + 1) more read)

include first here later

/-- What is read of the lines behind the first is read of all lines. -/
theorem Numbered.tail_behind {s' : List Char} (among : (n, s') ∈ read) :
    ∃ i line, n = number + i ∧ lines[i]? = some line ∧ s' <:+ dropReturn line ∧
      (∀ h m rest, Skips lines h m rest → h + m = i → s' = dropReturn rest) ∧
      ((∀ h m rest, Skips lines h m rest → h + m ≠ i) → s' = dropReturn line) := by
  obtain ⟨i, line', rfl, there, suffix, ends, plain⟩ := later.tail n s' among
  refine ⟨m + 1 + i, line', by omega, ?_, suffix, fun h n rest skips last => ?_, fun none => ?_⟩
  · rw [Nat.add_assoc, Nat.add_comm 1 i, getElem?_behind here]
    exact there
  · rcases first.before_or_behind here skips with early | ⟨h', rfl, behind⟩
    · omega
    · exact ends h' n rest behind (by omega)
  · refine plain fun h n rest skips last => ?_
    exact none (m + 1 + h) n rest (first.skips_of_behind here skips) (by omega)

/-- Which lines are left out, if one line is read and then what comes of the lines behind it. -/
theorem Numbered.unread_cons (text : line ≠ [] ∨ more ≠ []) {i : Nat} {line' : List Char}
    (is : lines[i]? = some line') : (∀ s', (number + i, s') ∉ (number + m, s) :: read) ↔
      (∃ h m rest, Skips lines h m rest ∧ h ≤ i ∧ i < h + m) ∨
        (i + 1 = lines.length ∧ line' = []) := by
  have length : lines.length = m + 1 + more.length := by
    have := congrArg List.length here
    simp only [List.length_drop, List.length_cons] at this
    omega
  rcases Nat.lt_trichotomy i m with before | rfl | behind
  · -- a line of the comment before its last one
    obtain ⟨rest, skips⟩ := first.skips before
    refine iff_of_true (fun s' member => ?_) (.inl ⟨0, m, rest, skips, by omega, by omega⟩)
    rcases List.mem_cons.1 member with same | member
    · have := (Prod.mk.inj same).1
      omega
    · have := later.lt_of_mem member
      omega
  · -- the line that is read
    refine iff_of_false (fun unread => unread s List.mem_cons_self) ?_
    rintro (⟨h, n, rest, skips, under⟩ | ⟨last, rfl⟩)
    · rcases first.before_or_behind here skips with early | ⟨h', rfl, _⟩ <;> omega
    · obtain rfl := Option.some.inj (is.symm.trans (getElem?_behind here 0))
      rw [List.length_eq_zero_iff.1 (show more.length = 0 by omega)] at text
      simp at text
  · -- a line behind it
    obtain ⟨i, rfl⟩ : ∃ i', i = m + (i' + 1) := ⟨i - (m + 1), by omega⟩
    rw [getElem?_behind here] at is
    have further : number + (m + (i + 1)) = number + m + 1 + i := by omega
    have other : ∀ s', (number + (m + (i + 1)), s') ∈ (number + m, s) :: read ↔
        (number + m + 1 + i, s') ∈ read := by
      intro s'
      rw [further, List.mem_cons, or_iff_right fun same => by
        have := (Prod.mk.inj same).1
        omega]
    simp only [other]
    rw [later.unread i line' is, length]
    refine or_congr ⟨?_, ?_⟩ (and_congr_left' (by omega))
    · rintro ⟨h, n, rest, skips, under, above⟩
      exact ⟨m + 1 + h, n, rest, first.skips_of_behind here skips, by omega, by omega⟩
    · rintro ⟨h, n, rest, skips, under, above⟩
      rcases first.before_or_behind here skips with early | ⟨h', rfl, skips'⟩
      · omega
      · exact ⟨h', n, rest, skips', by omega, by omega⟩

theorem Numbered.cons (text : line ≠ [] ∨ more ≠ []) (suffix : s <:+ dropReturn line) :
    Numbered number lines ((number + m, s) :: read) where
  increasing := by
    rw [List.map_cons, List.pairwise_cons]
    refine ⟨fun n among => ?_, later.increasing⟩
    obtain ⟨⟨n, s⟩, member, rfl⟩ := List.mem_map.1 among
    exact later.lt_of_mem member
  finite := by
    have fewer := later.finite
    have length := congrArg List.length here
    simp only [List.length_drop, List.length_cons] at length
    rw [List.length_cons]
    omega
  tail := by
    intro n s' member
    rcases List.mem_cons.1 member with same | member
    · obtain ⟨rfl, rfl⟩ := Prod.mk.inj same
      exact ⟨m, line, rfl, getElem?_behind here 0, suffix, first.tail here⟩
    · exact later.tail_behind first here member
  unread := fun _ _ => later.unread_cons first here text

end Numbered

/-! ## The text -/

/-- A carriage return that is dropped at the end of a line is dropped at the end of its tail. -/
theorem dropReturn_suffix (last rest : List Char) : dropReturn rest <:+ dropReturn (last ++ rest) := by
  by_cases none : rest = []
  · subst none
    exact List.nil_suffix
  · unfold dropReturn
    rw [List.getLast?_append_of_ne_nil last none]
    split
    · rw [List.dropLast_append_of_ne_nil none]
      exact List.suffix_append _ _
    · exact List.suffix_append _ _

theorem eq_nil_of_physical {cs : List Char} (empty : physical cs = [[]]) : cs = [] := by
  have whole : ['\n'].intercalate (physical cs) = cs := List.intercalate_splitOn '\n'
  rw [← whole, empty]
  rfl

/-- The line that is read first of a text is what is read first of its physical lines. -/
theorem readFirst_skipComment (cs : List Char) : ∃ last more,
    (physical cs).drop (skipComment cs).1 = (last ++ firstLine (skipComment cs).2) :: more ∧
      Cut (afterLine (skipComment cs).2) more ∧
      ReadFirst (physical cs) (skipComment cs).1 (dropReturn (firstLine (skipComment cs).2)) := by
  unfold skipComment
  cases found : blockComment? cs with
  | none =>
    obtain ⟨more, cut, left⟩ := physical_eq_firstLine cs
    refine ⟨[], more, cut, left, .plain cut fun n rest comment => ?_⟩
    obtain ⟨inside, after, opened, -⟩ := comment_zero_iff.1 comment
    rw [found] at opened
    cases opened
  | some comment =>
    obtain ⟨inside, after⟩ := comment
    obtain ⟨more, cut, left⟩ := physical_eq_firstLine after
    have comment : Comment (physical cs) 0 (breaks inside) (firstLine after) :=
      comment_zero_iff.2 ⟨inside, after, found, rfl, rfl⟩
    obtain ⟨indent, blank, open_, rfl⟩ := eq_of_blockComment? found
    obtain ⟨last, here⟩ := drop_physical_append (indent ++ ['/', '*'] ++ (inside ++ ['*', '/'])) cut
    have unbroken : (indent ++ ['/', '*']).count '\n' = 0 :=
      List.count_eq_zero.2 (lineFeed_not_mem_opening blank)
    have breaks : breaks (indent ++ ['/', '*'] ++ (inside ++ ['*', '/'])) = breaks inside := by
      rw [Lines.breaks, List.count_append, unbroken, Nat.zero_add, List.count_append]
      rfl
    rw [breaks] at here
    exact ⟨last, more, by simpa using here, left, .afterComment comment⟩

/-- There is text on the line that is read first, or a line behind it. -/
theorem ReadFirst.text {cs : List Char} (nonempty : cs ≠ []) (first : ReadFirst (physical cs) m s)
    (here : (physical cs).drop m = line :: more) : line ≠ [] ∨ more ≠ [] := by
  cases first with
  | afterComment comment =>
    have last := congrArg (·[0]?) here
    rw [List.getElem?_drop, Nat.add_zero, ← Nat.zero_add m] at last
    exact .inl (comment.last_ne_nil last)
  | plain =>
    rw [← not_and_or]
    rintro ⟨rfl, rfl⟩
    exact nonempty (eq_nil_of_physical here)

theorem numbered_numberedFrom (number : Nat) {cs : List Char} (cut : Cut cs lines) :
    Numbered number lines (numberedFrom number cs) := by
  induction number, cs using numberedFrom.induct generalizing lines with
  | case1 number =>
    -- Nothing is left: either no line at all, or an empty one behind the last line feed.
    rw [numberedFrom_nil]
    refine ⟨.nil, Nat.zero_le _, nofun, fun i line is => iff_of_true nofun (.inr ?_)⟩
    rcases cut with rfl | ⟨_, rfl⟩
    · cases i with
      | zero => exact ⟨rfl, (Option.some.inj is).symm⟩
      | succ i => cases is
    · cases is
  | case2 number cs nonempty skip =>
    rename_i ih
    obtain rfl : lines = physical cs := cut.resolve_right fun ⟨empty, _⟩ => nonempty empty
    obtain ⟨last, more, here, left, first⟩ := readFirst_skipComment cs
    rw [numberedFrom, dif_neg nonempty]
    exact (ih left).cons first here (first.text nonempty here) (dropReturn_suffix last _)

end Lines

open Lines in
/-- **Which lines are read, under which numbers.** Reading a text comes to an end. The numbers go up,
    and under each of them stands what its physical line, counted from 1, holds behind the comment that
    ends on it, or else all of that line, without a carriage return at the end. The lines that are not
    read are those of a comment before its last line, and a last line without text. -/
theorem scriptLines_numbered (text : String) :
    Numbered 1 (physical text.toList) (scriptLines text) :=
  numbered_numberedFrom 1 (.inl rfl)

/-- The second line lies under the comment of the first, and what looks like an opening on it holds
    the end. -/
example : scriptLines "\t/* a\n/*/ b */ c\r\n" = [(2, " b */ c".toList)] := by decide +kernel

end DungeonScript

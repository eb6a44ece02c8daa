import DungeonScript.Proofs.Reading
import DungeonScript.ScriptLine

/-!
Lines before their dice are rolled. A roll decides nothing but the digits of a number:
which words a line has, where each ends and whether it can be read at all is the same
for all dice (`next_outline`, `readable_iff`). So a line has a part in the blocks of
a script that depends on its text and the grammar alone: it opens a block, closes one
or does neither (`Part`), and an opener can be read or not (`Readable`).
-/

namespace DungeonScript

/-! ## Outlines -/

def Word.outline (w : Word) : WordKind × Bool × String :=
  (w.kind, w.text.isEmpty, if w.kind = .number then "" else w.text)

/-- What reading a word gives, but for the digits of a number. -/
def Lexeme.outline (l : Lexeme) : Except ScanFault (WordKind × Bool × String) × List Char :=
  (l.word.map Word.outline, l.rest)

theorem Word.ofRoll_outline (v v' : Int) : (Word.ofRoll v).outline = (Word.ofRoll v').outline := by
  have written : ∀ v : Int, v.repr.isEmpty = false := by
    intro v
    rw [← Bool.not_eq_true, String.isEmpty_iff]
    cases v with
    | ofNat n => exact Nat.repr_ne_empty
    | negSucc n => simp [Int.repr, ← String.toList_inj]
  simp [Word.outline, Word.ofRoll, written]

namespace Lexeme

theorem random_outline (cs : List Char) (d d' : Dice) :
    (random cs d).outline = (random cs d').outline := by
  unfold random
  cases Bound.read? false cs with
  | none => rfl
  | some lo =>
    simp only
    cases Bound.read? true lo.rest with
    | none => rfl
    | some hi => simp only [outline, Except.map, Word.ofRoll_outline _ (d'.between lo.value hi.value).value]

theorem read_outline (first : Char) (more : List Char) (d d' : Dice) :
    (read first more d).outline = (read first more d').outline := by
  unfold read
  split
  · unfold name
    simp only
    split
    · exact random_outline _ d d'
    · rfl
  · split
    · unfold number
      simp only
      split <;> rfl
    · split
      · unfold number
        simp only
        split <;> rfl
      · split
        · unfold text
          split <;> rfl
        · unfold operator
          split
          · rfl
          · split <;> rfl

end Lexeme

/-- What reading the next word gives, but for the digits of a number. -/
def Scanned.outline (s : Scanned) : Except ScanFault (Option (WordKind × Bool × String)) × Cursor :=
  (s.word.map (·.map Word.outline), s.cursor)

theorem Cursor.next_outline (c : Cursor) (d d' : Dice) :
    (c.next d).outline = (c.next d').outline := by
  unfold Cursor.next
  cases c.rest.dropWhile (!Word.starts ·) with
  | nil => rfl
  | cons first more =>
    -- the rest of the line is the same, so the line ends here for both dice or for neither
    have h := Lexeme.read_outline first more d d'
    simp only [Lexeme.outline, Prod.mk.injEq] at h
    obtain ⟨hw, hr⟩ := h
    simp only [Scanned.outline, hr]
    cases hd : (Lexeme.read first more d).word with
    | error f =>
      cases hd' : (Lexeme.read first more d').word with
      | error f' => simp_all [Except.map, Cursor.meetsEnd]
      | ok w' => simp [hd, hd', Except.map] at hw
    | ok w =>
      cases hd' : (Lexeme.read first more d').word with
      | error f' => simp [hd, hd', Except.map] at hw
      | ok w' => simp_all [Except.map, Cursor.meetsEnd]

/-! ## What reading says -/

theorem Scanned.ofReading_asides (s : Scanned) : ∀ a ∈ s.asides, a.OfReading := by
  intro a ha
  simp only [asides, List.mem_append, List.mem_map] at ha
  rcases ha with ⟨c, _, rfl⟩ | ⟨b, _, rfl⟩
  · exact trivial
  · exact rfl

theorem Argument.ofReading_value (a : Argument) (text : String) :
    ∀ x ∈ (a.value text).2, x.OfReading := by
  cases a with
  | word => simp [Argument.value]
  | number => simp only [Argument.value]; split <;> simp [Aside.OfReading, Remark.ofReading]

namespace ScriptLine

theorem ofReading_takeArguments : ∀ (as : List Argument) (c : Cursor) (dice : Dice),
    ∀ x ∈ (takeArguments as c dice).asides, x.OfReading
  | [], _, _ => by simp [takeArguments]
  | a :: rest, c, dice => by
    have hs := (c.next dice).ofReading_asides
    simp only [takeArguments]
    split
    · simp
    · split
      · exact hs
      · exact hs
      · rename_i w _
        split
        · exact hs
        · have hv := a.ofReading_value w.text
          have hr := ofReading_takeArguments rest (c.next dice).cursor (c.next dice).dice
          intro x hx
          simp only [List.mem_append] at hx
          rcases hx with (hx | hx) | hx
          · exact hs x hx
          · exact hv x hx
          · exact hr x hx

theorem ofReading_read (levelVersion : Int) (pass : Pass) (text : List Char) (dice : Dice) :
    ∀ x ∈ (read levelVersion pass text dice).asides, x.OfReading := by
  have hs := ((Cursor.ofLine text).next dice).ofReading_asides
  unfold read
  simp only
  split
  · exact hs
  · exact hs
  · split
    · split
      · exact hs
      · exact hs
    · rename_i u _
      split
      · exact hs
      · have hr := ofReading_takeArguments (u.arguments.take u.argumentCount)
          ((Cursor.ofLine text).next dice).cursor ((Cursor.ofLine text).next dice).dice
        intro x hx
        rcases List.mem_append.1 hx with hx | hx
        · exact hs x hx
        · exact hr x hx

/-- Reading a line sets no quick text and says nothing about blocks. -/
theorem plain_read (levelVersion : Int) (pass : Pass) (text : List Char) (dice : Dice) :
    ∀ x ∈ (read levelVersion pass text dice).asides, x.Plain := fun x hx =>
  (ofReading_read levelVersion pass text dice x hx).plain

theorem takeArguments_fault : ∀ (as : List Argument) (c : Cursor) (dice : Dice) {f : Fault},
    (takeArguments as c dice).outcome = .error f → ∃ e, f = .scan e
  | [], _, _, _, h => by cases h
  | a :: rest, c, dice, f, h => by
    simp only [takeArguments] at h
    split at h
    · cases h
    · split at h
      · cases h
        exact ⟨_, rfl⟩
      · cases h
      · split at h
        · cases h
        · cases hr : (takeArguments rest (c.next dice).cursor (c.next dice).dice).outcome with
          | error e =>
            rw [hr] at h
            cases h
            exact takeArguments_fault rest _ _ hr
          | ok xs => rw [hr] at h; cases h

/-- A line that cannot be read has a word that cannot be, no keyword in front or too few
    arguments. -/
theorem read_fault {levelVersion : Int} {pass : Pass} {text : List Char} {dice : Dice} {f : Fault}
    (h : (read levelVersion pass text dice).outcome = .error f) :
    (∃ e, f = .scan e) ∨ (∃ word, f = .invalidCommand word levelVersion) ∨
      ∃ keyword, f = .notEnoughParameters keyword := by
  unfold read at h
  simp only at h
  split at h
  · cases h
    exact .inl ⟨_, rfl⟩
  · cases h
  · rename_i first _
    split at h
    · split at h
      · cases h
        exact .inr (.inl ⟨_, rfl⟩)
      · cases h
    · rename_i u _
      split at h
      · cases h
      · cases hr : (takeArguments (u.arguments.take u.argumentCount)
            ((Cursor.ofLine text).next dice).cursor ((Cursor.ofLine text).next dice).dice).outcome with
        | error e =>
          rw [hr] at h
          cases h
          exact .inl (takeArguments_fault _ _ _ hr)
        | ok arguments =>
          rw [hr] at h
          simp only [Except.bind, withArguments] at h
          split at h
          · cases h
            exact .inr (.inr ⟨_, rfl⟩)
          · cases h

/-! ## The keyword in front -/

theorem keyword?_of_outline {w w' : Word} (levelVersion : Int) (h : w.outline = w'.outline) :
    keyword? levelVersion w = keyword? levelVersion w' := by
  simp only [Word.outline, Prod.mk.injEq] at h
  obtain ⟨hk, -, ht⟩ := h
  unfold keyword?
  rw [hk] at ht ⊢
  cases hw : w'.kind with
  | name =>
    simp only [hw, reduceCtorEq, if_false] at ht
    rw [ht]
  | number => rfl
  | text => rfl
  | operator => rfl

/-- The keyword of the grammar a line starts with, if it starts with one. -/
def leading? (levelVersion : Int) (text : List Char) : Option Usage :=
  match ((Cursor.ofLine text).next default).word with
  | .ok (some first) => keyword? levelVersion first
  | _ => none

theorem leading?_eq (levelVersion : Int) (text : List Char) (dice : Dice) :
    leading? levelVersion text = match ((Cursor.ofLine text).next dice).word with
      | .ok (some first) => keyword? levelVersion first
      | _ => none := by
  have h := congrArg Prod.fst ((Cursor.ofLine text).next_outline dice default)
  simp only [Scanned.outline] at h
  unfold leading?
  generalize ((Cursor.ofLine text).next dice).word = r at h
  generalize ((Cursor.ofLine text).next default).word = r' at h
  match r, r', h with
  | .error _, .error _, _ => rfl
  | .ok none, .ok none, _ => rfl
  | .ok (some w), .ok (some w'), h =>
    have hw : w.outline = w'.outline := by simpa [Except.map] using h
    exact (keyword?_of_outline levelVersion hw).symm

/-- A line is read as one of the keyword in front of it, which its pass takes. -/
theorem leading?_of_read {levelVersion : Int} {pass : Pass} {text : List Char} {dice : Dice}
    {l : ScriptLine} (h : (read levelVersion pass text dice).outcome = .ok (some l)) :
    leading? levelVersion text = some l.usage ∧ l.verb ≠ .rem ∧ pass.takes l.verb = true := by
  rw [leading?_eq levelVersion text dice]
  unfold read at h
  simp only at h
  split at h
  · cases h
  · cases h
  · rename_i first hfirst
    simp only [hfirst]
    split at h
    · split at h <;> cases h
    · rename_i u hu
      split at h
      · cases h
      · rename_i hpass
        simp only [not_or, Bool.not_eq_true', Bool.not_eq_false] at hpass
        cases hr : (takeArguments (u.arguments.take u.argumentCount)
            ((Cursor.ofLine text).next dice).cursor ((Cursor.ofLine text).next dice).dice).outcome with
        | error f => rw [hr] at h; cases h
        | ok arguments =>
          rw [hr] at h
          simp only [Except.bind, withArguments] at h
          split at h
          · cases h
          · obtain rfl := Option.some.inj (Except.ok.inj h)
            exact ⟨hu, hpass⟩

/-- With a keyword of the pass in front, only the arguments can be at fault. -/
theorem read_of_leading? {levelVersion : Int} {pass : Pass} {text : List Char} {u : Usage}
    (h : leading? levelVersion text = some u) (hrem : u.verb ≠ .rem)
    (htakes : pass.takes u.verb = true) (dice : Dice) :
    (read levelVersion pass text dice).outcome =
      (takeArguments (u.arguments.take u.argumentCount) ((Cursor.ofLine text).next dice).cursor
        ((Cursor.ofLine text).next dice).dice).outcome.bind
        fun arguments => (withArguments u arguments).map some := by
  rw [leading?_eq levelVersion text dice] at h
  unfold read
  simp only
  split at h
  · rename_i first hfirst
    simp only [hfirst, h]
    rw [if_neg (by simp [hrem, htakes])]
  · cases h

/-- With a keyword of the other pass in front, a line is skipped. -/
theorem read_of_not_taken {levelVersion : Int} {pass : Pass} {text : List Char} {u : Usage}
    (leads : leading? levelVersion text = some u) (foreign : pass.takes u.verb = false)
    (dice : Dice) : (read levelVersion pass text dice).outcome = .ok none := by
  rw [leading?_eq levelVersion text dice] at leads
  split at leads
  · rename_i first word
    simp only [read, word, leads]
    rw [if_pos (by simp [foreign])]
  · cases leads

/-- With no keyword of its own in front, the preload pass reads the first word of a line and
    nothing else. -/
theorem read_of_not_preloaded {levelVersion : Int} {text : List Char} {dice : Dice} {first : Word}
    (word : ((Cursor.ofLine text).next dice).word = .ok (some first))
    (foreign : ∀ u, keyword? levelVersion first = some u → u.verb.isPreloaded = false) :
    let s := (Cursor.ofLine text).next dice
    read levelVersion .preload text dice = ⟨.ok none, s.dice, s.asides⟩ := by
  simp only [read, word]
  cases found : keyword? levelVersion first with
  | none => rfl
  | some u =>
    simp only
    rw [if_pos (by simp [Pass.takes, foreign u found])]

end ScriptLine

/-! ## Openers and the lines that close -/

/-- What a line does to the blocks of a script. -/
inductive Part where
  | opens | closes | neither
  deriving Repr, DecidableEq

def Part.ofVerb (v : Verb) : Part :=
  if v.opensCondition then .opens else if v = .endif then .closes else .neither

theorem Part.ofVerb_eq_closes {v : Verb} : Part.ofVerb v = .closes ↔ v = .endif := by
  unfold Part.ofVerb
  by_cases h : v = .endif
  · simp [h, Verb.opensCondition]
  · simp only [h, if_false]
    split <;> simp

namespace ScriptLine

/-- The part of a line, by the keyword in front of it. -/
def part (levelVersion : Int) (text : List Char) : Part :=
  match leading? levelVersion text with
  | some u => .ofVerb u.verb
  | none => .neither

/-- Whether the full pass can read a line: whether there are words for all arguments. -/
def Readable (levelVersion : Int) (text : List Char) : Prop :=
  ∃ l, (read levelVersion .full text default).outcome = .ok (some l)

/-- How many arguments are taken does not depend on the dice. -/
theorem takeArguments_length : ∀ (as : List Argument) (c : Cursor) (d d' : Dice),
    (takeArguments as c d).outcome.map List.length = (takeArguments as c d').outcome.map List.length
  | [], _, _, _ => rfl
  | a :: rest, c, d, d' => by
    simp only [takeArguments]
    split
    · rfl
    · have h := c.next_outline d d'
      simp only [Scanned.outline, Prod.mk.injEq] at h
      obtain ⟨hw, hc⟩ := h
      rw [← hc]
      have ih := takeArguments_length rest (c.next d).cursor (c.next d).dice (c.next d').dice
      generalize (c.next d).word = r at hw
      generalize (c.next d').word = r' at hw
      match r, r', hw with
      | .error f, .error f', _ => simp_all [Except.map]
      | .ok none, .ok none, _ => rfl
      | .ok (some w), .ok (some w'), hw =>
        have hempty : w.text.isEmpty = w'.text.isEmpty := by
          simp only [Except.map, Option.map_some, Except.ok.injEq, Option.some.injEq,
            Word.outline, Prod.mk.injEq] at hw
          exact hw.2.1
        simp only [hempty]
        split
        · rfl
        · generalize (takeArguments rest _ (c.next d).dice).outcome = o at ih
          generalize (takeArguments rest _ (c.next d').dice).outcome = o' at ih
          match o, o', ih with
          | .error f, .error f', ih => exact ih
          | .ok xs, .ok xs', ih => simpa [Except.map] using ih

/-- Whether a line can be read does not depend on the dice. -/
theorem exists_read_of_read {levelVersion : Int} {pass : Pass} {text : List Char} {d : Dice}
    {l : ScriptLine} (h : (read levelVersion pass text d).outcome = .ok (some l)) (d' : Dice) :
    ∃ l', (read levelVersion pass text d').outcome = .ok (some l') := by
  obtain ⟨hlead, hrem, htakes⟩ := leading?_of_read h
  rw [read_of_leading? hlead hrem htakes] at h ⊢
  have hc := congrArg Prod.snd ((Cursor.ofLine text).next_outline d d')
  simp only [Scanned.outline] at hc
  rw [← hc]
  have hlen := takeArguments_length (l.usage.arguments.take l.usage.argumentCount)
    ((Cursor.ofLine text).next d).cursor ((Cursor.ofLine text).next d).dice
    ((Cursor.ofLine text).next d').dice
  generalize (takeArguments _ _ ((Cursor.ofLine text).next d).dice).outcome = o at h hlen
  generalize (takeArguments _ _ ((Cursor.ofLine text).next d').dice).outcome = o' at hlen ⊢
  match o, o', hlen with
  | .error f, .error _, _ => cases h
  | .ok xs, .ok xs', hlen =>
    have hlen : xs.length = xs'.length := by simpa [Except.map] using hlen
    simp only [Except.bind, withArguments] at h ⊢
    rw [← hlen]
    split at h
    · cases h
    · rename_i hcount
      rw [if_neg hcount]
      exact ⟨_, rfl⟩

theorem readable_iff (levelVersion : Int) (text : List Char) (dice : Dice) :
    Readable levelVersion text ↔
      ∃ l, (read levelVersion .full text dice).outcome = .ok (some l) :=
  ⟨fun ⟨_, h⟩ => exists_read_of_read h dice, fun ⟨_, h⟩ => exists_read_of_read h default⟩

instance (levelVersion : Int) (text : List Char) : Decidable (Readable levelVersion text) :=
  match h : (read levelVersion .full text default).outcome with
  | .ok (some l) => .isTrue ⟨l, h⟩
  | .ok none => .isFalse fun ⟨_, h'⟩ => by rw [h] at h'; cases h'
  | .error _ => .isFalse fun ⟨_, h'⟩ => by rw [h] at h'; cases h'

/-- A line that is read has the part of its verb. -/
theorem part_of_read {levelVersion : Int} {pass : Pass} {text : List Char} {dice : Dice}
    {l : ScriptLine} (h : (read levelVersion pass text dice).outcome = .ok (some l)) :
    part levelVersion text = .ofVerb l.verb := by
  simp only [part, (leading?_of_read h).1, verb]

theorem mem_grammar_of_leading? {levelVersion : Int} {text : List Char} {u : Usage}
    (h : leading? levelVersion text = some u) : u ∈ Grammar.ofVersion levelVersion := by
  unfold leading? at h
  split at h
  · unfold keyword? at h
    split at h
    · exact List.mem_of_find?_eq_some h
    · cases h
  · cases h

/-- An argument that the grammar takes as a number has the number its word reads as. -/
theorem takeArguments_number : ∀ (as : List Argument) (c : Cursor) (dice : Dice)
    {xs : List (String × Int)}, (takeArguments as c dice).outcome = .ok xs →
    ∀ (i : Nat) (x : String × Int), as[i]? = some .number → xs[i]? = some x →
      x.2 = (Numeral.read x.1).value
  | [], _, _, _, _, _, _, asked, _ => by cases asked
  | a :: rest, c, dice, xs, taken, i, x, asked, found => by
    simp only [takeArguments] at taken
    have none : ∀ {xs : List (String × Int)}, (.ok [] : Except Fault _) = .ok xs → xs[i]? = none := by
      rintro _ ⟨⟩
      rfl
    split at taken
    · rw [none taken] at found
      cases found
    · split at taken
      · cases taken
      · rw [none taken] at found
        cases found
      · split at taken
        · rw [none taken] at found
          cases found
        · rename_i w _ _
          cases tail : (takeArguments rest (c.next dice).cursor (c.next dice).dice).outcome with
          | error f =>
            rw [tail] at taken
            cases taken
          | ok more =>
            rw [tail] at taken
            obtain rfl := Except.ok.inj taken
            cases i with
            | zero =>
              obtain rfl := Option.some.inj asked
              obtain rfl := Option.some.inj found
              rfl
            | succ i => exact takeArguments_number rest _ _ tail i x asked found

/-- A number of a line that was read is the one its word reads as. -/
theorem number_of_read {levelVersion : Int} {pass : Pass} {text : List Char} {dice : Dice}
    {l : ScriptLine} (h : (read levelVersion pass text dice).outcome = .ok (some l)) {i : Nat}
    (asked : (l.usage.arguments.take l.usage.argumentCount)[i]? = some .number) :
    l.number i = (Numeral.read (l.word i)).value := by
  obtain ⟨leads, notRem, takes⟩ := leading?_of_read h
  rw [read_of_leading? leads notRem takes] at h
  generalize taken : (takeArguments _ _ ((Cursor.ofLine text).next dice).dice).outcome = o at h
  cases o with
  | error f => cases h
  | ok xs =>
    simp only [Except.bind, withArguments] at h
    split at h
    · cases h
    · have line := Option.some.inj (Except.ok.inj h)
      have words : xs.map (·.1) = l.words := congrArg ScriptLine.words line
      have numbers : xs.map (·.2) = l.numbers := congrArg ScriptLine.numbers line
      simp only [number, word, ← words, ← numbers, List.getD_eq_getElem?_getD, List.getElem?_map]
      cases found : xs[i]? with
      | none => rfl
      | some x => exact takeArguments_number _ _ _ taken i x asked found

theorem arguments_of_endif (levelVersion : Int) :
    ∀ u ∈ Grammar.ofVersion levelVersion, u.verb = .endif → u.arguments = [] := by
  unfold Grammar.ofVersion
  split
  · decide
  · decide

theorem readable_of_closes {levelVersion : Int} {text : List Char}
    (h : part levelVersion text = .closes) : Readable levelVersion text := by
  unfold part at h
  split at h
  · rename_i u hu
    have hv := Part.ofVerb_eq_closes.1 h
    have ha := arguments_of_endif levelVersion u (mem_grammar_of_leading? hu) hv
    refine ⟨⟨u, [], []⟩, ?_⟩
    rw [read_of_leading? hu (by simp [hv]) (by simp [hv, Pass.takes, Verb.isPreloaded])]
    simp [ha, takeArguments, withArguments, Usage.requiredCount, Except.bind, Except.map]
  · cases h

/-- An opener that cannot be read has a word that cannot be, or too few arguments. -/
theorem read_of_opens {levelVersion : Int} {text : List Char}
    (h : part levelVersion text = .opens) (dice : Dice) :
    (∃ l, (read levelVersion .full text dice).outcome = .ok (some l)) ∨
      ∃ f, (read levelVersion .full text dice).outcome = .error f ∧
        ((∃ e, f = .scan e) ∨ ∃ keyword, f = .notEnoughParameters keyword) := by
  unfold part at h
  split at h
  · rename_i u hu
    have opens : u.verb.opensCondition = true := by
      unfold Part.ofVerb at h
      split at h
      · assumption
      · split at h <;> cases h
    have taken : u.verb ≠ .rem ∧ Pass.full.takes u.verb = true := by
      revert opens
      cases u.verb <;> simp [Verb.opensCondition, Pass.takes, Verb.isPreloaded]
    rw [read_of_leading? hu taken.1 taken.2]
    cases ho : (takeArguments (u.arguments.take u.argumentCount)
        ((Cursor.ofLine text).next dice).cursor ((Cursor.ofLine text).next dice).dice).outcome with
    | error f => exact .inr ⟨f, rfl, .inl (takeArguments_fault _ _ _ ho)⟩
    | ok arguments =>
      simp only [Except.bind, withArguments]
      split
      · exact .inr ⟨_, rfl, .inr ⟨_, rfl⟩⟩
      · exact .inl ⟨_, rfl⟩
  · cases h

end ScriptLine

end DungeonScript

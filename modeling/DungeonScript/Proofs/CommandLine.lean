import DungeonScript.Proofs.Library
import Mathlib.Data.List.Basic

/-!
What a command line says. Its arguments are read from left to right, in two scopes, with clusters
of letters, with values in the same argument or in the next, and with paths in between. What comes
of the flags that only a run has can be told without any of that: of an understood command line,
such a flag says what the first argument says that spells it (`spelled?`).

The proof follows a flag without a letter through the reading (`Tracks`). What has been kept of it,
or else is spelled by the arguments that are left, is the same after every argument (`Accounts`,
`readArguments_accounts`). It starts as what the whole line spells, and ends as what the run is told
(`run_told`). No number that fits is refused: behind an understood run, it is understood as well
(`parse_append_flag`).
-/

namespace DungeonScript

/-! ## Numbers in decimal -/

namespace Decimal

theorem digits?_toDigits (n : Nat) : digits? (Nat.toDigits 10 n) = some n := by
  have written : ¬ (Nat.toDigits 10 n).isEmpty = true := by
    rw [List.isEmpty_iff]
    exact Nat.toDigits_ne_nil
  have digits : (Nat.toDigits 10 n).all Char.isDigit = true :=
    List.all_eq_true.2 fun _ => Nat.isDigit_of_mem_toDigits (by decide) (by decide)
  have value := Nat.ofDigitChars_ten_toDigits (n := n)
  rw [Nat.ofDigitChars_eq_foldl] at value
  simp only [Nat.mul_comm 10] at value
  rw [digits?, if_neg written, if_pos digits, value]

theorem exists_toDigits (n : Nat) :
    ∃ first more, Nat.toDigits 10 n = first :: more ∧ first ≠ '-' ∧ first ≠ '+' := by
  cases written : Nat.toDigits 10 n with
  | nil => exact absurd written Nat.toDigits_ne_nil
  | cons first more =>
    have member : first ∈ Nat.toDigits 10 n := written ▸ List.mem_cons_self
    have digit := Nat.isDigit_of_mem_toDigits (by decide) (by decide) member
    refine ⟨first, more, rfl, ?_, ?_⟩ <;>
    · rintro rfl
      exact absurd digit (by decide)

theorem counter?_toString {n : Nat} (fits : n < 18446744073709551616) :
    counter? (toString n) = some n := by
  obtain ⟨first, more, written, -, noPlus⟩ := exists_toDigits n
  have listed : (toString n).toList = first :: more := Nat.toList_repr.trans written
  have value := digits?_toDigits n
  rw [written] at value
  unfold counter?
  rw [listed]
  split
  · rename_i same
    exact absurd (List.cons.inj same).1 noPlus
  · rw [value, Option.filter_some, if_pos (decide_eq_true (Nat.le_of_lt_succ fits))]

theorem whole?_toString {n : Nat} (fits : (n : Int) ≤ greatestNumber) :
    whole? (toString n) = some (n : Int) := by
  obtain ⟨first, more, written, noMinus, noPlus⟩ := exists_toDigits n
  have listed : (toString n).toList = first :: more := Nat.toList_repr.trans written
  have value := digits?_toDigits n
  rw [written] at value
  have signed : signed? (first :: more) = some (n : Int) := by
    unfold signed?
    split
    · rename_i same
      exact absurd (List.cons.inj same).1 noMinus
    · rename_i same
      exact absurd (List.cons.inj same).1 noPlus
    · rw [value]
      rfl
  have inRange : InRange (n : Int) := ⟨by unfold leastNumber; omega, fits⟩
  rw [whole?, listed, signed, Option.filter_some, if_pos (decide_eq_true inRange)]

end Decimal

namespace CommandLine

theorem of_bind_eq_ok {α β : Type} {x : Except Stop α} {next : α → Except Stop β} {b : β}
    (ends : x >>= next = .ok b) : ∃ a, x = .ok a ∧ next a = .ok b := by
  cases x with
  | error stop => cases ends
  | ok a => exact ⟨a, rfl, ends⟩

/-! ## One flag -/

namespace Given

theorem seedOf?_toString {n : Nat} (fits : n < 4294967296) : seedOf? (toString n) = some n := by
  rw [seedOf?, Decimal.whole?_toString (by unfold greatestNumber; omega), Option.bind_some,
    itemNumber?_eq_some]
  exact ⟨rfl, fits⟩

theorem lt_of_seedOf? {value : String} {n : Nat} (read : seedOf? value = some n) :
    n < 4294967296 := by
  obtain ⟨v, -, item⟩ := Option.bind_eq_some_iff.1 read
  exact (itemNumber?_eq_some.1 item).2

theorem once_eq_ok {α : Type} {old new r : Option α} :
    once old new = .ok r ↔ old = none ∧ new = r ∧ r.isSome = true := by
  cases old with
  | some v => simp [once]
  | none =>
    cases new with
    | none =>
      simp only [once, reduceCtorEq, true_and, false_iff]
      rintro ⟨rfl, readable⟩
      cases readable
    | some v =>
      simp only [once, Except.ok.injEq, true_and]
      exact ⟨fun same => ⟨same, same ▸ rfl⟩, And.left⟩

/-- What stands once only is put where nothing has been put, if it can be read. -/
theorem put_once {α : Type} {old new : Option α} (put : Option α → Given) {g' : Given}
    (taken : (do return put (← once old new) : Except Stop Given) = .ok g') :
    old = none ∧ ∃ v, new = some v ∧ g' = put (some v) := by
  obtain ⟨r, kept, same⟩ := of_bind_eq_ok taken
  obtain ⟨free, rfl, readable⟩ := once_eq_ok.1 kept
  obtain ⟨v, rfl⟩ := Option.isSome_iff_exists.1 readable
  exact ⟨free, v, rfl, (Except.ok.inj same).symm⟩

/-- What a flag changes, and what it needs for that. -/
def Takes (g g' : Given) (value : String) : Flag → Prop
  | .config => ∃ path, g' = { g with config := path }
  | .verbose => ∃ count, g' = { g with verbosity := count }
  | .turns => g.turns = none ∧ ∃ n, turnsOf? value = some n ∧ g' = { g with turns := some n }
  | .seed => g.seed = none ∧ ∃ n, seedOf? value = some n ∧ g' = { g with seed := some n }
  | .runAfterVictory => g.runAfterVictory = false ∧ g' = { g with runAfterVictory := true }
  | .help | .version => False

theorem takes_of_take {g g' : Given} {f : Flag} {value : String}
    (taken : g.take f value = .ok g') : g.Takes g' value f := by
  cases f with
  | config =>
    obtain ⟨-, path, -, same⟩ := put_once (fun path => { g with config := path }) taken
    exact ⟨some path, same⟩
  | verbose => exact ⟨_, (Except.ok.inj taken).symm⟩
  | turns => exact put_once (fun n => { g with turns := n }) taken
  | seed => exact put_once (fun n => { g with seed := n }) taken
  | runAfterVictory =>
    by_cases told : g.runAfterVictory = true
    · rw [take, if_pos told] at taken
      cases taken
    · rw [take, if_neg told] at taken
      exact ⟨Bool.eq_false_iff.2 told, (Except.ok.inj taken).symm⟩
  | help | version => cases taken

/-- A flag changes nothing that is kept of another. -/
theorem Takes.keeps {g g' : Given} {f : Flag} {value : String} (takes : g.Takes g' value f) :
    (f ≠ .turns → g'.turns = g.turns) ∧ (f ≠ .seed → g'.seed = g.seed) ∧
      (f ≠ .runAfterVictory → g'.runAfterVictory = g.runAfterVictory) := by
  cases f with
  | config | verbose =>
    obtain ⟨_, rfl⟩ := takes
    exact ⟨fun _ => rfl, fun _ => rfl, fun _ => rfl⟩
  | turns =>
    obtain ⟨-, n, -, rfl⟩ := takes
    exact ⟨fun differs => absurd rfl differs, fun _ => rfl, fun _ => rfl⟩
  | seed =>
    obtain ⟨-, n, -, rfl⟩ := takes
    exact ⟨fun _ => rfl, fun differs => absurd rfl differs, fun _ => rfl⟩
  | runAfterVictory =>
    obtain ⟨-, rfl⟩ := takes
    exact ⟨fun _ => rfl, fun _ => rfl, fun differs => absurd rfl differs⟩
  | help | version => exact takes.elim

def goesOn? (g : Given) : Option Unit := if g.runAfterVictory then some () else none

end Given

/-- A flag without a letter: what is kept of it, and what its value is read as. -/
structure Tracks {α : Type} (f : Flag) (held : Given → Option α) (read : String → Option α) :
    Prop where
  letterless : f.short? = none
  own {g g' : Given} {value : String} : g.Takes g' value f →
    held g = none ∧ ∃ v, read value = some v ∧ held g' = some v
  other {g g' : Given} {f' : Flag} {value : String} : f' ≠ f → g.Takes g' value f' →
    held g' = held g
  script (g : Given) (path : Option String) : held { g with script := path } = held g

theorem tracks_turns : Tracks .turns Given.turns Given.turnsOf? where
  letterless := rfl
  own := by
    rintro g g' value ⟨free, n, readable, rfl⟩
    exact ⟨free, n, readable, rfl⟩
  other differs takes := takes.keeps.1 differs
  script _ _ := rfl

theorem tracks_seed : Tracks .seed Given.seed Given.seedOf? where
  letterless := rfl
  own := by
    rintro g g' value ⟨free, n, readable, rfl⟩
    exact ⟨free, n, readable, rfl⟩
  other differs takes := takes.keeps.2.1 differs
  script _ _ := rfl

theorem tracks_runAfterVictory : Tracks .runAfterVictory Given.goesOn? fun _ => some () where
  letterless := rfl
  own := by
    rintro g g' value ⟨free, rfl⟩
    refine ⟨?_, (), rfl, rfl⟩
    rw [Given.goesOn?, free, if_neg Bool.false_ne_true]
  other {g g' _ _} differs takes := by
    rw [Given.goesOn?, Given.goesOn?, takes.keeps.2.2 differs]
  script _ _ := rfl

/-! ## What the arguments spell -/

section Spelling

variable {f : Flag} {argument : String}

theorem spelled?_of_plain (rest : List String)
    (plain : ∀ body, argument.toList ≠ '-' :: '-' :: body) :
    spelled? f (argument :: rest) = spelled? f rest := by
  rw [spelled?]
  split
  · exact absurd ‹_› (plain _)
  · exact absurd ‹_› (plain _)
  · rfl

theorem spelled?_of_end (rest : List String) (ends : argument.toList = ['-', '-']) :
    spelled? f (argument :: rest) = none := by
  rw [spelled?, ends]
  rfl

theorem spelled?_of_long {body : List Char} (rest : List String)
    (listed : argument.toList = '-' :: '-' :: body) (goesOn : body ≠ []) :
    spelled? f (argument :: rest) =
      if String.ofList (splitAtEquals body).1 = f.long then
        match (splitAtEquals body).2 with
        | some value => some (String.ofList value)
        | none => if f.takesValue then rest.head? else some ""
      else spelled? f rest := by
  rw [spelled?, listed]
  split
  · rename_i same
    exact absurd (List.cons.inj (List.cons.inj same).2).2 goesOn
  · rename_i same
    obtain rfl := (List.cons.inj (List.cons.inj same).2).2
    rfl
  · rename_i other
    exact absurd rfl (other body)

theorem ne_of_not_startsFlag (value : ¬startsFlag argument = true) (body : List Char) :
    argument.toList ≠ '-' :: '-' :: body := by
  intro listed
  rw [startsFlag, listed] at value
  exact value rfl

end Spelling

theorem long_inj {f f' : Flag} (same : f.long = f'.long) : f = f' := by
  cases f <;> cases f' <;> first | rfl | exact absurd same (by decide)

theorem of_long? {s : Scope} {word : String} {f : Flag} (known : s.long? word = some f) :
    f.long = word ∧ f ∈ s.flags := by
  have named := List.find?_some known
  exact ⟨eq_of_beq named, List.mem_of_find?_eq_some known⟩

theorem short?_of_short? {s : Scope} {letter : Char} {f : Flag}
    (known : s.short? letter = some f) : f.short? = some letter := by
  have named := List.find?_some known
  exact eq_of_beq named

/-! ## One argument -/

variable {α : Type} {f : Flag} {held : Given → Option α} {read : String → Option α}
  {s : Scope} {g g' : Given}

/-- A letter stands for a flag, whose value is in the same argument or in the next. -/
theorem readShort_cons {letter : Char} {letters : List Char} {pending : Option Flag}
    (done : readShort s (letter :: letters) g = .ok (g', pending)) :
    ∃ f', s.short? letter = some f' ∧ (g' = g ∧ pending = some f' ∨
      ∃ value between, g.take f' value = .ok between ∧
        (g' = between ∧ pending = none ∨ readShort s letters between = .ok (g', pending))) := by
  rw [readShort] at done
  cases known : s.short? letter with
  | none =>
    rw [known] at done
    cases done
  | some f' =>
    rw [known] at done
    refine ⟨f', rfl, ?_⟩
    dsimp only at done
    split at done
    · split at done
      · cases done
        exact .inl ⟨rfl, rfl⟩
      all_goals
        obtain ⟨between, taken, same⟩ := of_bind_eq_ok done
        cases same
        exact .inr ⟨_, _, taken, .inl ⟨rfl, rfl⟩⟩
    · obtain ⟨between, taken, later⟩ := of_bind_eq_ok done
      exact .inr ⟨_, between, taken, .inr later⟩

/-- Letters change nothing that is kept of a flag without one. -/
theorem readShort_held (t : Tracks f held read) {letters : List Char} {pending : Option Flag}
    (done : readShort s letters g = .ok (g', pending)) : held g' = held g ∧ pending ≠ some f := by
  induction letters generalizing g with
  | nil =>
    cases done
    exact ⟨rfl, nofun⟩
  | cons letter letters ih =>
    obtain ⟨f', known, done⟩ := readShort_cons done
    have differs : f' ≠ f := by
      rintro rfl
      have lettered := short?_of_short? known
      rw [t.letterless] at lettered
      cases lettered
    rcases done with ⟨rfl, rfl⟩ | ⟨value, between, taken, done⟩
    · exact ⟨rfl, fun same => differs (Option.some.inj same)⟩
    · have kept := t.other differs (Given.takes_of_take taken)
      rcases done with ⟨rfl, rfl⟩ | later
      · exact ⟨kept, nofun⟩
      · obtain ⟨same, other⟩ := ih later
        exact ⟨same.trans kept, other⟩

/-- A word stands for a flag, whose value is in the same argument or in the next. -/
theorem readLong_cases {body : List Char} {pending : Option Flag}
    (done : readLong s body g = .ok (g', pending)) :
    ∃ f', s.long? (String.ofList (splitAtEquals body).1) = some f' ∧
      (g' = g ∧ pending = some f' ∧ f'.takesValue = true ∧ (splitAtEquals body).2 = none ∨
        pending = none ∧ ∃ value, g.take f' value = .ok g' ∧
          ((splitAtEquals body).2.map String.ofList = some value ∨
            (splitAtEquals body).2 = none ∧ f'.takesValue = false ∧ value = "")) := by
  unfold readLong at done
  dsimp only at done
  split at done
  · cases done
  · rename_i f' value known inline
    split at done
    · obtain ⟨_, taken, same⟩ := of_bind_eq_ok done
      cases same
      exact ⟨f', known, .inr ⟨rfl, _, taken, .inl (by rw [inline]; rfl)⟩⟩
    · cases done
  · rename_i f' known inline
    split at done
    · rename_i takes
      cases done
      exact ⟨f', known, .inl ⟨rfl, rfl, takes, inline⟩⟩
    · rename_i takes
      obtain ⟨_, taken, same⟩ := of_bind_eq_ok done
      cases same
      exact ⟨f', known, .inr ⟨rfl, _, taken, .inr ⟨inline, Bool.eq_false_iff.2 takes, rfl⟩⟩⟩

/-- What has been kept of a flag, or else is spelled by the arguments that are left. -/
def said (f : Flag) (held : Given → Option α) (read : String → Option α) (g : Given)
    (arguments : List String) : Option (Option α) :=
  (held g).map some <|> (spelled? f arguments).map read

/-- Arguments are read up to the rest of them, and a flag says what it said. A flag without a
    meaning here is not even read. -/
def Accounts (f : Flag) (held : Given → Option α) (read : String → Option α) (s : Scope)
    (g g' : Given) (arguments rest : List String) : Prop :=
  said f held read g' rest = said f held read g arguments ∧ (f ∉ s.flags → held g' = held g)

theorem Accounts.refl (arguments : List String) :
    Accounts f held read s g g arguments arguments := ⟨rfl, fun _ => rfl⟩

theorem Accounts.trans {g₁ : Given} {arguments rest left : List String}
    (first : Accounts f held read s g g₁ arguments rest)
    (second : Accounts f held read s g₁ g' rest left) :
    Accounts f held read s g g' arguments left :=
  ⟨second.1.trans first.1, fun absent => (second.2 absent).trans (first.2 absent)⟩

theorem accounts_of_held {arguments rest : List String} (same : held g' = held g)
    (unspelled : spelled? f arguments = spelled? f rest) :
    Accounts f held read s g g' arguments rest :=
  ⟨by rw [said, said, same, unspelled], fun _ => same⟩

/-- What is read is one flag, this one or another. -/
theorem accounts_of_takes (t : Tracks f held read) {f' : Flag} {value : String}
    {arguments rest : List String} (known : f' ∈ s.flags) (takes : g.Takes g' value f')
    (own : f' = f → spelled? f arguments = some value)
    (other : f' ≠ f → spelled? f arguments = spelled? f rest) :
    Accounts f held read s g g' arguments rest := by
  refine ⟨?_, fun absent => t.other (fun same => absent (same ▸ known)) takes⟩
  unfold said
  by_cases same : f' = f
  · obtain ⟨free, v, readable, kept⟩ := t.own (same ▸ takes)
    rw [own same, free, kept, Option.map_some, Option.map_some, readable]
    rfl
  · rw [other same, t.other same takes]

variable {argument : String} {rest : List String} {c : Char} {cs : List Char}

/-- An argument of flags that needs no other one. -/
theorem accounts_flags (t : Tracks f held read) (listed : argument.toList = '-' :: c :: cs)
    (goesOn : c = '-' → cs ≠ [])
    (done : (if c = '-' then readLong s cs g else readShort s (c :: cs) g) = .ok (g', none)) :
    Accounts f held read s g g' (argument :: rest) rest := by
  split at done
  · rename_i hyphen
    subst hyphen
    obtain ⟨f', known, ⟨-, pending, -⟩ | ⟨-, value, taken, inline⟩⟩ := readLong_cases done
    · cases pending
    · obtain ⟨named, known⟩ := of_long? known
      have spelled := spelled?_of_long (f := f) rest listed (goesOn rfl)
      have takes := Given.takes_of_take taken
      refine accounts_of_takes t known takes (fun same => ?_) fun differs => ?_
      · subst same
        rw [spelled, if_pos named.symm]
        rcases inline with inline | ⟨inline, valueless, rfl⟩
        · obtain ⟨written, there, rfl⟩ := Option.map_eq_some_iff.1 inline
          rw [there]
        · rw [inline]
          simp only [valueless, Bool.false_eq_true, if_false]
      · rw [spelled, if_neg]
        exact fun same => differs (long_inj (named.trans same))
  · rename_i letter
    refine accounts_of_held (readShort_held t done).1 (spelled?_of_plain rest fun body same => ?_)
    rw [listed] at same
    exact letter (List.cons.inj (List.cons.inj same).2).1

/-- An argument of flags, the last of which has its value in the next argument. -/
theorem accounts_pending (t : Tracks f held read) (listed : argument.toList = '-' :: c :: cs)
    (goesOn : c = '-' → cs ≠ []) {g₁ : Given} {f' : Flag} {value : String}
    (done : (if c = '-' then readLong s cs g else readShort s (c :: cs) g) = .ok (g₁, some f'))
    (plain : ¬startsFlag value = true) (taken : g₁.take f' value = .ok g') :
    Accounts f held read s g g' (argument :: value :: rest) rest := by
  have takes := Given.takes_of_take taken
  have next := spelled?_of_plain (f := f) rest (ne_of_not_startsFlag plain)
  split at done
  · rename_i hyphen
    subst hyphen
    obtain ⟨f'', known, ⟨rfl, pending, takesValue, inline⟩ | ⟨pending, -⟩⟩ := readLong_cases done
    · cases pending
      obtain ⟨named, known⟩ := of_long? known
      have spelled := spelled?_of_long (f := f) (value :: rest) listed (goesOn rfl)
      refine accounts_of_takes t known takes (fun same => ?_) fun differs => ?_
      · subst same
        rw [spelled, if_pos named.symm, inline]
        simp only [takesValue, if_true]
        rfl
      · rw [spelled, if_neg, next]
        exact fun same => differs (long_inj (named.trans same))
    · cases pending
  · rename_i letter
    obtain ⟨kept, differs⟩ := readShort_held t done
    have differs : f' ≠ f := fun same => differs (congrArg some same)
    have unspelled : spelled? f (argument :: value :: rest) = spelled? f rest := by
      rw [spelled?_of_plain, next]
      intro body same
      rw [listed] at same
      exact letter (List.cons.inj (List.cons.inj same).2).1
    exact accounts_of_held ((t.other differs takes).trans kept) unspelled

/-! ## All arguments -/

theorem takeScripts_held (t : Tracks f held read) {paths : List String}
    (done : takeScripts s paths g = .ok g') : held g' = held g := by
  induction paths generalizing g with
  | nil =>
    cases done
    rfl
  | cons path paths ih =>
    rw [takeScripts] at done
    split at done
    · cases done
    · obtain ⟨between, taken, later⟩ := of_bind_eq_ok done
      obtain ⟨script, -, same⟩ := of_bind_eq_ok taken
      cases same
      exact (ih later).trans (t.script g script)

/-- **Reading on changes nothing that is said.** What has been kept of a flag, or else is spelled by
    the arguments that are left, is the same wherever the reading stands. -/
theorem readArguments_accounts (t : Tracks f held read) {arguments left : List String}
    (done : readArguments s arguments g = .ok (g', left)) :
    Accounts f held read s g g' arguments left := by
  fun_induction readArguments s arguments g with
  | case1 g =>
    cases done
    exact .refl []
  | case2 g argument rest ends =>
    obtain ⟨g₁, taken, same⟩ := of_bind_eq_ok done
    cases same
    exact accounts_of_held (takeScripts_held t taken) (spelled?_of_end rest ends)
  | case3 | case5 | case6 | case7 | case10 => cases done
  | case4 g argument rest c cs goesOn listed g₁ flags ih =>
    exact (accounts_flags t listed (fun hyphen => goesOn hyphen) flags).trans (ih done)
  | case8 g argument c cs goesOn listed g₁ f' flags value rest plain g₂ taken ih =>
    exact (accounts_pending t listed (fun hyphen => goesOn hyphen) flags plain taken).trans
      (ih done)
  | case9 g argument rest =>
    cases done
    exact .refl (argument :: rest)
  | case11 g argument rest behind g₁ taken goesOn plain ih =>
    obtain ⟨script, -, same⟩ := of_bind_eq_ok taken
    cases same
    have unspelled := spelled?_of_plain (f := f) rest fun body same => plain _ _ same
    exact (accounts_of_held (t.script g script) unspelled).trans (ih done)

theorem left_eq_nil {arguments left : List String} (behind : s ≠ .program)
    (done : readArguments s arguments g = .ok (g', left)) : left = [] := by
  fun_induction readArguments s arguments g with
  | case1 g =>
    cases done
    rfl
  | case2 g argument rest ends =>
    obtain ⟨g₁, -, same⟩ := of_bind_eq_ok done
    cases same
    rfl
  | case3 | case5 | case6 | case7 | case10 => cases done
  | case4 | case8 | case11 => exact ‹_ → left = []› done
  | case9 g argument rest program => exact absurd program behind

/-! ## Commands -/

theorem of_invocation {action : Given → Action} {before : Given} {arguments : List String}
    {i : Invocation} (done : invocation s action before arguments = .ok i) :
    ∃ after left, readArguments s arguments .nothing = .ok (after, left) ∧
      i.action = action after := by
  obtain ⟨⟨after, left⟩, read, done⟩ := of_bind_eq_ok done
  dsimp only at done
  split at done
  · cases done
  · cases done
    exact ⟨after, left, read, rfl⟩

/-- A run is told what is given behind its command. -/
theorem of_parse_run {arguments : List String} {i : Invocation} {o : Overrides}
    (understood : parse arguments = .ok i) (run : i.action = .run o) :
    ∃ before behind after,
      readArguments .program arguments .nothing = .ok (before, "run" :: behind) ∧
      readArguments .run behind .nothing = .ok (after, []) ∧
      o = ⟨after.seed, after.turns, after.runAfterVictory⟩ := by
  obtain ⟨⟨before, rest⟩, first, second⟩ := of_bind_eq_ok understood
  dsimp only at second
  split at second
  · obtain ⟨after, left, -, action⟩ := of_invocation second
    rw [run] at action
    cases action
  · rename_i behind
    obtain ⟨after, left, read, action⟩ := of_invocation second
    obtain rfl := left_eq_nil (by decide) read
    rw [run] at action
    exact ⟨before, behind, after, first, read, Action.run.inj action⟩
  · split at second <;> cases second
  · cases second

/-- A flag that has a meaning only behind the command is kept as the whole line spells it. -/
theorem held_of_parse (t : Tracks f held read) (free : held .nothing = none)
    (absent : f ∉ Scope.program.flags) {arguments behind : List String} {before after : Given}
    (first : readArguments .program arguments .nothing = .ok (before, "run" :: behind))
    (second : readArguments .run behind .nothing = .ok (after, [])) :
    (held after).map some = (spelled? f arguments).map read := by
  obtain ⟨whole, kept⟩ := readArguments_accounts t first
  obtain ⟨part, -⟩ := readArguments_accounts t second
  have command : spelled? f ("run" :: behind) = spelled? f behind :=
    spelled?_of_plain behind fun body same => absurd same nofun
  unfold said at whole part
  rw [kept absent, free, command] at whole
  rw [free] at part
  simpa [spelled?] using part.trans whole

/-- **A run is told what its arguments spell.** Where a command line is understood as a run, its
    seed, its number of turns and whether it goes on after the end are what the first argument says
    that spells the flag; where none spells it, nothing is told. -/
theorem run_told {arguments : List String} {i : Invocation} {o : Overrides}
    (understood : parse arguments = .ok i) (run : i.action = .run o) :
    o.seed.map some = (spelled? .seed arguments).map Given.seedOf? ∧
      o.turns.map some = (spelled? .turns arguments).map Given.turnsOf? ∧
      o.runAfterVictory = (spelled? .runAfterVictory arguments).isSome := by
  obtain ⟨before, behind, after, first, second, rfl⟩ := of_parse_run understood run
  refine ⟨held_of_parse tracks_seed rfl (by decide) first second,
    held_of_parse tracks_turns rfl (by decide) first second, ?_⟩
  have goesOn := held_of_parse tracks_runAfterVictory rfl (by decide) first second
  have told := congrArg Option.isSome goesOn
  rw [Option.isSome_map, Option.isSome_map] at told
  rw [← told, Given.goesOn?]
  cases after.runAfterVictory <;> rfl

/-! ## Flags behind an understood command line -/

/-- Arguments behind others are read after them, or are left behind what they leave. Two hyphens
    alone would make scripts of them. -/
theorem readArguments_append {arguments left : List String} (more : List String)
    (opened : "--" ∉ arguments) (done : readArguments s arguments g = .ok (g', left)) :
    "--" ∉ left ∧ readArguments s (arguments ++ more) g =
      if left = [] then readArguments s more g' else .ok (g', left ++ more) := by
  fun_induction readArguments s arguments g with
  | case1 g =>
    cases done
    exact ⟨opened, rfl⟩
  | case2 g argument rest ends =>
    have same : argument = "--" := String.toList_inj.1 ends
    exact absurd (same ▸ List.mem_cons_self) opened
  | case3 | case5 | case6 | case7 | case10 => cases done
  | case4 g argument rest c cs goesOn listed g₁ flags ih =>
    rw [List.cons_append, readArguments]
    simp only [listed, flags]
    exact ih (fun member => opened (List.mem_cons_of_mem _ member)) done
  | case8 g argument c cs goesOn listed g₁ f' flags value rest plain g₂ taken ih =>
    rw [List.cons_append, List.cons_append, readArguments]
    simp only [listed, flags, if_neg plain, taken]
    exact ih (fun member => opened (List.mem_cons_of_mem _ (List.mem_cons_of_mem _ member))) done
  | case9 g argument rest program =>
    cases done
    rw [List.cons_append, readArguments, if_neg (List.cons_ne_nil _ _)]
    simp only [if_pos program]
    exact ⟨opened, trivial⟩
  | case11 g argument rest behind g₁ taken goesOn plain ih =>
    rw [List.cons_append, readArguments]
    simp only [if_neg behind, taken]
    exact ih (fun member => opened (List.mem_cons_of_mem _ member)) done

/-- What stands behind an understood run is read on from what the run has kept. -/
theorem parse_append {arguments more : List String} {i : Invocation} {o o' : Overrides}
    (understood : parse arguments = .ok i) (run : i.action = .run o) (opened : "--" ∉ arguments)
    (reads : ∀ g : Given, o = ⟨g.seed, g.turns, g.runAfterVictory⟩ →
      readArguments .run more g = .ok ({ g with
        seed := o'.seed, turns := o'.turns, runAfterVictory := o'.runAfterVictory }, [])) :
    parse (arguments ++ more) = .ok { i with action := .run o' } := by
  obtain ⟨before, behind, after, first, second, told⟩ := of_parse_run understood run
  obtain ⟨opened, longer⟩ := readArguments_append more opened first
  have opened : "--" ∉ behind := fun member => opened (List.mem_cons_of_mem _ member)
  obtain ⟨-, last⟩ := readArguments_append more opened second
  rw [if_neg (List.cons_ne_nil _ _)] at longer
  rw [if_pos rfl, reads after told] at last
  unfold parse at understood ⊢
  rw [first] at understood
  rw [longer]
  simp only [bind, Except.bind, invocation, List.cons_append, second, last] at understood ⊢
  cases script : after.script with
  | none =>
    rw [script] at understood
    cases understood
  | some path =>
    rw [script] at understood
    cases understood
    rfl

/-- A word for a flag whose value is the next argument. -/
theorem readArguments_valued {word value : String} {c : Char} {cs : List Char} {f : Flag}
    (listed : word.toList = '-' :: '-' :: c :: cs)
    (pending : readLong s (c :: cs) g = .ok (g, some f)) (plain : ¬startsFlag value = true)
    (taken : g.take f value = .ok g') : readArguments s [word, value] g = .ok (g', []) := by
  rw [readArguments]
  simp only [listed, if_true, pending, if_neg plain, taken]
  rw [readArguments]

theorem readArguments_switch {word : String} {c : Char} {cs : List Char}
    (listed : word.toList = '-' :: '-' :: c :: cs)
    (taken : readLong s (c :: cs) g = .ok (g', none)) :
    readArguments s [word] g = .ok (g', []) := by
  rw [readArguments]
  simp only [listed, if_true, taken]
  rw [readArguments]

theorem not_startsFlag_toString (n : Nat) : ¬startsFlag (toString n) = true := by
  obtain ⟨first, more, written, noMinus, -⟩ := Decimal.exists_toDigits n
  have listed : (toString n).toList = first :: more := Nat.toList_repr.trans written
  unfold startsFlag
  rw [listed]
  split
  · rename_i same
    exact absurd (List.cons.inj same).1 noMinus
  · exact Bool.false_ne_true

/-- **Whatever fits can be told.** Behind an understood run that has no seed yet, every seed of 32
    bits is understood, and is what the run is told; so is every number of turns of 64 bits, and
    the switch. -/
theorem parse_append_flag {arguments : List String} {i : Invocation} {o : Overrides}
    (understood : parse arguments = .ok i) (run : i.action = .run o)
    (opened : "--" ∉ arguments) :
    (o.seed = none → ∀ n < 4294967296, parse (arguments ++ ["--seed", toString n]) =
      .ok { i with action := .run { o with seed := some n } }) ∧
    (o.turns = none → ∀ n < 18446744073709551616, parse (arguments ++ ["--turns", toString n]) =
      .ok { i with action := .run { o with turns := some n } }) ∧
    (o.runAfterVictory = false → parse (arguments ++ ["--run-after-victory"]) =
      .ok { i with action := .run { o with runAfterVictory := true } }) := by
  refine ⟨fun free n fits => parse_append understood run opened fun g told => ?_,
    fun free n fits => parse_append understood run opened fun g told => ?_,
    fun free => parse_append understood run opened fun g told => ?_⟩
  · subst told
    have listed : "--seed".toList = '-' :: '-' :: 's' :: ['e', 'e', 'd'] := by decide
    have free : g.seed = none := free
    refine readArguments_valued listed rfl (not_startsFlag_toString n) ?_
    simp only [Given.take, free, Given.seedOf?_toString fits]
    rfl
  · subst told
    have listed : "--turns".toList = '-' :: '-' :: 't' :: ['u', 'r', 'n', 's'] := by decide
    have free : g.turns = none := free
    refine readArguments_valued listed rfl (not_startsFlag_toString n) ?_
    simp only [Given.take, free, Given.turnsOf?, Decimal.counter?_toString fits]
    rfl
  · subst told
    have listed : "--run-after-victory".toList =
        '-' :: '-' :: 'r' :: "un-after-victory".toList := by decide
    have unsaid : ¬g.runAfterVictory = true := Bool.eq_false_iff.1 free
    refine readArguments_switch listed ?_
    show (do return (← g.take .runAfterVictory "", none) : Except Stop (Given × Option Flag)) = _
    rw [Given.take, if_neg unsaid]
    rfl

end CommandLine

end DungeonScript

import DungeonScript.Word
import DungeonScript.Grammar
import DungeonScript.Reading

/-!
Script lines: from the text of a line to a keyword of the grammar and its arguments.
Each of the two passes over a script takes the lines whose verb belongs to it and
skips the others, blank lines and comments. A word that is no keyword is reported
once, by the full pass, if it looks like one.
-/

namespace DungeonScript

/-- The two passes over a script. -/
inductive Pass where
  /-- Takes the verbs that must be known before the level is set up. -/
  | preload
  /-- Takes all other verbs. -/
  | full
  deriving Repr, DecidableEq

def Pass.takes (p : Pass) (v : Verb) : Bool :=
  match p with
  | preload => v.isPreloaded
  | full => !v.isPreloaded

/-- A keyword and the arguments found on its line. -/
structure ScriptLine where
  usage : Usage
  words : List String
  /-- The number each argument reads as, 0 for an argument taken as a word. -/
  numbers : List Int
  deriving Repr, DecidableEq

namespace ScriptLine

def verb (l : ScriptLine) : Verb := l.usage.verb

def count (l : ScriptLine) : Nat := l.words.length

/-- An argument as it is written, empty when it is missing. -/
def word (l : ScriptLine) (i : Nat) : String := l.words.getD i ""

/-- An argument as a number, 0 when it is missing. -/
def number (l : ScriptLine) (i : Nat) : Int := l.numbers.getD i 0

def numbersFrom (l : ScriptLine) (first n : Nat) : List Int :=
  (List.range n).map fun i => l.number (first + i)

end ScriptLine

def Scanned.asides (s : Scanned) : List Aside :=
  s.caution.toList.map .caution ++ s.odd.map fun b => .remark (.oddBound b)

/-- The number an argument reads as, and what is said about it. -/
def Argument.value (a : Argument) (text : String) : Int × List Aside :=
  match a with
  | .word => (0, [])
  | .number =>
    let n := Numeral.read text
    (n.value, if n.complete then [] else [.remark (.oddNumber text n.value)])

/-- A reading that has used up some of the dice. -/
structure DicedReading (α : Type) where
  outcome : Except Fault α
  dice : Dice
  asides : List Aside

namespace ScriptLine

/-- The arguments of a line, as many as the grammar asks for and the line has. An
    empty text ends them. -/
def takeArguments : List Argument → Cursor → Dice → DicedReading (List (String × Int))
  | [], _, dice => ⟨.ok [], dice, []⟩
  | a :: rest, c, dice =>
    if c.atEnd then ⟨.ok [], dice, []⟩
    else
      let s := c.next dice
      match s.word with
      | .error f => ⟨.error (.scan f), s.dice, s.asides⟩
      | .ok none => ⟨.ok [], s.dice, s.asides⟩
      | .ok (some w) =>
        if w.text.isEmpty then ⟨.ok [], s.dice, s.asides⟩
        else
          let v := a.value w.text
          let r := takeArguments rest s.cursor s.dice
          ⟨r.outcome.map ((w.text, v.1) :: ·), r.dice, s.asides ++ v.2 ++ r.asides⟩

/-- The line of a keyword with its arguments, if it has as many as it must. -/
def withArguments (u : Usage) (arguments : List (String × Int)) : Except Fault ScriptLine :=
  if arguments.length < u.requiredCount then .error (.notEnoughParameters u.keyword)
  else .ok ⟨u, arguments.map (·.1), arguments.map (·.2)⟩

def keyword? (levelVersion : Int) (first : Word) : Option Usage :=
  match first.kind with
  | .name => Grammar.find? levelVersion first.text
  | _ => none

/-- Whether a first word looks like a keyword. -/
def looksLikeKeyword (first : Word) : Bool :=
  match first.text.toList with
  | c :: _ => c.isAlphanum
  | [] => false

/-- What a pass makes of the text of a line: a keyword with arguments, or nothing
    when the line is not for this pass. -/
def read (levelVersion : Int) (pass : Pass) (text : List Char) (dice : Dice) :
    DicedReading (Option ScriptLine) :=
  let s := (Cursor.ofLine text).next dice
  match s.word with
  | .error f => ⟨.error (.scan f), s.dice, s.asides⟩
  | .ok none => ⟨.ok none, s.dice, s.asides⟩
  | .ok (some first) =>
    match keyword? levelVersion first with
    | none =>
      if pass = .full ∧ looksLikeKeyword first then
        ⟨.error (.invalidCommand first.text levelVersion), s.dice, s.asides⟩
      else ⟨.ok none, s.dice, s.asides⟩
    | some u =>
      if u.verb = .rem ∨ !pass.takes u.verb then ⟨.ok none, s.dice, s.asides⟩
      else
        let r := takeArguments (u.arguments.take u.argumentCount) s.cursor s.dice
        ⟨r.outcome.bind fun arguments => (withArguments u arguments).map some, r.dice,
          s.asides ++ r.asides⟩

end ScriptLine

end DungeonScript

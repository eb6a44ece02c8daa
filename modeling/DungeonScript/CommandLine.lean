import DungeonScript.Invocation
import DungeonScript.Text.Decimal

/-!
The command line. It has two commands, `check` and `run`, each with a script. Flags may
stand before the command and after it; the settings file and how much is logged can be
said in both places, and what stands after the command counts. Arguments are read from
left to right, and the first that cannot be understood, or that asks for help, ends the
reading.
-/

namespace DungeonScript

namespace CommandLine

/-- The places in which flags have a meaning. -/
inductive Scope where
  | program | check | run
  deriving Repr, DecidableEq

/-- What can be said with a flag. -/
inductive Flag where
  | config | verbose | turns | seed | runAfterVictory | help | version
  deriving Repr, DecidableEq

namespace Flag

def takesValue : Flag → Bool
  | config | turns | seed => true
  | _ => false

def long : Flag → String
  | config => "config"
  | verbose => "verbose"
  | turns => "turns"
  | seed => "seed"
  | runAfterVictory => "run-after-victory"
  | help => "help"
  | version => "version"

def short? : Flag → Option Char
  | config => some 'c'
  | verbose => some 'v'
  | help => some 'h'
  | version => some 'V'
  | _ => none

end Flag

namespace Scope

def flags : Scope → List Flag
  | program => [.config, .verbose, .help, .version]
  | check => [.config, .verbose, .help]
  | run => [.config, .verbose, .turns, .seed, .runAfterVictory, .help]

def long? (s : Scope) (word : String) : Option Flag := s.flags.find? fun f => f.long == word

def short? (s : Scope) (letter : Char) : Option Flag :=
  s.flags.find? fun f => f.short? == some letter

end Scope

/-! ## What is given in one place -/

/-- What flags and arguments in one place have said. -/
structure Given where
  config : Option String
  /-- How often more logging was asked for, if it was. -/
  verbosity : Option Nat
  turns : Option Nat
  seed : Option Nat
  runAfterVictory : Bool
  script : Option String
  deriving Repr, DecidableEq

namespace Given

def nothing : Given := ⟨none, none, none, none, false, none⟩

def turnsOf? (value : String) : Option Nat := Decimal.counter? value

/-- A seed: a whole number of 64 bits that 32 bits can hold. -/
def seedOf? (value : String) : Option Nat := (Decimal.whole? value).bind itemNumber?

/-- What stands in one place once only, and must be readable. -/
def once {α : Type} (old new : Option α) : Except Stop (Option α) :=
  match old, new with
  | none, some v => .ok (some v)
  | _, _ => .error .misused

/-- A path, which cannot be empty. -/
def pathOf? (value : String) : Option String := if value.isEmpty then none else some value

/-- After a flag; `value` is used by the flags that take one. -/
def take (g : Given) (f : Flag) (value : String) : Except Stop Given :=
  match f with
  | .config => do return { g with config := ← once g.config (pathOf? value) }
  | .verbose => .ok { g with verbosity := some (g.verbosity.getD 0 + 1) }
  | .turns => do return { g with turns := ← once g.turns (turnsOf? value) }
  | .seed => do return { g with seed := ← once g.seed (seedOf? value) }
  | .runAfterVictory =>
    if g.runAfterVictory then .error .misused else .ok { g with runAfterVictory := true }
  | .help | .version => .error .asked

def takeScript (g : Given) (path : String) : Except Stop Given := do
  return { g with script := ← once g.script (pathOf? path) }

end Given

/-! ## Reading arguments -/

/-- What stands before an equals sign and what stands after it, if there is one. -/
def splitAtEquals (cs : List Char) : List Char × Option (List Char) :=
  match cs.dropWhile (· ≠ '=') with
  | '=' :: value => (cs.takeWhile (· ≠ '='), some value)
  | _ => (cs, none)

/-- Reads a flag after two hyphens. The result names the flag whose value is still to
    come. -/
def readLong (s : Scope) (body : List Char) (g : Given) : Except Stop (Given × Option Flag) :=
  let parts := splitAtEquals body
  match s.long? (String.ofList parts.1), parts.2 with
  | none, _ => .error .misused
  | some f, some value =>
    if f.takesValue then do return (← g.take f (String.ofList value), none)
    else .error .misused
  | some f, none =>
    if f.takesValue then .ok (g, some f) else do return (← g.take f "", none)

/-- Reads flags after one hyphen. What follows the letter of a flag that takes a value
    is the value. -/
def readShort (s : Scope) : List Char → Given → Except Stop (Given × Option Flag)
  | [], g => .ok (g, none)
  | c :: rest, g =>
    match s.short? c with
    | none => .error .misused
    | some f =>
      if f.takesValue then
        match rest with
        | [] => .ok (g, some f)
        | '=' :: value => do return (← g.take f (String.ofList value), none)
        | value => do return (← g.take f (String.ofList value), none)
      else do readShort s rest (← g.take f "")

/-- Whether an argument can be a flag, and so cannot be the value of one. -/
def startsFlag (argument : String) : Bool :=
  match argument.toList with
  | '-' :: _ :: _ => true
  | _ => false

/-- Takes arguments that are no flags, whatever they look like. -/
def takeScripts (s : Scope) : List String → Given → Except Stop Given
  | [], g => .ok g
  | path :: rest, g =>
    if s = .program then .error .misused else do takeScripts s rest (← g.takeScript path)

/-- Reads arguments up to the command, or to the end behind it. -/
def readArguments (s : Scope) (arguments : List String) (g : Given) :
    Except Stop (Given × List String) :=
  match arguments with
  | [] => .ok (g, [])
  | argument :: rest =>
    match argument.toList with
    | ['-', '-'] => do return (← takeScripts s rest g, [])
    | '-' :: c :: cs =>
      match if c = '-' then readLong s cs g else readShort s (c :: cs) g with
      | .error e => .error e
      | .ok (g, none) => readArguments s rest g
      | .ok (g, some f) =>
        match rest with
        | [] => .error .misused
        | value :: rest =>
          if startsFlag value then .error .misused
          else
            match g.take f value with
            | .error e => .error e
            | .ok g => readArguments s rest g
    | _ =>
      if s = .program then .ok (g, argument :: rest)
      else
        match g.takeScript argument with
        | .error e => .error e
        | .ok g => readArguments s rest g

/-! ## Commands -/

/-- A command with what is said before and after it. -/
def invocation (s : Scope) (action : Given → Action) (before : Given) (rest : List String) :
    Except Stop Invocation := do
  let (after, _) ← readArguments s rest .nothing
  match after.script with
  | none => .error .misused
  | some script =>
    return {
      config := after.config <|> before.config
      verbosity := ((after.verbosity <|> before.verbosity).getD 0)
      script
      action := action after }

def isTopic (words : List String) : Bool :=
  match words with
  | [] => true
  | [word] => ["check", "run", "help"].contains word
  | _ => false

/-- What the arguments of the program ask for. -/
def parse (arguments : List String) : Except Stop Invocation := do
  let (before, rest) ← readArguments .program arguments .nothing
  match rest with
  | "check" :: rest => invocation .check (fun _ => .check) before rest
  | "run" :: rest =>
    invocation .run (fun g => .run ⟨g.seed, g.turns, g.runAfterVictory⟩) before rest
  | "help" :: words => .error (if isTopic words then .asked else .misused)
  | _ => .error .misused

def help : String :=
  "Usage: dungeon-script [-c FILE] [-v] check SCRIPT\n" ++
  "       dungeon-script [-c FILE] [-v] run SCRIPT [--turns N] [--seed N] [--run-after-victory]"

end CommandLine

end DungeonScript

import DungeonScript.CommandLine
import DungeonScript.Settings.Layers

/-!
What is known of the libraries. Nothing that is proved of settings rests on how a library does its
work; it rests on these laws, which say what its documentation says:

- Sources are put on each other in their order, and values that are put under keys stand above all
  sources (`Laws.variable_counts`, `Laws.override_counts`). Nothing else gives way to either
  (`Laws.variables_silent`, `Laws.override_apart`).
- No order is known of the variables of one environment. Where two of them speak of one setting, it
  is not said which counts.
- An understood command line tells a run what its arguments spell, and a value is refused only if it
  does not fit (`Laws.told`, `Laws.accepts`).
-/

namespace DungeonScript

namespace CommandLine

/-- The value that goes with a flag in the first argument that spells it, as in `--turns 5` or
    `--turns=5`; for a flag without values, the empty one. Behind two hyphens alone no flag is
    spelled. -/
def spelled? (f : Flag) : List String → Option String
  | [] => none
  | argument :: rest =>
    match argument.toList with
    | ['-', '-'] => none
    | '-' :: '-' :: body =>
      if String.ofList (splitAtEquals body).1 = f.long then
        match (splitAtEquals body).2 with
        | some value => some (String.ofList value)
        | none => if f.takesValue then rest.head? else some ""
      else spelled? f rest
    | _ => spelled? f rest

end CommandLine

open CommandLine (spelled? Action Given Invocation)

namespace Settings

/-- The keys of the settings that there are flags for. -/
def flagged : List (List String) :=
  [["engine", "seed"], ["turns"], ["engine", "run_after_victory"]]

def variableName (keys : List String) : String := "KEEPER_" ++ "__".intercalate keys

end Settings

namespace Library

/-- Ways of which neither leads on from the other. -/
def Apart (a b : List String) : Prop := ¬a <+: b ∧ ¬b <+: a

instance (a b : List String) : Decidable (Apart a b) := inferInstanceAs (Decidable (_ ∧ _))

theorem Apart.of_cons {key : String} {a b : List String} (apart : Apart (key :: a) (key :: b)) :
    Apart a b :=
  ⟨fun leads => apart.1 ((List.prefix_cons_inj key).2 leads),
    fun leads => apart.2 ((List.prefix_cons_inj key).2 leads)⟩

variable (lib : Library)

/-- Nothing is said of what stands under `keys`: the way there leads through tables, up to one that
    does not have the next key. -/
def Unsaid : List String → lib.Value → Prop
  | [], _ => False
  | key :: keys, v =>
    ∃ entry, lib.view v = .table entry ∧ ∀ w, entry key = some w → Unsaid keys w

/-- A variable that by itself says nothing of what stands under `keys`. -/
def Silent (keys : List String) (x : String × String) : Prop :=
  ∃ v, lib.build? [lib.environment [x]] [] = some v ∧ lib.Unsaid keys v

/-- What the documentation of the libraries says. -/
structure Laws : Prop where
  -- Values
  view_whole (n : Int) : lib.view (lib.whole n) = .single
  view_truth (b : Bool) : lib.view (lib.truth b) = .single
  below_whole {limit n : Nat} : n < limit → (n : Int) ≤ greatestNumber →
    lib.below? limit (lib.whole n) = some n
  below_lt {limit n : Nat} {v : lib.Value} : lib.below? limit v = some n → n < limit
  truth_truth (b : Bool) : lib.truth? (lib.truth b) = some b
  -- Sources
  rooted {ss : List lib.Source} {os : List (List String × lib.Value)} {v : lib.Value} :
    lib.build? ss os = some v → (∀ e ∈ os, e.1 ≠ []) → ∃ entry, lib.view v = .table entry
  nothing : ∃ v, lib.build? [] [] = some v ∧ ∀ keys, keys ≠ [] → lib.at? keys v = none
  variable_counts {ss : List lib.Source} {v : lib.Value} {keys : List String}
    {earlier later : List (String × String)} {name text : String} :
    lib.build? (ss ++ [lib.environment (earlier ++ (name, text) :: later)]) [] = some v →
    keys ∈ Settings.flagged → sameWord name (Settings.variableName keys) = true →
    (∀ x ∈ earlier ++ later, lib.Silent keys x) → lib.at? keys v = some (lib.parsed text)
  variables_silent {ss : List lib.Source} {v w : lib.Value} {keys : List String}
    {xs : List (String × String)} :
    lib.build? ss [] = some v → lib.build? (ss ++ [lib.environment xs]) [] = some w →
    (∀ x ∈ xs, lib.Silent keys x) → lib.at? keys w = lib.at? keys v
  -- Values put upon the sources
  overrides_built (ss : List lib.Source) (os : List (List String × lib.Value)) :
    (lib.build? ss os).isSome = (lib.build? ss []).isSome
  override_counts {ss : List lib.Source} {os : List (List String × lib.Value)} {v w : lib.Value}
    {keys : List String} : lib.build? ss os = some v → os.Pairwise (fun a b => Apart a.1 b.1) →
    (keys, w) ∈ os → lib.view w = .single → lib.at? keys v = some w
  override_apart {ss : List lib.Source} {os : List (List String × lib.Value)} {v w : lib.Value}
    {keys : List String} : lib.build? ss os = some v → lib.build? ss [] = some w →
    (∀ e ∈ os, Apart e.1 keys) → lib.at? keys v = lib.at? keys w
  -- Arguments
  told {arguments : List String} {i : Invocation} {o : Overrides} :
    lib.parse arguments = .ok i → i.action = .run o →
    o.seed.map some = (spelled? .seed arguments).map Given.seedOf? ∧
      o.turns.map some = (spelled? .turns arguments).map Given.turnsOf? ∧
      o.runAfterVictory = (spelled? .runAfterVictory arguments).isSome
  accepts {arguments : List String} {i : Invocation} {o : Overrides} :
    lib.parse arguments = .ok i → i.action = .run o → "--" ∉ arguments →
    (o.seed = none → ∀ n < 4294967296, lib.parse (arguments ++ ["--seed", toString n]) =
      .ok { i with action := .run { o with seed := some n } }) ∧
    (o.turns = none → ∀ n < 18446744073709551616,
      lib.parse (arguments ++ ["--turns", toString n]) =
        .ok { i with action := .run { o with turns := some n } }) ∧
    (o.runAfterVictory = false → lib.parse (arguments ++ ["--run-after-victory"]) =
      .ok { i with action := .run { o with runAfterVictory := true } })

end Library

end DungeonScript

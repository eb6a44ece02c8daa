import DungeonScript.Proofs.Library.Standard
import DungeonScript.Report

/-!
Which layer a setting comes from. The seed, the number of turns and whether a run goes on after the
end can be said in the settings file, by a variable of the environment and with a flag, and the
highest layer that speaks of one decides (`Layered`). This holds whatever the libraries are that
read the layers, if they do what their documentation says (`Library.Laws`). Two things are not as
plain as that:

- The layers hold numbers with a sign. A number of turns that is given with a flag and is past the
  greatest of these is passed over, without a word, and the layers below decide.
- The seed and the switch stand together under `engine`, and these options may be listed instead of
  named. Who names one of them puts a table in the place of a list, or of anything else.

Flags never keep the settings from being read: the settings without a flag are left to the layers
below, and an option that is named makes the others readable (`exists_load`).
-/

namespace DungeonScript

open CommandLine (spelled? Given)
open Library (Apart)

section Entries

variable {lib : Library} {o : Overrides}

/-! ## What the command line says -/

theorem flagged_apart {a b : List String} (known : a ∈ Settings.flagged)
    (known' : b ∈ Settings.flagged) (differ : a ≠ b) : Apart a b := by
  have apart : ∀ a ∈ Settings.flagged, ∀ b ∈ Settings.flagged, a ≠ b → Apart a b := by decide
  exact apart a known b known' differ

namespace Overrides

/-- The number of turns, if the layers can hold it. -/
def heldTurns (o : Overrides) : Option Nat :=
  o.turns.filter fun (n : Nat) => decide ((n : Int) ≤ greatestNumber)

theorem bind_signed? : o.turns.bind signed? = o.heldTurns.map fun (n : Nat) => (n : Int) := by
  unfold heldTurns
  cases o.turns with
  | none => rfl
  | some n =>
    rw [Option.bind_some, Option.filter_some, signed?]
    by_cases held : (n : Int) ≤ greatestNumber <;> simp [held]

theorem mem_entries {e : List String × lib.Value} : e ∈ o.entries lib ↔
    (∃ n, o.seed = some n ∧ (["engine", "seed"], lib.whole n) = e) ∨
      (∃ m, o.turns.bind signed? = some m ∧ (["turns"], lib.whole m) = e) ∨
      o.runAfterVictory = true ∧ (["engine", "run_after_victory"], lib.truth true) = e := by
  unfold entries
  rw [List.mem_append, List.mem_append, Option.mem_toList, Option.mem_toList, or_assoc,
    Option.map_eq_some_iff, Option.map_eq_some_iff]
  refine or_congr_right (or_congr_right ?_)
  cases o.runAfterVictory <;> simp [eq_comm]

theorem flagged_of_mem_entries {e : List String × lib.Value} (member : e ∈ o.entries lib) :
    e.1 ∈ Settings.flagged := by
  rcases mem_entries.1 member with ⟨n, -, rfl⟩ | ⟨m, -, rfl⟩ | ⟨-, rfl⟩ <;>
    simp only [Settings.flagged, List.mem_cons, true_or, or_true]

theorem entries_keyed : ∀ e ∈ o.entries lib, e.1 ≠ [] := by
  intro e member
  have keyed : ∀ keys ∈ Settings.flagged, keys ≠ [] := by decide
  exact keyed e.1 (flagged_of_mem_entries member)

theorem entries_apart : (o.entries lib).Pairwise fun a b => Apart a.1 b.1 := by
  have seedTurns : Apart ["engine", "seed"] ["turns"] := by decide
  have seedSwitch : Apart ["engine", "seed"] ["engine", "run_after_victory"] := by decide
  have turnsSwitch : Apart ["turns"] ["engine", "run_after_victory"] := by decide
  unfold entries
  cases o.seed <;> cases o.turns.bind signed? <;> cases o.runAfterVictory <;>
    simp [seedTurns, seedSwitch, turnsSwitch]

theorem entries_single (laws : lib.Laws) {e : List String × lib.Value}
    (member : e ∈ o.entries lib) : lib.view e.2 = .single := by
  rcases mem_entries.1 member with ⟨n, -, rfl⟩ | ⟨m, -, rfl⟩ | ⟨-, rfl⟩
  · exact laws.view_whole n
  · exact laws.view_whole m
  · exact laws.view_truth true

theorem apart_entries {keys : List String}
    (seed : o.seed ≠ .none → Apart ["engine", "seed"] keys)
    (turns : o.turns.bind signed? ≠ .none → Apart ["turns"] keys)
    (goesOn : o.runAfterVictory = true → Apart ["engine", "run_after_victory"] keys) :
    ∀ e ∈ o.entries lib, Apart e.1 keys := by
  intro e member
  rcases mem_entries.1 member with ⟨n, told, rfl⟩ | ⟨m, told, rfl⟩ | ⟨told, rfl⟩
  · exact seed (by rw [told]; nofun)
  · exact turns (by rw [told]; nofun)
  · exact goesOn told

end Overrides

end Entries

namespace Settings

variable {lib : Library} {around : Surroundings} {path : Option String} {o : Overrides}

/-! ## Reading the settings -/

section Reading

variable {v w : lib.Value} {s : Settings}

/-- The settings that no flag speaks of, as they are read. -/
structure Others (lib : Library) (v : lib.Value) (s : Settings) : Prop where
  myPlayer : lib.field v ⟨"my_player", 2⟩ (lib.below? 256) (some usual.myPlayer) = some s.myPlayer
  network : lib.field v ⟨"network_active", 3⟩ lib.truth? (some usual.network) = some s.network
  income : lib.field v ⟨"income_per_turn", 4⟩ lib.number? (some usual.income) = some s.income
  points : lib.field v ⟨"action_points", 5⟩ (listOf? lib (mapPointOf? lib)) (some usual.points) =
    some s.points
  gates : lib.field v ⟨"hero_gates", 6⟩ (listOf? lib (mapPointOf? lib)) (some usual.gates) =
    some s.gates
  activations : lib.field v ⟨"activations", 7⟩ (listOf? lib (activationOf? lib))
    (some usual.activations) = some s.activations
  names : lib.field v ⟨"names", 8⟩ (namesOf? lib) (some usual.names) = some s.names

theorem ofValue?_eq_some : ofValue? lib v = some s ↔
    lib.field v ⟨"engine", 0⟩ (optionsOf? lib) (some usual.options) = some s.options ∧
    lib.field v ⟨"turns", 1⟩ (lib.below? 18446744073709551616) (some usual.turns) = some s.turns ∧
    Others lib v s := by
  unfold ofValue?
  simp only [bind, Option.bind_eq_some_iff, pure, Option.some.injEq]
  constructor
  · rintro ⟨_, h₁, _, h₂, _, h₃, _, h₄, _, h₅, _, h₆, _, h₇, _, h₈, _, h₉, rfl⟩
    exact ⟨h₁, h₂, h₃, h₄, h₅, h₆, h₇, h₈, h₉⟩
  · rintro ⟨h₁, h₂, h₃, h₄, h₅, h₆, h₇, h₈, h₉⟩
    exact ⟨_, h₁, _, h₂, _, h₃, _, h₄, _, h₅, _, h₆, _, h₇, _, h₈, _, h₉, rfl⟩

theorem lt_of_field_below (laws : lib.Laws) {f : Library.Field} {limit other n : Nat}
    (usual : other < limit) (read : lib.field v f (lib.below? limit) (some other) = some n) :
    n < limit := by
  have below {w? : Option lib.Value} (read : (w?.map (lib.below? limit)).getD (some other) = some n) :
      n < limit := by
    cases w? with
    | none => exact Option.some.inj read ▸ usual
    | some w => exact laws.below_lt read
  unfold Library.field at read
  split at read
  · exact below read
  · exact below read
  · cases read

theorem optionsOf?_eq_some (laws : lib.Laws) {options : Options} :
    optionsOf? lib v = some options ↔
      lib.field v ⟨"seed", 0⟩ (lib.below? 4294967296) (some 1) = some options.seed.toNat ∧
        lib.field v ⟨"run_after_victory", 1⟩ lib.truth? (some false) =
          some options.runAfterVictory := by
  have usual : Options.usual.seed.toNat = 1 := rfl
  unfold optionsOf?
  rw [usual]
  constructor
  · intro read
    obtain ⟨seed, said, rest⟩ := Option.bind_eq_some_iff.1 read
    obtain ⟨goesOn, switched, same⟩ := Option.bind_eq_some_iff.1 rest
    cases same
    refine ⟨?_, switched⟩
    have fits : seed < 4294967296 := lt_of_field_below laws (by decide) said
    rw [said]
    show _ = some (UInt32.ofNat seed).toNat
    rw [UInt32.toNat_ofNat_of_lt' fits]
  · rintro ⟨said, switched⟩
    rw [said, switched]
    show some (Options.mk (.ofNat options.seed.toNat) options.runAfterVictory) = _
    rw [UInt32.ofNat_toNat]

/-! ## Reading the options -/

/-- What stands in the place of an option, if the options are listed; else what is usual. -/
def listed {α : Type} (lib : Library) (v : lib.Value) (f : Library.Field)
    (read : lib.Value → Option α) (usual : α) : Option α :=
  match (lib.get? v "engine").bind lib.items? with
  | some vs => (vs[f.place]?.map read).getD (some usual)
  | none => some usual

/-- Options can be named or listed, and what stands for them all is no single value. -/
def Structured (lib : Library) (v : lib.Value) : Prop :=
  ∀ e, lib.at? ["engine"] v = some e →
    (∃ entry, lib.view e = .table entry) ∨ ∃ vs, lib.view e = .list vs

/-- An option is what stands under its name, or else in its place in a list of options, or else
    what is usual. -/
theorem field_engine {α : Type} {e : lib.Value} (there : lib.at? ["engine"] v = some e)
    (structured : Structured lib v) (f : Library.Field) (r : lib.Value → Option α) (usual : α) :
    lib.field e f r (some usual) =
      ((lib.at? ["engine", f.key] v).map r).getD (listed lib v f r usual) := by
  have under : lib.at? ["engine", f.key] v = lib.at? [f.key] e := by
    rw [Library.at?_single] at there
    rw [Library.at?, there, Option.bind_some]
  rcases structured e there with ⟨entry, table⟩ | ⟨vs, list⟩
  · have unlisted : listed lib v f r usual = some usual := by
      rw [Library.at?_single] at there
      rw [listed, there, Option.bind_some, Library.items?, table]
    rw [Library.field_of_table table, under, Library.at?_single, unlisted]
  · have unnamed : lib.at? [f.key] e = none := by
      rw [Library.at?_single, Library.get?, list]
    rw [Library.at?_single] at there
    rw [under, unnamed, listed, there, Option.bind_some, Library.items?, list, Library.field, list]
    rfl

theorem options_read (laws : lib.Laws) {entry : String → Option lib.Value}
    (table : lib.view v = .table entry) {options : Options} :
    lib.field v ⟨"engine", 0⟩ (optionsOf? lib) (some usual.options) = some options ↔
      Structured lib v ∧
      ((lib.at? ["engine", "seed"] v).map (lib.below? 4294967296)).getD
        (listed lib v ⟨"seed", 0⟩ (lib.below? 4294967296) 1) = some options.seed.toNat ∧
      ((lib.at? ["engine", "run_after_victory"] v).map lib.truth?).getD
        (listed lib v ⟨"run_after_victory", 1⟩ lib.truth? false) =
          some options.runAfterVictory := by
  rw [Library.field_of_table table, ← Library.at?_single]
  cases there : lib.at? ["engine"] v with
  | none =>
    have structured : Structured lib v := by
      intro e here
      rw [there] at here
      cases here
    have nowhere : lib.get? v "engine" = none := (Library.at?_single "engine" v).symm.trans there
    simp only [Library.at?, listed, nowhere, Option.bind_none, Option.map_none, Option.getD_none,
      structured, true_and, Option.some.injEq]
    constructor
    · rintro rfl
      exact ⟨rfl, rfl⟩
    · rintro ⟨seed, goesOn⟩
      have same : options.seed = 1 := UInt32.toNat_inj.1 seed.symm
      show usual.options = ⟨options.seed, options.runAfterVictory⟩
      rw [same, ← goesOn]
      rfl
  | some e =>
    rw [Option.map_some, Option.getD_some, optionsOf?_eq_some laws]
    constructor
    · rintro ⟨seed, goesOn⟩
      have structured : Structured lib v := by
        intro e' here
        obtain rfl := Option.some.inj (there.symm.trans here)
        unfold Library.field at seed
        split at seed
        · exact .inl ⟨_, ‹_›⟩
        · exact .inr ⟨_, ‹_›⟩
        · cases seed
      rw [field_engine there structured] at seed goesOn
      exact ⟨structured, seed, goesOn⟩
    · rintro ⟨structured, seed, goesOn⟩
      rw [field_engine there structured, field_engine there structured]
      exact ⟨seed, goesOn⟩

end Reading

/-! ## Flags upon the layers below -/

theorem layered?_table {v : lib.Value} (laws : lib.Laws) (built : layered? lib around path o = some v) :
    ∃ entry, lib.view v = .table entry :=
  laws.rooted built Overrides.entries_keyed

theorem exists_layered? {v : lib.Value} (laws : lib.Laws) (o o' : Overrides)
    (built : layered? lib around path o = some v) :
    ∃ w, layered? lib around path o' = some w := by
  apply Option.isSome_iff_exists.1
  unfold layered? at *
  rw [laws.overrides_built, ← laws.overrides_built _ (o.entries lib), built]
  rfl

theorem table_of_at? {table key : String} {v new : lib.Value}
    (there : lib.at? [table, key] v = some new) :
    ∃ e entry, lib.at? [table] v = some e ∧ lib.view e = .table entry := by
  obtain ⟨e, first, second⟩ := Option.bind_eq_some_iff.1 there
  rw [Library.at?_single, Library.get?] at second
  split at second
  · exact ⟨e, _, (Library.at?_single table v).trans first, ‹_›⟩
  · cases second

section Flags

variable {v w : lib.Value} (laws : lib.Laws) (built : layered? lib around path o = some v)
  (unflagged : layered? lib around path .none = some w)

include laws built

theorem at?_of_mem_entries {keys : List String} {new : lib.Value}
    (member : (keys, new) ∈ o.entries lib) : lib.at? keys v = some new :=
  laws.override_counts built Overrides.entries_apart member (Overrides.entries_single laws member)

include unflagged

theorem at?_of_apart {keys : List String} (apart : ∀ e ∈ o.entries lib, Apart e.1 keys) :
    lib.at? keys v = lib.at? keys w :=
  laws.override_apart built unflagged apart

/-- A setting with a flag is what its entry says, or else what the layers below say. -/
theorem at?_flagged {keys : List String} (known : keys ∈ flagged) {told : Option lib.Value}
    (only : ∀ new, (keys, new) ∈ o.entries lib ↔ told = some new) :
    lib.at? keys v = (told <|> lib.at? keys w) := by
  cases told with
  | some new => exact at?_of_mem_entries laws built ((only new).2 rfl)
  | none =>
    refine at?_of_apart laws built unflagged fun e member => ?_
    refine flagged_apart (Overrides.flagged_of_mem_entries member) known ?_
    rintro rfl
    cases (only e.2).1 member

theorem seed_at? : lib.at? ["engine", "seed"] v =
    ((o.seed.map fun (n : Nat) => lib.whole n) <|> lib.at? ["engine", "seed"] w) := by
  refine at?_flagged laws built unflagged (by decide) fun new => ?_
  simp [Overrides.mem_entries]

theorem turns_at? : lib.at? ["turns"] v =
    (((o.turns.bind signed?).map fun m => lib.whole m) <|> lib.at? ["turns"] w) := by
  refine at?_flagged laws built unflagged (by decide) fun new => ?_
  simp [Overrides.mem_entries, -Option.map_bind]

theorem runAfterVictory_at? : lib.at? ["engine", "run_after_victory"] v =
    ((if o.runAfterVictory then some (lib.truth true) else none)
      <|> lib.at? ["engine", "run_after_victory"] w) := by
  refine at?_flagged laws built unflagged (by decide) fun new => ?_
  simp [Overrides.mem_entries]

/-! ### The other settings -/

theorem field_of_ne {α : Type} (f : Library.Field) (options : f.key ≠ "engine")
    (turns : f.key ≠ "turns") (r : lib.Value → Option α) (other : Option α) :
    lib.field v f r other = lib.field w f r other := by
  obtain ⟨entry, table⟩ := layered?_table laws built
  obtain ⟨entry', table'⟩ := layered?_table laws unflagged
  have same : lib.at? [f.key] v = lib.at? [f.key] w := by
    refine at?_of_apart laws built unflagged (Overrides.apart_entries ?_ ?_ ?_) <;> intro _ <;>
      simp [Apart, options, options.symm, turns, turns.symm]
  rw [Library.at?_single, Library.at?_single] at same
  rw [Library.field_of_table table, Library.field_of_table table', same]

theorem others_layered {s : Settings} : Others lib v s ↔ Others lib w s := by
  constructor
  · rintro ⟨myPlayer, network, income, points, gates, activations, names⟩
    simp (disch := decide) only [field_of_ne laws built unflagged] at *
    exact ⟨myPlayer, network, income, points, gates, activations, names⟩
  · rintro ⟨myPlayer, network, income, points, gates, activations, names⟩
    constructor <;> simp (disch := decide) only [field_of_ne laws built unflagged] <;> assumption

/-! ### The options together -/

theorem engine_cases :
    (∃ e entry, lib.at? ["engine"] v = some e ∧ lib.view e = .table entry) ∨
      lib.at? ["engine"] v = lib.at? ["engine"] w := by
  have seed := seed_at? laws built unflagged
  have goesOn := runAfterVictory_at? laws built unflagged
  cases told : o.seed with
  | some n =>
    rw [told] at seed
    exact .inl (table_of_at? seed)
  | none =>
    cases switched : o.runAfterVictory with
    | true =>
      rw [switched] at goesOn
      exact .inl (table_of_at? goesOn)
    | false =>
      refine .inr (at?_of_apart laws built unflagged (Overrides.apart_entries ?_ ?_ ?_))
      · exact fun given => absurd told given
      · exact fun _ => by decide
      · exact fun given => absurd given (by rw [switched]; decide)

theorem structured_layered (structured : Structured lib w) : Structured lib v := by
  intro e here
  rcases engine_cases laws built unflagged with ⟨e', entry, there, table⟩ | same
  · obtain rfl := Option.some.inj (there.symm.trans here)
    exact .inl ⟨entry, table⟩
  · exact structured e (same.symm.trans here)

theorem listed_layered {α : Type} (f : Library.Field) (r : lib.Value → Option α) (usual : α) :
    listed lib v f r usual = some usual ∨ listed lib v f r usual = listed lib w f r usual := by
  unfold listed
  rcases engine_cases laws built unflagged with ⟨e, entry, here, table⟩ | kept
  · rw [Library.at?_single] at here
    rw [here, Option.bind_some, Library.items?, table]
    exact .inl rfl
  · rw [Library.at?_single, Library.at?_single] at kept
    rw [kept]
    exact .inr rfl

/-! ### Readings -/

theorem seed_read (fits : ∀ n, o.seed = some n → n < 4294967296) (other : Option Nat) :
    ((lib.at? ["engine", "seed"] v).map (lib.below? 4294967296)).getD other =
      (o.seed <|> ((lib.at? ["engine", "seed"] w).map (lib.below? 4294967296)).getD other) := by
  rw [seed_at? laws built unflagged]
  cases told : o.seed with
  | none => rfl
  | some n =>
    have small := fits n told
    exact laws.below_whole small (by unfold greatestNumber; omega)

theorem turns_read (other : Option Nat) :
    ((lib.at? ["turns"] v).map (lib.below? 18446744073709551616)).getD other =
      (o.heldTurns <|>
        ((lib.at? ["turns"] w).map (lib.below? 18446744073709551616)).getD other) := by
  rw [turns_at? laws built unflagged]
  cases held : o.heldTurns with
  | none => rw [Overrides.bind_signed?, held]; rfl
  | some n =>
    have small := (Option.filter_eq_some_iff.1 held).2
    have small := of_decide_eq_true small
    rw [Overrides.bind_signed?, held]
    exact laws.below_whole (by unfold greatestNumber at small; omega) small

theorem runAfterVictory_read (other : Option Bool) :
    ((lib.at? ["engine", "run_after_victory"] v).map lib.truth?).getD other =
      ((if o.runAfterVictory then some true else none) <|>
        ((lib.at? ["engine", "run_after_victory"] w).map lib.truth?).getD other) := by
  rw [runAfterVictory_at? laws built unflagged]
  cases o.runAfterVictory with
  | false => rfl
  | true => exact laws.truth_truth true

/-- What is read by name, or else where an option stands in a list, can be read behind flags too, as
    it was or as is usual. -/
theorem exists_option {α : Type} (f : Library.Field) {r : lib.Value → Option α} {usual a : α}
    {named : Option (Option α)} (read : named.getD (listed lib w f r usual) = some a) :
    ∃ a', named.getD (listed lib v f r usual) = some a' ∧ (a' = a ∨ a' = usual) := by
  cases named with
  | some x => exact ⟨a, read, .inl rfl⟩
  | none =>
    rcases listed_layered laws built unflagged f r usual with same | same
    · exact ⟨usual, same, .inr rfl⟩
    · exact ⟨a, same.trans read, .inl rfl⟩

theorem exists_seed (fits : ∀ n, o.seed = some n → n < 4294967296) {seed : UInt32}
    (read : ((lib.at? ["engine", "seed"] w).map (lib.below? 4294967296)).getD
      (listed lib w ⟨"seed", 0⟩ (lib.below? 4294967296) 1) = some seed.toNat) :
    ∃ seed' : UInt32, ((lib.at? ["engine", "seed"] v).map (lib.below? 4294967296)).getD
      (listed lib v ⟨"seed", 0⟩ (lib.below? 4294967296) 1) = some seed'.toNat := by
  rw [seed_read laws built unflagged fits]
  cases told : o.seed with
  | some n => exact ⟨.ofNat n, by rw [UInt32.toNat_ofNat_of_lt' (fits n told)]; rfl⟩
  | none =>
    obtain ⟨n, said, rfl | rfl⟩ := exists_option laws built unflagged _ read
    · exact ⟨seed, said⟩
    · exact ⟨1, said⟩

theorem exists_runAfterVictory {goesOn : Bool}
    (read : ((lib.at? ["engine", "run_after_victory"] w).map lib.truth?).getD
      (listed lib w ⟨"run_after_victory", 1⟩ lib.truth? false) = some goesOn) :
    ∃ goesOn', ((lib.at? ["engine", "run_after_victory"] v).map lib.truth?).getD
      (listed lib v ⟨"run_after_victory", 1⟩ lib.truth? false) = some goesOn' := by
  rw [runAfterVictory_read laws built unflagged]
  cases o.runAfterVictory with
  | true => exact ⟨true, rfl⟩
  | false =>
    obtain ⟨goesOn', said, -⟩ := exists_option laws built unflagged _ read
    exact ⟨goesOn', said⟩

end Flags

/-- **Flags never keep the settings from being read.** What can be loaded without flags can be
    loaded with them, and the settings that no flag speaks of are the same. -/
theorem exists_load (laws : lib.Laws) (fits : ∀ n, o.seed = some n → n < 4294967296)
    {s : Settings} (loads : load? lib around path .none = some s) :
    ∃ options turns, load? lib around path o = some { s with options, turns } := by
  obtain ⟨w, unflagged, read⟩ := Option.bind_eq_some_iff.1 loads
  obtain ⟨v, built⟩ := exists_layered? laws _ o unflagged
  obtain ⟨entry, table⟩ := layered?_table laws built
  obtain ⟨entry', table'⟩ := layered?_table laws unflagged
  obtain ⟨options, turns, others⟩ := ofValue?_eq_some.1 read
  obtain ⟨structured, seed, goesOn⟩ := (options_read laws table').1 options
  obtain ⟨seed, seedRead⟩ := exists_seed laws built unflagged fits seed
  obtain ⟨goesOn, goesOnRead⟩ := exists_runAfterVictory laws built unflagged goesOn
  have optionsRead : lib.field v ⟨"engine", 0⟩ (optionsOf? lib) (some usual.options) =
      some ⟨seed, goesOn⟩ := (options_read laws table).2
    ⟨structured_layered laws built unflagged structured, seedRead, goesOnRead⟩
  have turns : ∃ turns', lib.field v ⟨"turns", 1⟩ (lib.below? 18446744073709551616)
      (some usual.turns) = some turns' := by
    rw [Library.field_of_table table', ← Library.at?_single] at turns
    rw [Library.field_of_table table, ← Library.at?_single, turns_read laws built unflagged, turns]
    cases o.heldTurns <;> exact ⟨_, rfl⟩
  obtain ⟨turns, turnsRead⟩ := turns
  obtain ⟨myPlayer, network, income, points, gates, activations, names⟩ :=
    (others_layered laws built unflagged).2 others
  refine ⟨⟨seed, goesOn⟩, turns, Option.bind_eq_some_iff.2 ⟨v, built, ?_⟩⟩
  exact ofValue?_eq_some.2 ⟨optionsRead, turnsRead, myPlayer, network, income, points, gates,
    activations, names⟩

/-! ## By layers -/

/-- What the layers below the flags say of the setting under `keys`: what its variable is set to, if
    no other variable speaks of the setting; what the file says by itself, if no variable does; and
    nothing without a file. -/
inductive Below (lib : Library) (around : Surroundings) (path : Option String)
    (keys : List String) : Option lib.Value → Prop
  | environment {earlier later : List (String × String)} {name text : String} :
      around.environment = earlier ++ (name, text) :: later →
      sameWord name (variableName keys) = true →
      (∀ x ∈ earlier ++ later, lib.Silent keys x) →
      Below lib around path keys (some (lib.parsed text))
  | file {v : lib.Value} : path ≠ none → lib.build? (files lib around path) [] = some v →
      (∀ x ∈ around.environment, lib.Silent keys x) → Below lib around path keys (lib.at? keys v)
  | nothing : path = none → (∀ x ∈ around.environment, lib.Silent keys x) →
      Below lib around path keys none

theorem at?_of_below (laws : lib.Laws) {w : lib.Value}
    (unflagged : layered? lib around path .none = some w) {keys : List String}
    (known : keys ∈ flagged) {said : Option lib.Value} (below : Below lib around path keys said) :
    lib.at? keys w = said := by
  cases below with
  | environment whole named silent =>
    rw [layered?, whole] at unflagged
    exact laws.variable_counts unflagged known named silent
  | file _ readable silent => exact laws.variables_silent readable unflagged silent
  | nothing unnamed silent =>
    obtain ⟨v, built, empty⟩ := laws.nothing
    have keyed : keys ≠ [] := by
      rintro rfl
      revert known
      decide
    rw [layered?, unnamed] at unflagged
    rw [laws.variables_silent built unflagged silent, empty keys keyed]

/-- Settings that the layers make: what the arguments spell, what the layers below the flags say, and
    `v`, the configuration of all. A setting whose flag is spelled is what the flag says, but for a
    number of turns past the greatest number with a sign. All else is left to the layers below; where
    these do not give an option by name, its place in a list of options counts, and then what is
    usual. -/
structure Layered (lib : Library) (around : Surroundings) (path : Option String) (v : lib.Value)
    (arguments : List String) (s : Settings) : Prop where
  seed_told {text : String} : spelled? .seed arguments = some text →
    Given.seedOf? text = some s.options.seed.toNat
  seed_below {said : Option lib.Value} : spelled? .seed arguments = none →
    Below lib around path ["engine", "seed"] said →
    (said.map (lib.below? 4294967296)).getD (listed lib v ⟨"seed", 0⟩ (lib.below? 4294967296) 1) =
      some s.options.seed.toNat
  turns_told {text : String} : spelled? .turns arguments = some text →
    ∃ n, Given.turnsOf? text = some n ∧ ((n : Int) ≤ greatestNumber → s.turns = n)
  turns_below {said : Option lib.Value} :
    (∀ text n, spelled? .turns arguments = some text → Given.turnsOf? text = some n →
      greatestNumber < n) →
    Below lib around path ["turns"] said →
    (said.map (lib.below? 18446744073709551616)).getD (some 1000) = some s.turns
  runAfterVictory_told : spelled? .runAfterVictory arguments ≠ none →
    s.options.runAfterVictory = true
  runAfterVictory_below {said : Option lib.Value} : spelled? .runAfterVictory arguments = none →
    Below lib around path ["engine", "run_after_victory"] said →
    (said.map lib.truth?).getD (listed lib v ⟨"run_after_victory", 1⟩ lib.truth? false) =
      some s.options.runAfterVictory

/-- How the settings with a flag are read, behind flags and what is below them. -/
theorem read_of_load (laws : lib.Laws) (fits : ∀ n, o.seed = some n → n < 4294967296)
    {s : Settings} (loads : load? lib around path o = some s) :
    ∃ v w, layered? lib around path o = some v ∧ layered? lib around path .none = some w ∧
      (o.seed <|> ((lib.at? ["engine", "seed"] w).map (lib.below? 4294967296)).getD
        (listed lib v ⟨"seed", 0⟩ (lib.below? 4294967296) 1)) = some s.options.seed.toNat ∧
      (o.heldTurns <|> ((lib.at? ["turns"] w).map (lib.below? 18446744073709551616)).getD
        (some 1000)) = some s.turns ∧
      ((if o.runAfterVictory then some true else none) <|>
        ((lib.at? ["engine", "run_after_victory"] w).map lib.truth?).getD
          (listed lib v ⟨"run_after_victory", 1⟩ lib.truth? false)) =
            some s.options.runAfterVictory := by
  obtain ⟨v, built, read⟩ := Option.bind_eq_some_iff.1 loads
  obtain ⟨w, unflagged⟩ := exists_layered? laws o .none built
  obtain ⟨entry, table⟩ := layered?_table laws built
  obtain ⟨options, turns, -⟩ := ofValue?_eq_some.1 read
  obtain ⟨-, seed, goesOn⟩ := (options_read laws table).1 options
  rw [seed_read laws built unflagged fits] at seed
  rw [runAfterVictory_read laws built unflagged] at goesOn
  rw [Library.field_of_table table, ← Library.at?_single, turns_read laws built unflagged] at turns
  exact ⟨v, w, built, unflagged, seed, turns, goesOn⟩

end Settings

/-! ## Runs -/

namespace CommandLine

variable {lib : Library} {arguments : List String} {around : Surroundings} {i : Invocation}
  {o : Overrides}

theorem answer_run (understood : lib.parse arguments = .ok i) (run : i.action = .run o)
    {s : Settings} (settled : i.settings? lib around = some s) {script : ByteArray}
    (found : around.file? i.script = some script) :
    answerWith lib around arguments = ⟨.done, ((s.run (Utf8.decode script.toList)).notes.filter
      fun n => n.weight.appears i.least).map Note.line⟩ := by
  unfold answerWith Invocation.carryOut
  simp only [understood, settled, found, run, Logged.value_bind, Logged.value_pure,
    Logged.notes_bind, Logged.notes_pure, List.append_nil]

theorem settings?_of_run (run : i.action = .run o) :
    i.settings? lib around = Settings.load? lib around i.config o := by
  rw [Invocation.settings?, run]
  rfl

theorem seed_lt (laws : lib.Laws) (understood : lib.parse arguments = .ok i)
    (run : i.action = .run o) (n : Nat) (told : o.seed = some n) : n < 4294967296 := by
  have spelled := (laws.told understood run).1
  rw [told] at spelled
  obtain ⟨value, -, readable⟩ := Option.map_eq_some_iff.1 spelled.symm
  exact Given.lt_of_seedOf? readable

theorem layered_of_settings (laws : lib.Laws) (understood : lib.parse arguments = .ok i)
    (run : i.action = .run o) {s : Settings} (settled : i.settings? lib around = some s) :
    ∃ v, Settings.layered? lib around i.config o = some v ∧
      Settings.Layered lib around i.config v arguments s := by
  rw [settings?_of_run run] at settled
  obtain ⟨v, w, built, unflagged, seed, turns, goesOn⟩ :=
    Settings.read_of_load laws (seed_lt laws understood run) settled
  obtain ⟨seedTold, turnsTold, goesOnTold⟩ := laws.told understood run
  refine ⟨v, built, ?_, ?_, ?_, ?_, ?_, ?_⟩
  · intro text spelled
    rw [spelled] at seedTold
    obtain ⟨n, told, same⟩ := Option.map_eq_some_iff.1 seedTold
    rw [told] at seed
    exact same.symm.trans seed
  · intro said unspelled below
    rw [unspelled] at seedTold
    rw [Option.map_eq_none_iff.1 seedTold,
      Settings.at?_of_below laws unflagged (by decide) below] at seed
    exact seed
  · intro text spelled
    rw [spelled] at turnsTold
    obtain ⟨n, told, same⟩ := Option.map_eq_some_iff.1 turnsTold
    refine ⟨n, same.symm, fun held => ?_⟩
    rw [Overrides.heldTurns, told, Option.filter_some, if_pos (decide_eq_true held)] at turns
    exact (Option.some.inj turns).symm
  · intro said great below
    have lost : o.heldTurns = none := by
      cases told : o.turns with
      | none => rw [Overrides.heldTurns, told]; rfl
      | some n =>
        rw [told] at turnsTold
        obtain ⟨text, spelled, readable⟩ := Option.map_eq_some_iff.1 turnsTold.symm
        have past := great text n spelled readable
        rw [Overrides.heldTurns, told, Option.filter_some,
          if_neg (by rw [decide_eq_true_iff]; omega)]
    rw [lost, Settings.at?_of_below laws unflagged (by decide) below] at turns
    exact turns
  · intro spelled
    rw [Option.isSome_iff_ne_none.2 spelled] at goesOnTold
    rw [goesOnTold] at goesOn
    exact (Option.some.inj goesOn).symm
  · intro said unspelled below
    rw [unspelled] at goesOnTold
    rw [goesOnTold, Settings.at?_of_below laws unflagged (by decide) below] at goesOn
    exact goesOn

theorem seed_of_settings (laws : lib.Laws) (run : i.action = .run o) {n : Nat}
    (fits : n < 4294967296) (told : o.seed = some n) {s : Settings}
    (settled : i.settings? lib around = some s) : s.options.seed.toNat = n := by
  rw [settings?_of_run run] at settled
  have fits : ∀ m, o.seed = some m → m < 4294967296 := by
    intro m told'
    rw [told] at told'
    exact Option.some.inj told' ▸ fits
  obtain ⟨v, w, -, -, seed, -⟩ := Settings.read_of_load laws fits settled
  rw [told] at seed
  exact (Option.some.inj seed).symm

end CommandLine

end DungeonScript

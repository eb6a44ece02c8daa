import DungeonScript.Library.Standard
import DungeonScript.Proofs.CommandLine

/-!
The libraries the program uses do what is known of libraries (`Library.standard_laws`). What has to be
shown is how values are put under paths: a value stands where it is put, and what the path does not
lead to stays (`Config.at?_setAt_self`, `Config.at?_setAt_of_unsaid`). Variables are put in the order
in which they are given, but whoever speaks alone of a setting counts, whatever stands before and
behind (`Config.at?_putAll`).
-/

namespace DungeonScript

open Config (Path Value Step variablePath? lowerCase)
open Library (Apart)

/-! ## Names of variables -/

namespace Config

theorem Path.exists_ofText (text : String) : ∃ name path, ofText text = .key name :: path := by
  unfold ofText
  cases read : ofText? text with
  | none => exact ⟨text, [], rfl⟩
  | some path =>
    obtain ⟨step, keyed, rest⟩ := Option.bind_eq_some_iff.1 read
    obtain ⟨more, -, same⟩ := Option.bind_eq_some_iff.1 rest
    unfold key? at keyed
    split at keyed
    · cases keyed
    · cases keyed
      exact ⟨_, more, (Option.some.inj same).symm⟩

theorem lowerCase_toUpper (c : Char) : lowerCase c.toUpper = lowerCase c := by
  unfold lowerCase
  rw [toLower_toUpper]
  exact if_congr (toUpper_eq_iff (by decide)) rfl rfl

theorem variablePath?_of_sameWord {a b : String} (same : sameWord a b = true) :
    variablePath? a = variablePath? b := by
  have capitals := congrArg String.toList (sameWord_iff.1 same)
  rw [toList_upperCase, toList_upperCase] at capitals
  have lowered := congrArg (List.map lowerCase) capitals
  rw [List.map_map, List.map_map, funext (f := lowerCase ∘ Char.toUpper) lowerCase_toUpper] at lowered
  unfold variablePath?
  rw [lowered]

/-- The variable of a setting with a flag stands for its keys. -/
theorem variablePath?_variableName {keys : List String} (known : keys ∈ Settings.flagged) :
    (variablePath? (Settings.variableName keys)).map Path.ofText = some (keys.map .key) := by
  revert keys
  decide +kernel

theorem variableValue_ne_table (text : String) (fields : List (String × Value)) :
    variableValue text ≠ .table fields := by
  unfold variableValue
  split
  · nofun
  · split
    · nofun
    · split
      · nofun
      · split <;> nofun

/-! ## Values under paths -/

/-- What stands under keys, one after the other. -/
abbrev at? (keys : List String) (v : Value) : Option Value := Library.standard.at? keys v

/-- Nothing is said of what stands under keys. -/
abbrev Unsaid (keys : List String) (v : Value) : Prop := Library.standard.Unsaid keys v

theorem standard_get? (v : Value) (key : String) : Library.standard.get? v key = v.get? key := by
  cases v <;> rfl

theorem at?_cons (key : String) (keys : List String) (v : Value) :
    at? (key :: keys) v = (v.get? key).bind (at? keys) :=
  congrArg (Option.bind · (at? keys)) (standard_get? v key)

theorem get?_setAt_self (new : Value) (key : String) (path : Path) (v : Value) :
    (Value.setAt new (.key key :: path) v).get? key =
      some (Value.setAt new path ((v.get? key).getD .void)) :=
  find?_put_self key _ v.entries

theorem get?_setAt_of_ne (new : Value) {key other : String} (path : Path) (v : Value)
    (differs : key ≠ other) :
    (Value.setAt new (.key key :: path) v).get? other = v.get? other :=
  find?_put_of_ne _ v.entries differs

theorem laidOn_of_ne_table {new : Value} (plain : ∀ fields, new ≠ .table fields) (old : Value) :
    new.laidOn old = new := by
  cases new with
  | table fields => exact absurd rfl (plain fields)
  | _ => simp only [Value.laidOn]

theorem at?_setAt_self {new : Value} (plain : ∀ fields, new ≠ .table fields) (keys : List String)
    (v : Value) : at? keys (Value.setAt new (keys.map .key) v) = some new := by
  induction keys generalizing v with
  | nil =>
    show some (new.laidOn v) = some new
    rw [laidOn_of_ne_table plain]
  | cons key keys ih => rw [at?_cons, List.map_cons, get?_setAt_self, Option.bind_some, ih]

theorem at?_setAt_of_apart (new : Value) {a keys : List String} (apart : Apart a keys) (v : Value) :
    at? keys (Value.setAt new (a.map .key) v) = at? keys v := by
  induction keys generalizing a v with
  | nil => exact absurd List.nil_prefix apart.2
  | cons key keys ih =>
    cases a with
    | nil => exact absurd List.nil_prefix apart.1
    | cons first a =>
      rw [at?_cons, at?_cons, List.map_cons]
      by_cases same : first = key
      · subst same
        have later := apart.of_cons
        rw [get?_setAt_self, Option.bind_some, ih later]
        cases keys with
        | nil => exact absurd List.nil_prefix later.2
        | cons => cases v.get? first <;> rfl
      · rw [get?_setAt_of_ne _ _ _ same]

theorem not_unsaid_of_ne_table {v : Value} (plain : ∀ fields, v ≠ .table fields)
    (keys : List String) : ¬Unsaid keys v := by
  cases keys with
  | nil => exact id
  | cons key keys =>
    rintro ⟨entry, table, -⟩
    cases v with
    | table fields => exact plain fields rfl
    | _ => cases table

theorem unsaid_of_get? {key : String} {keys : List String} {v w : Value}
    (unsaid : Unsaid (key :: keys) v) (there : v.get? key = some w) : Unsaid keys w := by
  obtain ⟨entry, table, later⟩ := unsaid
  refine later w ?_
  rw [← Library.get?_of_table table, standard_get?]
  exact there

/-- What a value says nothing of, put where nothing stands, it leaves as it is. -/
theorem at?_setAt_of_unsaid {new : Value} (plain : ∀ fields, new ≠ .table fields)
    {keys : List String} {path : Path} (unsaid : Unsaid keys (Value.setAt new path .void))
    (v : Value) : at? keys (Value.setAt new path v) = at? keys v := by
  induction keys generalizing path v with
  | nil => exact unsaid.elim
  | cons key keys ih =>
    cases path with
    | nil =>
      rw [Value.setAt, laidOn_of_ne_table plain] at unsaid
      exact absurd unsaid (not_unsaid_of_ne_table plain _)
    | cons step path =>
      cases step with
      | place index =>
        refine absurd unsaid (not_unsaid_of_ne_table (fun fields same => ?_) _)
        rw [Value.setAt] at same
        cases same
      | key name =>
        rw [at?_cons, at?_cons]
        by_cases same : name = key
        · subst same
          have later : Unsaid keys (Value.setAt new path .void) :=
            unsaid_of_get? unsaid (get?_setAt_self new name path .void)
          rw [get?_setAt_self, Option.bind_some, ih later]
          cases keys with
          | nil => exact later.elim
          | cons => cases v.get? name <;> rfl
        · rw [get?_setAt_of_ne _ _ _ same]

/-- Values that say nothing of what stands under keys leave it as it is. -/
theorem at?_putAll {es : List (Path × Value)} {keys : List String}
    (unsaid : ∀ e ∈ es, (∀ fields, e.2 ≠ .table fields) ∧
      Unsaid keys (Value.setAt e.2 e.1 .void)) (v : Value) :
    at? keys (putAll es v) = at? keys v := by
  induction es generalizing v with
  | nil => rfl
  | cons e later ih =>
    obtain ⟨plain, here⟩ := unsaid e List.mem_cons_self
    exact (ih (fun e' member => unsaid e' (List.mem_cons_of_mem e member)) _).trans
      (at?_setAt_of_unsaid plain here v)

theorem exists_putAll_table {es : List (Path × Value)}
    (keyed : ∀ e ∈ es, ∃ name path, e.1 = .key name :: path) (fields : List (String × Value)) :
    ∃ fields', putAll es (.table fields) = .table fields' := by
  induction es generalizing fields with
  | nil => exact ⟨fields, rfl⟩
  | cons e later ih =>
    obtain ⟨name, path, first⟩ := keyed e List.mem_cons_self
    have rest := ih fun e' member => keyed e' (List.mem_cons_of_mem e member)
    rw [putAll, List.foldl_cons, first]
    exact rest _

/-! ## Layers -/

theorem layers_append (sources : List (List (String × Value))) (source : List (String × Value)) :
    layers (sources ++ [source]) [] =
      layers sources [] ++ source.map fun e => (Path.ofText e.1, e.2) := by
  simp [layers]

theorem layers_eq (sources : List (List (String × Value))) (above : List (List String × Value)) :
    layers sources above = layers sources [] ++ above.map fun e => (e.1.map .key, e.2) := by
  simp [layers]

theorem putAll_append (es es' : List (Path × Value)) (v : Value) :
    putAll (es ++ es') v = putAll es' (putAll es v) := List.foldl_append

theorem layers_keyed {sources : List (List (String × Value))} {above : List (List String × Value)}
    (keyed : ∀ e ∈ above, e.1 ≠ []) {e : Path × Value} (member : e ∈ layers sources above) :
    ∃ name path, e.1 = .key name :: path := by
  rcases List.mem_append.1 member with source | flag
  · obtain ⟨entry, -, rfl⟩ := List.mem_map.1 source
    exact Path.exists_ofText entry.1
  · obtain ⟨⟨keys, w⟩, given, rfl⟩ := List.mem_map.1 flag
    obtain ⟨key, rest, rfl⟩ := List.exists_cons_of_ne_nil (keyed _ given)
    exact ⟨key, rest.map .key, rfl⟩

theorem build?_eq_some {sources : List Library.standard.Source}
    {above : List (List String × Value)} {v : Value} :
    Library.standard.build? sources above = some v ↔
      ∃ read, sources.mapM id = some read ∧ putAll (layers read above) (.table []) = v :=
  Option.map_eq_some_iff

theorem mapM_environment {sources : List Library.standard.Source}
    {xs : List (String × String)} {read : List (List (String × Value))} :
    (sources ++ [Library.standard.environment xs]).mapM id = some read ↔
      ∃ lower, sources.mapM id = some lower ∧ read = lower ++ [ofVariables xs] := by
  have last : [Library.standard.environment xs].mapM id = some [ofVariables xs] := rfl
  rw [List.mapM_append, last]
  simp only [bind, Option.bind_eq_some_iff, pure, Option.some.injEq]
  constructor
  · rintro ⟨lower, lower_, _, rfl, rfl⟩
    exact ⟨lower, lower_, rfl⟩
  · rintro ⟨lower, lower_, rfl⟩
    exact ⟨lower, lower_, _, rfl, rfl⟩

theorem build?_environment {sources : List Library.standard.Source}
    {xs : List (String × String)} {w : Value} :
    Library.standard.build? (sources ++ [Library.standard.environment xs]) [] = some w ↔
      ∃ v, Library.standard.build? sources [] = some v ∧
        putAll ((ofVariables xs).map fun e => (Path.ofText e.1, e.2)) v = w := by
  rw [build?_eq_some]
  constructor
  · rintro ⟨read, all, rfl⟩
    obtain ⟨lower, lower_, rfl⟩ := mapM_environment.1 all
    refine ⟨_, build?_eq_some.2 ⟨lower, lower_, rfl⟩, ?_⟩
    rw [layers_append, putAll_append]
  · rintro ⟨v, built, rfl⟩
    obtain ⟨lower, lower_, rfl⟩ := build?_eq_some.1 built
    refine ⟨_, mapM_environment.2 ⟨lower, lower_, rfl⟩, ?_⟩
    rw [layers_append, putAll_append]

theorem build?_alone {xs : List (String × String)} {w : Value} :
    Library.standard.build? [Library.standard.environment xs] [] = some w ↔
      putAll ((ofVariables xs).map fun e => (Path.ofText e.1, e.2)) (.table []) = w := by
  refine (@build?_environment [] xs w).trans ⟨?_, fun made => ⟨.table [], rfl, made⟩⟩
  rintro ⟨v, nothing, made⟩
  obtain rfl : Value.table [] = v := Option.some.inj nothing
  exact made

/-- What a variable says that is silent by itself. -/
theorem unsaid_of_silent {keys : List String} {x : String × String}
    (silent : Library.standard.Silent keys x) {path : String}
    (counts : variablePath? x.1 = some path) :
    Unsaid keys (Value.setAt (variableValue x.2) (Path.ofText path) .void) := by
  obtain ⟨v, built, unsaid⟩ := silent
  obtain rfl := build?_alone.1 built
  have alone : ofVariables [x] = [(path, variableValue x.2)] := by
    rw [ofVariables, List.filterMap_cons, counts]
    rfl
  rw [alone] at unsaid
  obtain ⟨name, rest, first⟩ := Path.exists_ofText path
  have unsaid : Unsaid keys (Value.setAt (variableValue x.2) (Path.ofText path) (.table [])) := unsaid
  rw [first] at unsaid ⊢
  exact unsaid

theorem at?_putAll_variables {keys : List String} {xs : List (String × String)}
    (silent : ∀ x ∈ xs, Library.standard.Silent keys x) (v : Value) :
    at? keys (putAll ((ofVariables xs).map fun e => (Path.ofText e.1, e.2)) v) = at? keys v := by
  refine at?_putAll (fun e member => ?_) v
  obtain ⟨⟨path, value⟩, said, rfl⟩ := List.mem_map.1 member
  obtain ⟨x, given, made⟩ := List.mem_filterMap.1 said
  obtain ⟨path, counts, same⟩ := Option.map_eq_some_iff.1 made
  cases same
  exact ⟨variableValue_ne_table x.2, unsaid_of_silent (silent x given) counts⟩

/-- The variable of a setting gives it, if all others are silent. -/
theorem at?_variable {keys : List String} {earlier later : List (String × String)}
    {name text : String} (known : keys ∈ Settings.flagged)
    (named : sameWord name (Settings.variableName keys) = true)
    (silent : ∀ x ∈ earlier ++ later, Library.standard.Silent keys x) (v : Value) :
    at? keys (putAll ((ofVariables (earlier ++ (name, text) :: later)).map
      fun e => (Path.ofText e.1, e.2)) v) = some (variableValue text) := by
  obtain ⟨path, counts, leads⟩ := Option.map_eq_some_iff.1 (variablePath?_variableName known)
  have here : variablePath? name = some path := (variablePath?_of_sameWord named).trans counts
  have split : ofVariables (earlier ++ (name, text) :: later) =
      ofVariables earlier ++ (path, variableValue text) :: ofVariables later := by
    simp [ofVariables, here]
  rw [split, List.map_append, putAll_append, List.map_cons]
  refine (at?_putAll_variables (fun x member => silent x (List.mem_append_right _ member)) _).trans ?_
  rw [leads]
  exact at?_setAt_self (variableValue_ne_table text) keys _

theorem unsaid_nil {keys : List String} (keyed : keys ≠ []) : Unsaid keys (.table []) := by
  obtain ⟨key, rest, rfl⟩ := List.exists_cons_of_ne_nil keyed
  refine ⟨_, rfl, fun w there => ?_⟩
  cases there

/-- A value that is put apart from keys, where nothing stands, says nothing of what is under them. -/
theorem unsaid_setAt_of_apart (new : Value) {a keys : List String} (apart : Apart a keys) {v : Value}
    (empty : ∀ key, v.get? key = none) : Unsaid keys (Value.setAt new (a.map .key) v) := by
  induction keys generalizing a v with
  | nil => exact absurd List.nil_prefix apart.2
  | cons key keys ih =>
    cases a with
    | nil => exact absurd List.nil_prefix apart.1
    | cons first a =>
      refine ⟨_, rfl, fun w there => ?_⟩
      have there : (Value.setAt new (.key first :: a.map .key) v).get? key = some w := there
      by_cases same : first = key
      · subst same
        have later := apart.of_cons
        rw [get?_setAt_self, empty, Option.getD_none] at there
        cases there
        exact ih later fun _ => rfl
      · rw [get?_setAt_of_ne _ _ _ same, empty] at there
        cases there

theorem silent_of_foreign {keys : List String} (keyed : keys ≠ []) {x : String × String}
    (foreign : variablePath? x.1 = none) : Library.standard.Silent keys x := by
  have alone : ofVariables [x] = [] := by
    rw [ofVariables, List.filterMap_cons, foreign]
    rfl
  refine ⟨.table [], ?_, unsaid_nil keyed⟩
  exact build?_alone.2 (by rw [alone]; rfl)

/-- The variable of a setting is silent on another one. -/
theorem silent_of_apart {a keys : List String} (known : a ∈ Settings.flagged)
    (apart : Apart a keys) {x : String × String}
    (named : sameWord x.1 (Settings.variableName a) = true) : Library.standard.Silent keys x := by
  obtain ⟨path, counts, leads⟩ := Option.map_eq_some_iff.1 (variablePath?_variableName known)
  have here : variablePath? x.1 = some path := (variablePath?_of_sameWord named).trans counts
  have alone : ofVariables [x] = [(path, variableValue x.2)] := by
    rw [ofVariables, List.filterMap_cons, here]
    rfl
  refine ⟨Value.setAt (variableValue x.2) (a.map .key) (.table []), ?_,
    unsaid_setAt_of_apart _ apart fun _ => rfl⟩
  refine build?_alone.2 ?_
  rw [alone, ← leads]
  rfl

/-! ## Values above the sources -/

theorem putAll_above (read : List (List (String × Value))) (above : List (List String × Value)) :
    putAll (layers read above) (.table []) =
      putAll (above.map fun e => (e.1.map .key, e.2)) (putAll (layers read []) (.table [])) := by
  rw [layers_eq, putAll_append]

theorem at?_putAll_of_apart {above : List (List String × Value)} {keys : List String}
    (apart : ∀ e ∈ above, Apart e.1 keys) (v : Value) :
    at? keys (putAll (above.map fun e => (e.1.map .key, e.2)) v) = at? keys v := by
  induction above generalizing v with
  | nil => rfl
  | cons e later ih =>
    refine (ih (fun e' member => apart e' (List.mem_cons_of_mem e member)) _).trans ?_
    exact at?_setAt_of_apart e.2 (apart e List.mem_cons_self) v

/-- A value that is put apart from all behind it stays. -/
theorem at?_putAll_of_mem {above : List (List String × Value)} {keys : List String} {w : Value}
    (apart : above.Pairwise fun a b => Apart a.1 b.1) (member : (keys, w) ∈ above)
    (plain : ∀ fields, w ≠ .table fields) (v : Value) :
    at? keys (putAll (above.map fun e => (e.1.map .key, e.2)) v) = some w := by
  obtain ⟨earlier, later, rfl⟩ := List.append_of_mem member
  obtain ⟨-, behind, -⟩ := List.pairwise_append.1 apart
  have behind := (List.pairwise_cons.1 behind).1
  rw [List.map_append, putAll_append, List.map_cons]
  refine (at?_putAll_of_apart (fun e there => (behind e there).symm) _).trans ?_
  exact at?_setAt_self plain keys _

end Config

/-! ## The laws -/

open Config in
/-- The libraries the program uses do what is known of libraries. -/
theorem Library.standard_laws : Library.standard.Laws where
  view_whole _ := rfl
  view_truth _ := rfl
  below_whole {limit n} fits _ := by
    show (some n).filter (fun m => decide (m < limit)) = some n
    rw [Option.filter_some, if_pos (decide_eq_true fits)]
  below_lt read := of_decide_eq_true (Option.filter_eq_some_iff.1 read).2
  truth_truth _ := rfl
  rooted {ss os v} built keyed := by
    obtain ⟨read, -, rfl⟩ := build?_eq_some.1 built
    obtain ⟨fields, table⟩ := exists_putAll_table (fun e => layers_keyed keyed) []
    rw [table]
    exact ⟨_, rfl⟩
  nothing := by
    refine ⟨_, rfl, fun keys keyed => ?_⟩
    obtain ⟨key, rest, rfl⟩ := List.exists_cons_of_ne_nil keyed
    rfl
  variable_counts built known named silent := by
    obtain ⟨v, -, rfl⟩ := build?_environment.1 built
    exact at?_variable known named silent v
  variables_silent below built silent := by
    obtain ⟨v, below', rfl⟩ := build?_environment.1 built
    obtain rfl := Option.some.inj (below.symm.trans below')
    exact at?_putAll_variables silent _
  overrides_built ss os := by
    show (Option.map _ _).isSome = (Option.map _ _).isSome
    rw [Option.isSome_map, Option.isSome_map]
  override_counts built apart member single := by
    obtain ⟨read, -, rfl⟩ := build?_eq_some.1 built
    rw [putAll_above]
    refine at?_putAll_of_mem apart member (fun fields same => ?_) _
    rw [same] at single
    cases single
  override_apart built below apart := by
    obtain ⟨read, all, rfl⟩ := build?_eq_some.1 built
    obtain ⟨read', all', rfl⟩ := build?_eq_some.1 below
    obtain rfl := Option.some.inj (all.symm.trans all')
    rw [putAll_above]
    exact at?_putAll_of_apart apart _
  told := CommandLine.run_told
  accepts := CommandLine.parse_append_flag

end DungeonScript

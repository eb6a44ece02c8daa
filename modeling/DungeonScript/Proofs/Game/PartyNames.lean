import DungeonScript.Proofs.Game.TunnellerParties

/-!
Names of parties. A party is created under the first part of the word that names it, and looked up
under the whole word. The names in a store only become more (`loadLines_partyNames`), so a name
that is found stays that of the same party. A word that is not cut is therefore found on every
later line, in any case, and a word that is cut is never found (`party_found_iff_uncut`).
-/

namespace DungeonScript

theorem length_upperCase (w : String) : (upperCase w).length = w.length := by
  simp [← String.length_toList, toList_upperCase]

theorem length_of_sameWord {a b : String} (same : sameWord a b = true) : a.length = b.length := by
  rw [← length_upperCase a, ← length_upperCase b, sameWord_iff.1 same]

/-- The name under which a party is created: the first part of a word. -/
def cutPartyName (word : String) : String :=
  String.ofList (word.toList.take (partyNameLength - 1))

theorem length_cutPartyName (word : String) :
    (cutPartyName word).length = min (partyNameLength - 1) word.length := by
  rw [cutPartyName, String.length_ofList, List.length_take, String.length_toList]

theorem cutPartyName_of_short {word : String} (short : word.length < partyNameLength) :
    cutPartyName word = word := by
  have all : word.toList.length ≤ partyNameLength - 1 := by
    rw [String.length_toList]
    omega
  rw [cutPartyName, List.take_of_length_le all, String.ofList_toList]

namespace Script

def partyNames (s : Script) : List String := s.parties.map (·.name)

theorem findParty?_eq (s : Script) (name : String) :
    s.findParty? name = s.partyNames.findIdx? (sameWord · name) := by
  rw [partyNames, List.findIdx?_map]
  rfl

theorem findParty?_congr (s : Script) {a b : String} (same : sameWord a b = true) :
    s.findParty? a = s.findParty? b := by
  rw [findParty?_eq, findParty?_eq]
  congr 1
  funext name
  rw [Bool.eq_iff_iff, sameWord_iff, sameWord_iff, sameWord_iff.1 same]

theorem exists_findParty? {s : Script} {name : String} (here : name ∈ s.partyNames) :
    ∃ id, s.findParty? name = some id := by
  rw [findParty?_eq]
  cases found : s.partyNames.findIdx? (sameWord · name) with
  | some id => exact ⟨id, rfl⟩
  | none =>
    have other := List.findIdx?_eq_none_iff.1 found name here
    rw [sameWord_refl] at other
    cases other

theorem length_of_findParty? {s : Script} {a b : String} {id : Nat}
    (found : s.findParty? a = some id) (other : s.findParty? b = some id) : a.length = b.length := by
  obtain ⟨_, sameA, _⟩ := List.findIdx?_eq_some_iff_getElem.1 found
  obtain ⟨_, sameB, _⟩ := List.findIdx?_eq_some_iff_getElem.1 other
  exact (length_of_sameWord sameA).symm.trans (length_of_sameWord sameB)

theorem findParty?_eq_none_of_long {s : Script} {name : String}
    (short : ∀ n ∈ s.partyNames, n.length < partyNameLength) (long : partyNameLength ≤ name.length) :
    s.findParty? name = none := by
  rw [findParty?_eq, List.findIdx?_eq_none_iff]
  intro n here
  rw [← Bool.not_eq_true]
  intro same
  have length := length_of_sameWord same
  have := short n here
  omega

end Script

def ScriptLine.partyWord? (l : ScriptLine) : Option String :=
  match l.verb with
  | .addToParty => some (l.word 0)
  | .addPartyToLevel | .addTunnellerPartyToLevel => some (l.word 1)
  | _ => none

namespace Command

open Reading

/-- The party of a store that a command is about. -/
def partyIn (s : Script) : Command → Option Nat
  | .addToParty name _ => s.findParty? name
  | .spawn spawned => spawned.party?
  | .tunneller t => t.party
  | _ => none

variable (w : World) (s : Script) (l : ScriptLine)

theorem resolve_createParty : (resolve w s l).Gives fun c =>
    ∀ name, c = .createParty name → name = cutPartyName (l.word 0) := by
  unfold resolve
  split <;>
    simp [cutPartyName, measureCondition, available, sentTunneller, creatureStat, computerPlan]

theorem party_eq_ok {name : String} {id : Nat} :
    (party s name).outcome = .ok id ↔ s.findParty? name = some id :=
  Reading.ofOption_eq_ok

theorem findParty?_of_partyBehind {name : String} {id : Nat}
    (found : (partyBehind s name).outcome = .ok id) : s.findParty? name = some id := by
  simp only [partyBehind, outcome_bind_eq_ok] at found
  obtain ⟨id', here, _, _, same⟩ := found
  obtain rfl := Except.ok.inj same
  exact (party_eq_ok s).1 here

/-- A line that names a party comes to a command about the party of that name. -/
theorem resolve_partyIn {name : String} (word : l.partyWord? = some name) :
    (resolve w s l).Gives fun c => c.partyIn s = s.findParty? name := by
  unfold ScriptLine.partyWord? at word
  cases hv : l.verb with
  | addToParty =>
    simp only [hv, Option.some.injEq] at word
    simp [resolve, hv, partyIn, word]
  | addPartyToLevel =>
    simp only [hv, Option.some.injEq] at word
    simp only [resolve, hv, gives_bind, gives_pure, partyIn, Spawn.party?, word]
    intro _ _ _ _ _ _ id here
    exact ((party_eq_ok s).1 here).symm
  | addTunnellerPartyToLevel =>
    simp only [hv, Option.some.injEq] at word
    simp only [resolve, hv, sentTunneller, if_true, gives_bind, gives_pure, partyIn, word]
    intro _ _ _ _ _ _ _ _ behind found
    obtain ⟨id, here, same⟩ := outcome_bind_eq_ok.1 found
    obtain rfl := Except.ok.inj same
    exact (findParty?_of_partyBehind s here).symm
  | _ =>
    rw [hv] at word
    cases word

/-- Where the party of a line is not found, only a member to be added comes of it. -/
theorem resolve_of_party_missing {name : String} (word : l.partyWord? = some name)
    (missing : s.findParty? name = none) :
    (resolve w s l).Gives fun c => ∃ m, c = .addToParty name m := by
  have unknown {id : Nat} : (party s name).outcome ≠ .ok id := by
    rw [ne_eq, party_eq_ok, missing]
    exact nofun
  unfold ScriptLine.partyWord? at word
  cases hv : l.verb with
  | addToParty =>
    simp only [hv, Option.some.injEq] at word
    simp [resolve, hv, word]
  | addPartyToLevel =>
    simp only [hv, Option.some.injEq] at word
    simp [resolve, hv, word, unknown]
  | addTunnellerPartyToLevel =>
    simp only [hv, Option.some.injEq] at word
    simp only [resolve, hv, sentTunneller, if_true, gives_bind, word]
    intro _ _ _ _ _ _ _ _ behind found
    obtain ⟨id, here, _⟩ := outcome_bind_eq_ok.1 found
    exact absurd ((party_eq_ok s).2 (findParty?_of_partyBehind s here)) unknown
  | _ =>
    rw [hv] at word
    cases word

def NotMissing (a : Aside) : Prop := ∀ searched, a ≠ .remark (.fault (.undefinedParty searched))

/-- Where the party of a line is found, what is said of the line is something else. -/
theorem resolve_notMissing {name : String} {id : Nat} (word : l.partyWord? = some name)
    (found : s.findParty? name = some id) : (resolve w s l).Says NotMissing := by
  have place (name : String) : (place w name).Says NotMissing :=
    place_says w (fun _ => nofun) (fun _ => nofun) nofun
  have owner (name : String) : (owner name).Says NotMissing := owner_says nofun nofun
  unfold ScriptLine.partyWord? at word
  cases hv : l.verb with
  | addToParty => simp [resolve, hv, level, within, creature, item, value, NotMissing]
  | addPartyToLevel =>
    simp only [hv, Option.some.injEq] at word
    simp [resolve, hv, atLeast, owner, place, party, word, found, NotMissing]
  | addTunnellerPartyToLevel =>
    simp only [hv, Option.some.injEq] at word
    simp [resolve, hv, sentTunneller, level, within, owner, place, value, partyBehind, party, word, found,
      NotMissing]
  | _ =>
    rw [hv] at word
    cases word

end Command

namespace Game

/-! ## The names in a store -/

theorem Registered.partyNames {c : Command} {g g' : Game} (done : Registered g c g') :
    g'.script.partyNames = g.script.partyNames ∨
      ∃ name, c = .createParty name ∧ g'.script.partyNames = g.script.partyNames ++ [name] := by
  cases done with
  | @partyCreated name _ _ => exact .inr ⟨name, rfl, List.map_append⟩
  | @memberAdded name m id p _ party _ =>
    left
    obtain ⟨bound, rfl⟩ := List.getElem?_eq_some_iff.1 party
    have bound' : id < g.script.partyNames.length := by
      rwa [Script.partyNames, List.length_map]
    show List.map _ (g.script.parties.set id _) = _
    rw [List.map_set, ← List.getElem_map (fun p : Party => p.name) (h := bound')]
    exact List.set_getElem_self bound'
  | _ => exact .inl rfl

theorem Idle.partyNames {g g' : Game} (idle : Idle g g') :
    g'.script.partyNames = g.script.partyNames :=
  congrArg (List.map _) idle.parties

/-- A line adds a name that has been cut, or none. -/
theorem LineEnd.partyNames {pass : Pass} {text : List Char} {g g' : Game} {f : Option Fault}
    (h : LineEnd pass text g g' f) :
    ∃ new, g'.script.partyNames = g.script.partyNames ++ new ∧
      ∀ name ∈ new, name.length < partyNameLength := by
  rcases h.idle_or_registered with idle | ⟨l, c, k, _, _, meaning, heard, registered⟩
  · exact ⟨[], by rw [idle.partyNames, List.append_nil], List.forall_mem_nil _⟩
  · rw [← (Idle.heard heard).partyNames]
    rcases (register_registered registered).partyNames with same | ⟨name, rfl, added⟩
    · exact ⟨[], by rw [same, List.append_nil], List.forall_mem_nil _⟩
    · refine ⟨[name], added, List.forall_mem_singleton.2 ?_⟩
      rw [Command.resolve_createParty _ _ l _ meaning name rfl, length_cutPartyName]
      exact Nat.lt_of_le_of_lt (Nat.min_le_left _ _) (by decide)

def facing (g : Game) (line : Nat × List Char) : Game :=
  { g with progress := g.progress.atLine line.1 }

theorem loadLine_script_facing (pass : Pass) (line : Nat × List Char) (g : Game) :
    (loadLine pass line g).value.script = (scanLine pass line.2 (g.facing line)).value.left.script :=
  loadLine_script pass line g

theorem loadLines_partyNames (pass : Pass) (lines : List (Nat × List Char)) (g : Game) :
    ∃ new, (loadLines pass lines g).value.script.partyNames = g.script.partyNames ++ new ∧
      ∀ name ∈ new, name.length < partyNameLength := by
  refine loadLines_keeps (P := fun h => ∃ new, h.script.partyNames = g.script.partyNames ++ new ∧
    ∀ name ∈ new, name.length < partyNameLength) ?_ lines
    ⟨[], (List.append_nil _).symm, List.forall_mem_nil _⟩
  intro line h before
  obtain ⟨old, grown, short⟩ := before
  obtain ⟨new, added, short'⟩ := (scanLine_ends pass line.2 (h.facing line)).partyNames
  refine ⟨old ++ new, ?_, List.forall_mem_append.2 ⟨short, short'⟩⟩
  rw [← List.append_assoc, ← grown, loadLine_script_facing]
  exact added

/-! ## Lines that name a party -/

section Line

variable {text : List Char} {g g' : Game} {f : Option Fault} {l : ScriptLine}

/-- After a line that has created a party, or has found it created before, the party is found under
    the name that was cut. -/
theorem LineEnd.findParty?_of_created (h : LineEnd .full text g g' none)
    (taken : g.progress.drops = false) (read : g.lineRead .full text = .ok (some l))
    (verb : l.verb = .createParty) : ∃ id, g'.script.findParty? (cutPartyName (l.word 0)) = some id := by
  have meaning : (g.lineMeaning l).outcome = .ok (.createParty (cutPartyName (l.word 0))) := by
    rw [lineMeaning, Command.resolve, verb]
    rfl
  obtain ⟨k, _, ⟨e, same, _⟩ | ⟨_, registered⟩⟩ := h.of_meaning taken read meaning
  · cases same
  · cases register_registered registered with
    | @partyKnown _ id known => exact ⟨id, known⟩
    | partyCreated _ _ =>
      refine Script.exists_findParty? (List.mem_map.2 ⟨⟨cutPartyName (l.word 0), []⟩, ?_, rfl⟩)
      exact List.mem_append_right _ (List.mem_singleton.2 rfl)

/-- A party that is found is not missing when a member is to be added to it. -/
theorem addToParty_of_found {name : String} {id : Nat} (found : g.script.findParty? name = some id)
    (m : Member) (searched : String) :
    (g.addToParty name m).fault ≠ some (.undefinedParty searched) := by
  have bound : id < g.script.parties.length := (List.findIdx?_eq_some_iff_getElem.1 found).1
  unfold addToParty
  rw [found]
  simp only [Script.addMember, List.getElem?_eq_getElem bound]
  split <;> exact nofun

/-- Where the party of a line is found, the line does not lack it, and what the line comes to is
    about it. -/
theorem LineEnd.of_party_found (h : LineEnd .full text g g' f)
    (read : g.lineRead .full text = .ok (some l)) {name : String} (word : l.partyWord? = some name)
    {id : Nat} (found : g.script.findParty? name = some id) :
    (∀ searched, f ≠ some (.undefinedParty searched)) ∧
      ∀ c, (g.lineMeaning l).outcome = .ok c → c.partyIn g.script = some id := by
  refine ⟨fun searched lacks => ?_, fun c meaning => ?_⟩
  · subst lacks
    cases h with
    | unread unreadable _ =>
      rw [read] at unreadable
      cases unreadable
    | senseless same _ _ nonsense =>
      obtain rfl := Option.some.inj (Except.ok.inj (read.symm.trans same))
      exact (Command.resolve_notMissing g.world _ _ word found).1 _ nonsense searched rfl
    | @refused _ _ k c same _ told meaning registered =>
      obtain rfl := Option.some.inj (Except.ok.inj (read.symm.trans same))
      cases register_refused registered with
      | partyUnknown =>
        have parties := (told.heard.trans (hear_heard (g.lineMeaning l).asides k)).parties
        have known : Script.findParty? _ _ = some id :=
          (Command.resolve_partyIn _ _ l word _ meaning).trans found
        rw [Script.findParty?, ← parties] at known
        exact addToParty_of_found known _ searched registered
  · exact (Command.resolve_partyIn _ _ l word c meaning).trans found

/-- Where the party of a line is not found, the line is dropped with a fault. -/
theorem LineEnd.of_party_missing (h : LineEnd .full text g g' f) (taken : g.progress.drops = false)
    (read : g.lineRead .full text = .ok (some l)) {name : String} (word : l.partyWord? = some name)
    (missing : g.script.findParty? name = none) : f ≠ none := by
  rintro rfl
  cases h with
  | skipped same _ =>
    rw [read] at same
    cases same
  | dropped _ drops _ _ =>
    rw [taken] at drops
    cases drops
  | @done _ k _ c same _ told meaning registered =>
    obtain rfl := Option.some.inj (Except.ok.inj (read.symm.trans same))
    obtain ⟨m, rfl⟩ := Command.resolve_of_party_missing _ _ _ word missing c meaning
    cases register_registered registered with
    | memberAdded found _ _ =>
      have parties := (told.heard.trans (hear_heard (g.lineMeaning l).asides k)).parties
      rw [Script.findParty?, parties] at found
      exact nomatch missing.symm.trans found

end Line

/-! ## For the rest of the load -/

/-- **Whether a party is found under the name it was created by.** A line of the full pass that
    creates a party, or reports that there is one already, settles which party that is. On every
    later line its name, in any case, is that of this party if and only if the name was short
    enough not to be cut. If so, the line does not lack the party, and what the line comes to is
    about it. Otherwise, unless the store had a longer name than any line puts there, each line
    that uses the name is dropped with a fault. -/
theorem party_found_iff_uncut {g : Game} {line : Nat × List Char} {l : ScriptLine}
    (taken : g.progress.drops = false)
    (read : (g.facing line).lineRead .full line.2 = .ok (some l)) (verb : l.verb = .createParty)
    (accepted : (scanLine .full line.2 (g.facing line)).value.fault = none) :
    ∃ id, ∀ (between : List (Nat × List Char)) (later : Nat × List Char) (l' : ScriptLine)
        (name : String), let h := (loadLines .full (line :: between) g).value.facing later
      let fault := (scanLine .full later.2 h).value.fault
      h.progress.drops = false → h.lineRead .full later.2 = .ok (some l') →
      l'.partyWord? = some name → sameWord (l.word 0) name = true →
      (h.script.findParty? name = some id ↔ (l.word 0).length < partyNameLength) ∧
      ((l.word 0).length < partyNameLength →
        (∀ searched, fault ≠ some (.undefinedParty searched)) ∧
          ∀ c, (h.lineMeaning l').outcome = .ok c → c.partyIn h.script = some id) ∧
      (partyNameLength ≤ (l.word 0).length →
        (∀ n ∈ g.script.partyNames, n.length < partyNameLength) → fault ≠ none) := by
  have created := scanLine_ends .full line.2 (g.facing line)
  rw [accepted] at created
  obtain ⟨id, first⟩ := created.findParty?_of_created taken read verb
  refine ⟨id, fun between later l' name => ?_⟩
  intro h fault taken' read' word spelled
  have ends : LineEnd .full later.2 h (scanLine .full later.2 h).value.left fault :=
    scanLine_ends .full later.2 h
  obtain ⟨more, grown, _⟩ := loadLines_partyNames .full between (loadLine .full line g).value
  have still : h.script.findParty? (cutPartyName (l.word 0)) = some id := by
    rw [← loadLine_script_facing, Script.findParty?_eq] at first
    rw [Script.findParty?_eq]
    exact List.IsPrefix.findIdx?_eq_some ⟨more, grown.symm⟩ first
  have whole (short : (l.word 0).length < partyNameLength) : h.script.findParty? name = some id := by
    rw [← h.script.findParty?_congr spelled, ← cutPartyName_of_short short]
    exact still
  refine ⟨⟨fun found => ?_, whole⟩, fun short => ends.of_party_found read' word (whole short),
    fun long names => ends.of_party_missing taken' read' word ?_⟩
  · -- the party has the name that was cut, which is as long as the word only if it is the word
    have length := Script.length_of_findParty? still found
    rw [length_cutPartyName, ← length_of_sameWord spelled] at length
    have positive : 0 < partyNameLength := by decide
    omega
  · refine Script.findParty?_eq_none_of_long ?_ (length_of_sameWord spelled ▸ long)
    obtain ⟨new, all, short⟩ := loadLines_partyNames .full (line :: between) g
    intro n here
    rw [show h.script.partyNames = _ from all] at here
    exact (List.mem_append.1 here).elim (names n) (short n)

/-- A name of 100 characters creates a party, and the next line that uses it is dropped. -/
theorem party_found_iff_uncut_of_long :
    let name := List.replicate partyNameLength 'A'
    let create := (1, "CREATE_PARTY(".toList ++ name ++ [')'])
    let join := (2, "ADD_TO_PARTY(".toList ++ name ++ ",WIZARD,1,0,ATTACK_ROOMS,0)".toList)
    let g : Game := default
    (scanLine .full create.2 (g.facing create)).value.fault = none ∧
      (scanLine .full join.2 ((loadLines .full [create] g).value.facing join)).value.fault ≠ none := by
  intro name create join g
  let word := String.ofList name
  let creates : ScriptLine := ⟨⟨"CREATE_PARTY", [.word], .createParty⟩, [word], [0]⟩
  let joins : ScriptLine :=
    ⟨⟨"ADD_TO_PARTY", [.word, .word, .number, .number, .word, .number], .addToParty⟩,
      [word, "WIZARD", "1", "0", "ATTACK_ROOMS", "0"], [0, 0, 1, 0, 0, 0]⟩
  have read : (g.facing create).lineRead .full create.2 = .ok (some creates) :=
    eq_ok_of_toOption (by decide +kernel)
  have read' : ((loadLines .full [create] g).value.facing join).lineRead .full join.2 =
      .ok (some joins) := eq_ok_of_toOption (by decide +kernel)
  have accepted : (scanLine .full create.2 (g.facing create)).value.fault = none := by decide +kernel
  obtain ⟨id, later⟩ := party_found_iff_uncut (g := g) rfl read rfl accepted
  have lost := (later [] join joins word (by decide +kernel) read' rfl (sameWord_refl word)).2.2
  exact ⟨accepted, lost (by decide +kernel) (List.forall_mem_nil _)⟩

end Game

end DungeonScript

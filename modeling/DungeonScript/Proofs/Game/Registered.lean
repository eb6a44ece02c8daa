import DungeonScript.Game.Register
import DungeonScript.Proofs.World.Plans

/-!
Registering, inside out. `Registered g c g'` lists every way a command `c` can be
taken in the game `g`, with the guard that let it through and the game `g'` it leaves;
`register_registered` says that nothing else happens. A proof about what commands do
to the store, to the open blocks or to the world is a case split on this list.
`Refused g c f` lists the reasons `f` there are not to take it. A command that is not
taken hands back a game as well, and that is the game it was given (`register_left`):
whatever can be wrong with a command is found out before anything is changed, or by a
walk that has changed nothing.
-/

namespace DungeonScript

namespace Game

/-- How a command can be registered, and the game it leaves. -/
inductive Registered (g : Game) : Command → Game → Prop where
  | conditionOpened {players : Selector} {test : Test}
      (room : g.script.conditions.length < conditionLimit) :
      Registered g (.condition players test) { g with
        script := { g.script with conditions :=
          g.script.conditions ++ [⟨g.progress.condition?, players, test, .unasked⟩] }
        progress := g.progress.opened (.registered g.script.conditions.length) }
  | blockClosed {b : Block} {rest : List Block} (blocks : g.progress.blocks = b :: rest) :
      Registered g .endif { g with progress := { g.progress with blocks := rest } }
  | effectStored {e : Effect} (defers : g.progress.defers = true)
      (room : g.script.effects.length < effectLimit) :
      Registered g (.effect e) { g with
        script := { g.script with effects := g.script.effects ++ [g.progress.gate e] } }
  | effectDone {e : Effect} (acts : g.progress.defers = false) :
      Registered g (.effect e) { g with world := (e.apply g.script g.world).value }
  | spawnStored {s : Spawn} (defers : g.progress.defers = true)
      (room : g.script.spawns.length < spawnLimit) :
      Registered g (.spawn s) { g with
        script := { g.script with spawns := g.script.spawns ++ [g.progress.gate s] } }
  | spawnDone {s : Spawn} (acts : g.progress.defers = false) :
      Registered g (.spawn s) { g with world := (World.spawn g.script.parties s g.world).value }
  | tunnellerStored {t : Tunneller} (defers : g.progress.defers = true)
      (room : g.script.tunnellers.length < tunnellerLimit) :
      Registered g (.tunneller t) { g with
        script := { g.script with tunnellers := g.script.tunnellers ++ [g.progress.gate t] } }
  | tunnellerDone {t : Tunneller} (acts : g.progress.defers = false) :
      Registered g (.tunneller t) { g with
        world := (World.sendOut g.script.parties t g.world).value }
  | partyKnown {name : String} {id : Nat} (known : g.script.findParty? name = some id) :
      Registered g (.createParty name) (g.report (.partyAgain name)).value
  | partyCreated {name : String} (unknown : g.script.findParty? name = none)
      (room : g.script.parties.length < partyLimit) :
      Registered g (.createParty name) { g with
        script := { g.script with parties := g.script.parties ++ [⟨name, []⟩] } }
  | memberAdded {name : String} {m : Member} {id : Nat} {p : Party}
      (found : g.script.findParty? name = some id) (party : g.script.parties[id]? = some p)
      (room : p.isFull = false) :
      Registered g (.addToParty name m) { g with script := { g.script with
        parties := g.script.parties.set id { p with members := p.members ++ [m] } } }
  | setUp {s : Setup} {w : World} (done : (s.apply g.world).value = .done w) :
      Registered g (.setup s) { g with world := w }
  | winAdded {id : Nat} (condition : g.progress.condition? = some id)
      (room : g.script.wins.length < verdictLimit) :
      Registered g (.verdict .win) { g with script := { g.script with wins := g.script.wins ++ [id] } }
  | lossAdded {id : Nat} (condition : g.progress.condition? = some id)
      (room : g.script.losses.length < verdictLimit) :
      Registered g (.verdict .lose) { g with
        script := { g.script with losses := g.script.losses ++ [id] } }
  | announced : Registered g .nextReusable { g with
      progress := { g.progress with reusableLines := 2 } }
  | versioned {version : Int} : Registered g (.levelVersion version) { g with
      progress := { g.progress with levelVersion := version } }
  | remarked {keyword : String} :
      Registered g (.withoutEffect keyword) (g.report (.withoutEffect keyword)).value
  | commented : Registered g .comment g

theorem withScript_eq_done {g g' : Game} {s : Attempt Script} (h : g.withScript s = .done g') :
    ∃ script, s = .done script ∧ g' = { g with script } :=
  Attempt.map_eq_done.1 h

/-- A store that takes one more entry on some shelf took it because there was room. -/
theorem shelve_map_eq_done {α β : Type} {shelf : Shelf} {xs : List α} {x : α} {put : List α → β}
    {y : β} (h : (shelve shelf xs x).map put = .done y) :
    xs.length < shelf.limit ∧ y = put (xs ++ [x]) := by
  rcases shelve_cases shelf xs x with ⟨room, hs⟩ | hs
  · rw [hs] at h
    exact ⟨room, (Attempt.done_inj h).symm⟩
  · rw [hs] at h
    exact absurd h Attempt.failed_ne_done

section Cases

variable {g g' : Game}

theorem openCondition_registered {players : Selector} {test : Test}
    (h : g.openCondition players test = .done g') : Registered g (.condition players test) g' := by
  unfold openCondition Script.addCondition at h
  rcases shelve_cases .conditions g.script.conditions
    ⟨g.progress.condition?, players, test, .unasked⟩ with ⟨room, hs⟩ | hs
  · rw [hs] at h
    obtain rfl := Attempt.done_inj h
    exact .conditionOpened room
  · rw [hs] at h
    exact absurd h Attempt.failed_ne_done

theorem closeCondition_registered (h : g.closeCondition = .done g') : Registered g .endif g' := by
  unfold closeCondition at h
  obtain ⟨progress, hp, rfl⟩ := Attempt.map_eq_done.1 h
  unfold Progress.closed at hp
  split at hp
  · rename_i b rest hb
    obtain rfl := Attempt.done_inj hp
    exact .blockClosed hb
  · exact absurd hp Attempt.failed_ne_done

/-- A command that stores an entry or acts at once does the one where it has to wait, and the other
    elsewhere. -/
theorem deferred_registered {α : Type} {shelf : Shelf} {xs : List α} {x : α}
    {acted : Logged World} {done : Logged (Attempt Game)} (put : List α → Script)
    (same : done = if g.progress.defers then pure (g.withScript ((shelve shelf xs x).map put))
      else g.withWorld acted)
    (h : done.value = .done g') :
    (g.progress.defers = true ∧ xs.length < shelf.limit ∧
      g' = { g with script := put (xs ++ [x]) }) ∨
    (g.progress.defers = false ∧ g' = { g with world := acted.value }) := by
  subst same
  split at h
  · rename_i defers
    obtain ⟨s, hs, rfl⟩ := withScript_eq_done h
    obtain ⟨room, rfl⟩ := shelve_map_eq_done hs
    exact .inl ⟨defers, room, rfl⟩
  · rename_i acts
    obtain rfl := Attempt.done_inj h
    exact .inr ⟨eq_false_of_ne_true acts, rfl⟩

theorem effect_registered {e : Effect} (h : (g.register (.effect e)).value = .done g') :
    Registered g (.effect e) g' := by
  rcases deferred_registered (fun effects => { g.script with effects }) rfl h with
    ⟨defers, room, rfl⟩ | ⟨acts, rfl⟩
  · exact .effectStored defers room
  · exact .effectDone acts

theorem spawn_registered {s : Spawn} (h : (g.register (.spawn s)).value = .done g') :
    Registered g (.spawn s) g' := by
  rcases deferred_registered (fun spawns => { g.script with spawns }) rfl h with
    ⟨defers, room, rfl⟩ | ⟨acts, rfl⟩
  · exact .spawnStored defers room
  · exact .spawnDone acts

theorem tunneller_registered {t : Tunneller} (h : (g.register (.tunneller t)).value = .done g') :
    Registered g (.tunneller t) g' := by
  rcases deferred_registered (fun tunnellers => { g.script with tunnellers }) rfl h with
    ⟨defers, room, rfl⟩ | ⟨acts, rfl⟩
  · exact .tunnellerStored defers room
  · exact .tunnellerDone acts

theorem createParty_registered {name : String} (h : (g.createParty name).value = .done g') :
    Registered g (.createParty name) g' := by
  unfold createParty at h
  split at h
  · rename_i id hf
    obtain rfl := Attempt.done_inj h
    exact .partyKnown hf
  · rename_i hf
    obtain ⟨s, hs, rfl⟩ := withScript_eq_done h
    obtain ⟨created, hc, rfl⟩ := Attempt.map_eq_done.1 hs
    obtain ⟨room, rfl⟩ := shelve_map_eq_done hc
    exact .partyCreated hf room

theorem addToParty_registered {name : String} {m : Member} (h : g.addToParty name m = .done g') :
    Registered g (.addToParty name m) g' := by
  unfold addToParty at h
  split at h
  · rename_i id hf
    obtain ⟨s, hs, rfl⟩ := withScript_eq_done h
    unfold Script.addMember at hs
    split at hs
    · exact absurd hs Attempt.failed_ne_done
    · rename_i p hp
      split at hs
      · exact absurd hs Attempt.failed_ne_done
      · rename_i room
        obtain rfl := Attempt.done_inj hs
        exact .memberAdded hf hp (eq_false_of_ne_true room)
  · exact absurd h Attempt.failed_ne_done

theorem setUp_registered {s : Setup} (h : (g.setUp s).value = .done g') :
    Registered g (.setup s) g' := by
  have done : (s.apply g.world).value.map (fun world => { g with world }) = .done g' := h
  obtain ⟨w, hw, rfl⟩ := Attempt.map_eq_done.1 done
  exact .setUp hw

theorem addVerdict_registered {v : Verdict} (h : g.addVerdict v = .done g') :
    Registered g (.verdict v) g' := by
  unfold addVerdict at h
  split at h
  · rename_i id hc
    obtain ⟨s, hs, rfl⟩ := withScript_eq_done h
    unfold Script.addVerdict at hs
    cases v with
    | win =>
      obtain ⟨room, rfl⟩ := shelve_map_eq_done hs
      exact .winAdded hc room
    | lose =>
      obtain ⟨room, rfl⟩ := shelve_map_eq_done hs
      exact .lossAdded hc room
  · exact absurd h Attempt.failed_ne_done

end Cases

/-- A command is registered in one of the ways listed. -/
theorem register_registered {c : Command} {g g' : Game} (h : (g.register c).value = .done g') :
    Registered g c g' := by
  cases c with
  | condition players test => exact openCondition_registered h
  | endif => exact closeCondition_registered h
  | effect e => exact effect_registered h
  | spawn s => exact spawn_registered h
  | tunneller t => exact tunneller_registered h
  | createParty name => exact createParty_registered h
  | addToParty party m => exact addToParty_registered h
  | setup s => exact setUp_registered h
  | verdict v => exact addVerdict_registered h
  | nextReusable => obtain rfl := Attempt.done_inj h; exact .announced
  | levelVersion version => obtain rfl := Attempt.done_inj h; exact .versioned
  | withoutEffect keyword => obtain rfl := Attempt.done_inj h; exact .remarked
  | comment => obtain rfl := Attempt.done_inj h; exact .commented

/-! ## Refusals -/

/-- Why a command can be refused. -/
inductive Refused (g : Game) : Command → Fault → Prop where
  | full {c : Command} (shelf : Shelf) (stores : c ≠ .endif) : Refused g c (.full shelf)
  | unexpectedEndif (blocks : g.progress.blocks = []) : Refused g .endif .unexpectedEndif
  | partyUnknown {name : String} {m : Member} (searched : String) :
      Refused g (.addToParty name m) (.undefinedParty searched)
  | partyFull {name : String} {m : Member} (found : String) :
      Refused g (.addToParty name m) (.partyFull found)
  | noPlan {s : Setup} (sort : PlanSort) (name : String) : Refused g (.setup s) (.noPlan sort name)
  | swapFailed {s : Setup} (slot : Newcomer) (kind : Nat) :
      Refused g (.setup s) (.swapFailed slot kind)
  | noCondition {v : Verdict} (outside : g.progress.condition? = none) :
      Refused g (.verdict v) (.noCondition v)

section Refusals

variable {g : Game} {f : Fault}

/-- A stored entry is refused where its shelf is full, and the store keeps what is on it. -/
theorem store_refused {α : Type} {c : Command} {shelf : Shelf} {xs : List α} {x : α}
    (put : List α → Script) (stores : c ≠ .endif) (kept : put xs = g.script)
    (h : (g.withScript ((shelve shelf xs x).map put)).fault = some f) :
    Refused g c f ∧ (g.withScript ((shelve shelf xs x).map put)).left = g := by
  rcases shelve_cases shelf xs x with ⟨room, hs⟩ | hs
  · rw [hs] at h
    cases h
  · rw [hs] at h ⊢
    obtain rfl := Option.some.inj h
    refine ⟨.full shelf stores, ?_⟩
    show { g with script := put xs } = g
    rw [kept]

theorem openCondition_refused {players : Selector} {test : Test}
    (h : (g.openCondition players test).fault = some f) :
    Refused g (.condition players test) f ∧ (g.openCondition players test).left = g := by
  unfold openCondition Script.addCondition at h ⊢
  rcases shelve_cases .conditions g.script.conditions
    ⟨g.progress.condition?, players, test, .unasked⟩ with ⟨room, hs⟩ | hs
  · rw [hs] at h
    cases h
  · rw [hs] at h ⊢
    obtain rfl := Option.some.inj h
    exact ⟨.full .conditions nofun, rfl⟩

theorem closeCondition_refused (h : g.closeCondition.fault = some f) :
    Refused g .endif f ∧ g.closeCondition.left = g := by
  unfold closeCondition Progress.closed at h ⊢
  split at h
  · cases h
  · rename_i hb
    obtain rfl := Option.some.inj h
    exact ⟨.unexpectedEndif hb, rfl⟩

theorem createParty_refused {name : String} (h : (g.createParty name).value.fault = some f) :
    Refused g (.createParty name) f ∧ (g.createParty name).value.left = g := by
  unfold createParty at h ⊢
  split at h
  · cases h
  · exact store_refused (fun parties => { g.script with parties }) nofun rfl h

theorem addToParty_refused {name : String} {m : Member} (h : (g.addToParty name m).fault = some f) :
    Refused g (.addToParty name m) f ∧ (g.addToParty name m).left = g := by
  unfold addToParty Script.addMember at h ⊢
  split at h
  · split at h
    · obtain rfl := Option.some.inj h
      exact ⟨.partyUnknown _, rfl⟩
    · split at h
      · rename_i full
        obtain rfl := Option.some.inj h
        rw [if_pos full]
        exact ⟨.partyFull _, rfl⟩
      · cases h
  · obtain rfl := Option.some.inj h
    exact ⟨.partyUnknown _, rfl⟩

theorem setUp_refused {s : Setup} (h : (g.setUp s).value.fault = some f) :
    Refused g (.setup s) f ∧ (g.setUp s).value.left = g := by
  have failed : (s.apply g.world).value.fault = some f := h
  have kept : (g.setUp s).value.left = g := by
    show { g with world := (s.apply g.world).value.left } = g
    rw [Setup.apply_left failed]
  refine ⟨?_, kept⟩
  cases s with
  | computerPlan sort ps name values =>
    rw [Setup.apply_computerPlan] at failed
    dsimp only at failed
    split at failed
    · obtain rfl := Option.some.inj failed
      exact .noPlan sort name
    · cases failed
  | swapCreature slot kind =>
    simp only [Setup.apply] at failed
    split at failed
    · cases failed
    · obtain rfl := Option.some.inj failed
      exact .swapFailed slot kind
  | startMoney ps amount => cases failed
  | computerPlayer ps model => cases failed
  | music track => cases failed
  | computerGlobals ps values => cases failed

theorem addVerdict_refused {v : Verdict} (h : (g.addVerdict v).fault = some f) :
    Refused g (.verdict v) f ∧ (g.addVerdict v).left = g := by
  unfold addVerdict at h ⊢
  split at h
  · cases v with
    | win => exact store_refused (fun wins => { g.script with wins }) nofun rfl h
    | lose => exact store_refused (fun losses => { g.script with losses }) nofun rfl h
  · rename_i outside
    obtain rfl := Option.some.inj h
    exact ⟨.noCondition outside, rfl⟩

/-- A command that stores an entry or acts at once is refused as a full shelf refuses it. -/
theorem deferred_refused {α : Type} {c : Command} {shelf : Shelf} {xs : List α} {x : α}
    {acted : Logged World} {done : Logged (Attempt Game)} (put : List α → Script)
    (stores : c ≠ .endif) (kept : put xs = g.script)
    (same : done = if g.progress.defers then pure (g.withScript ((shelve shelf xs x).map put))
      else g.withWorld acted)
    (h : done.value.fault = some f) : Refused g c f ∧ done.value.left = g := by
  subst same
  split at h
  · rename_i defers
    rw [if_pos defers]
    exact store_refused put stores kept h
  · cases h

end Refusals

/-- A command is refused for one of the reasons listed, and the game is as it was. -/
theorem register_fault {c : Command} {g : Game} {f : Fault}
    (h : (g.register c).value.fault = some f) : Refused g c f ∧ (g.register c).value.left = g := by
  cases c with
  | condition players test => exact openCondition_refused h
  | endif => exact closeCondition_refused h
  | effect e =>
    exact deferred_refused (fun effects => { g.script with effects }) nofun rfl rfl h
  | spawn s => exact deferred_refused (fun spawns => { g.script with spawns }) nofun rfl rfl h
  | tunneller t =>
    exact deferred_refused (fun tunnellers => { g.script with tunnellers }) nofun rfl rfl h
  | createParty name => exact createParty_refused h
  | addToParty party m => exact addToParty_refused h
  | setup s => exact setUp_refused h
  | verdict v => exact addVerdict_refused h
  | nextReusable => cases h
  | levelVersion version => cases h
  | withoutEffect keyword => cases h
  | comment => cases h

theorem register_refused {c : Command} {g : Game} {f : Fault}
    (h : (g.register c).value.fault = some f) : Refused g c f :=
  (register_fault h).1

/-- A command that is refused has changed nothing. -/
theorem register_left {c : Command} {g : Game} {f : Fault}
    (h : (g.register c).value.fault = some f) : (g.register c).value.left = g :=
  (register_fault h).2

end Game

end DungeonScript

import DungeonScript.Proofs.Game.Entries
import DungeonScript.Proofs.Game.Forgetting
import DungeonScript.Proofs.Game.Runs
import DungeonScript.Proofs.World.Forming

/-!
Parties behind tunnellers. A line that asks for a tunneller with a party is refused unless the
party leaves one of its places to the tunneller (`resolve_leavesRoom`). The party is not looked
at again: the stored tunneller only has its number, and later lines may go on adding members
until the party is full. So a party is as large as it was at the line of its tunneller, and
larger by one member for each later line that adds one (`membersOf_since`), and the tunneller
that fires has all of them behind it.

Which parties there are, with which members, and which tunnellers are stored is settled by a
load; until the next one nothing changes it (`LoadedFrom.troops`).
-/

namespace DungeonScript

theorem Script.length_membersOf (s : Script) (id : Nat) :
    (s.membersOf id).length = ((s.parties[id]?).map (·.members.length)).getD 0 := by
  unfold membersOf
  cases s.parties[id]? <;> rfl

theorem Script.membersOf_congr {s s' : Script} (same : s'.parties = s.parties) (id : Nat) :
    s'.membersOf id = s.membersOf id := by
  unfold membersOf
  rw [same]

/-- The parties of a store, and the tunnellers that wait in it. -/
def Script.troops (s : Script) : List Party × List Tunneller :=
  (s.parties, s.tunnellers.map (·.item))

/-! ## The line of a tunneller -/

namespace Command

open Reading

variable (w : World) (s : Script) (l : ScriptLine)

/-- A tunneller that is asked for has a party behind it that leaves it a place. -/
def LeavesRoom (s : Script) : Command → Prop
  | .tunneller t => ∀ id, t.party = some id → (s.membersOf id).length < memberLimit - 1
  | _ => True

theorem length_of_partyBehind {name : String} {id : Nat}
    (found : (partyBehind s name).outcome = .ok id) :
    (s.membersOf id).length < memberLimit - 1 := by
  simp only [partyBehind, outcome_bind_eq_ok] at found
  obtain ⟨id', _, _, small, same⟩ := found
  obtain rfl := Except.ok.inj same
  rw [s.length_membersOf]
  unfold Reading.require at small
  split at small
  · rename_i h
    exact of_decide_eq_true h
  · cases small

theorem sentTunneller_leavesRoom (withParty : Bool) :
    (sentTunneller w s l withParty).Gives (LeavesRoom s) := by
  cases withParty with
  | false => simp [sentTunneller, LeavesRoom]
  | true =>
    simp only [sentTunneller, if_true, gives_bind, gives_pure, LeavesRoom]
    intro _ _ _ _ _ _ _ _ behind found id same
    subst same
    obtain ⟨id', here, same⟩ := outcome_bind_eq_ok.1 found
    obtain rfl := Option.some.inj (Except.ok.inj same)
    exact length_of_partyBehind s here

theorem resolve_leavesRoom : (resolve w s l).Gives (LeavesRoom s) := by
  cases hv : l.verb with
  | addTunnellerToLevel =>
    simp only [resolve, hv]
    exact sentTunneller_leavesRoom w s l false
  | addTunnellerPartyToLevel =>
    simp only [resolve, hv]
    exact sentTunneller_leavesRoom w s l true
  | _ => simp [resolve, hv, LeavesRoom, measureCondition, available, creatureStat, computerPlan]

end Command

namespace Game

/-! ## What one line does -/

/-- A command changes the members of a party only to add one. -/
theorem Registered.membersOf {c : Command} {g g' : Game} (done : Registered g c g') (id : Nat) :
    g'.script.membersOf id = g.script.membersOf id ∨
      ∃ name m, c = .addToParty name m ∧ g.script.findParty? name = some id ∧
        (g.script.membersOf id).length < memberLimit ∧
        g'.script.membersOf id = g.script.membersOf id ++ [m] := by
  cases done with
  | @partyCreated name _ _ =>
    -- the new party has no members, which is what a number without a party has
    refine .inl ?_
    show (((g.script.parties ++ [⟨name, []⟩])[id]?).map (·.members)).getD [] = g.script.membersOf id
    unfold Script.membersOf
    rcases Nat.lt_trichotomy id g.script.parties.length with old | rfl | beyond
    · rw [List.getElem?_append_left old]
    · rw [List.getElem?_concat_length, List.getElem?_eq_none (Nat.le_refl _)]
      rfl
    · have past : (g.script.parties ++ [(⟨name, []⟩ : Party)]).length ≤ id := by
        rw [List.length_append]
        exact beyond
      rw [List.getElem?_eq_none past, List.getElem?_eq_none (Nat.le_of_lt beyond)]
  | @memberAdded name m id' p found party room =>
    by_cases same : id' = id
    · subst same
      have old : g.script.membersOf id' = p.members := by
        unfold Script.membersOf
        rw [party]
        rfl
      have bound : id' < g.script.parties.length := (List.getElem?_eq_some_iff.1 party).1
      refine .inr ⟨name, m, rfl, found, ?_, ?_⟩
      · rw [old]
        simpa [Party.isFull] using room
      · show (((g.script.parties.set id' _)[id']?).map (·.members)).getD [] = _
        rw [List.getElem?_set_self bound, old]
        rfl
    · refine .inl ?_
      show (((g.script.parties.set id' _)[id]?).map (·.members)).getD [] = _
      rw [List.getElem?_set_ne same]
      rfl
  | _ => exact .inl rfl

theorem Idle.parties {g g' : Game} (idle : Idle g g') : g'.script.parties = g.script.parties := by
  obtain ⟨_, same⟩ := idle.script
  rw [same]

theorem Heard.tunnellers {g h : Game} (heard : Heard g h) :
    h.script.tunnellers = g.script.tunnellers := by
  obtain ⟨_, _, _, rfl⟩ := heard
  rfl

theorem Idle.tunnellers {g g' : Game} (idle : Idle g g') :
    g'.script.tunnellers = g.script.tunnellers := by
  obtain ⟨_, same⟩ := idle.script
  rw [same]

theorem LineEnd.membersOf {text : List Char} {g g' : Game} {f : Option Fault}
    (h : LineEnd .full text g g' f) (id : Nat) :
    g'.script.membersOf id = g.script.membersOf id ∨
      ∃ l name m, g.ComesTo text l (.addToParty name m) ∧ g.script.findParty? name = some id ∧
        (g.script.membersOf id).length < memberLimit ∧
        g'.script.membersOf id = g.script.membersOf id ++ [m] := by
  rcases h.idle_or_registered with idle | ⟨l, c, k, read, _, meaning, heard, registered⟩
  · exact .inl (Script.membersOf_congr idle.parties id)
  · have same := Script.membersOf_congr heard.parties id
    have sameName (name : String) : k.script.findParty? name = g.script.findParty? name := by
      unfold Script.findParty?
      rw [heard.parties]
    rcases (register_registered registered).membersOf id with kept | ⟨name, m, rfl, found, room, added⟩
    · exact .inl (kept.trans same)
    · rw [sameName] at found
      rw [same] at room added
      exact .inr ⟨l, name, m, ⟨read, meaning⟩, found, room, added⟩

/-- A line of the full pass stores the tunneller it comes to, if it stores one. -/
theorem LineEnd.tunnellers_grow {text : List Char} {g g' : Game} {f : Option Fault}
    (h : LineEnd .full text g g' f) :
    ∃ new, g'.script.tunnellers = g.script.tunnellers ++ new ∧
      ∀ e ∈ new, ∃ l, g.ComesTo text l (.tunneller e.item) := by
  rcases h.idle_or_registered with idle | ⟨l, c, k, read, _, meaning, heard, registered⟩
  · exact ⟨[], by rw [idle.tunnellers, List.append_nil], List.forall_mem_nil _⟩
  · rw [← heard.tunnellers]
    cases register_registered registered with
    | @tunnellerStored t _ _ =>
      exact ⟨[k.progress.gate t], rfl, List.forall_mem_singleton.2 ⟨l, read, meaning⟩⟩
    | _ => exact ⟨[], (List.append_nil _).symm, List.forall_mem_nil _⟩

theorem ComesTo.unique {text : List Char} {g : Game} {l l' : ScriptLine} {c c' : Command}
    (comes : g.ComesTo text l c) (comes' : g.ComesTo text l' c') : c = c' := by
  obtain rfl := Option.some.inj (Except.ok.inj (comes.1.symm.trans comes'.1))
  exact Except.ok.inj (comes.2.symm.trans comes'.2)

/-- The line of a tunneller forms no group but that of the tunneller. -/
theorem LineEnd.forms_of_tunneller {text : List Char} {g g' : Game} {f : Option Fault}
    (h : LineEnd .full text g g' f) {l : ScriptLine} {t : Tunneller}
    (comes : g.ComesTo text l (.tunneller t)) :
    World.Forms (·.Gathers (World.followers g.script.parties t + 1)) g.world g'.world := by
  rcases h.idle_or_registered with idle | ⟨l', c, k, read, _, meaning, heard, registered⟩
  · exact World.forms_of_same (congrArg World.groups idle.world)
  · obtain rfl := comes.unique ⟨read, meaning⟩
    rw [← heard.world, ← heard.parties]
    cases register_registered registered with
    | tunnellerStored _ _ => exact World.forms_of_same rfl
    | tunnellerDone _ => exact (World.sendOut_forms _ t k.world).mono fun _ formed => formed.2

/-! ## From line to line -/

/-- Line `n` of the full pass adds a member to party number `id`. -/
structure Joins (text : String) (g : Game) (id n : Nat) (m : Member) : Prop where
  line : ∃ line l name, (scriptLines text)[n]? = some line ∧
    (g.onLine text n line).ComesTo line.2 l (.addToParty name m) ∧
    (g.atPoint text n).script.findParty? name = some id
  room : ((g.atPoint text n).script.membersOf id).length < memberLimit
  added : (g.atPoint text (n + 1)).script.membersOf id =
    (g.atPoint text n).script.membersOf id ++ [m]

/-- Members with the lines that add them to a party, in order, none before line `first`. -/
structure Recruits (text : String) (g : Game) (id first : Nat) (recruits : List (Nat × Member)) :
    Prop where
  joins : ∀ r ∈ recruits, g.Joins text id r.1 r.2
  ordered : recruits.Pairwise (·.1 < ·.1)
  notBefore : ∀ r ∈ recruits, first ≤ r.1

/-- Line `n` of the full pass stores the tunneller, and puts it on its shelf as number `k`. -/
structure StoresTunneller (text : String) (g : Game) (n k : Nat) (t : Tunneller) : Prop where
  line : ∃ line l, (scriptLines text)[n]? = some line ∧
    (g.onLine text n line).ComesTo line.2 l (.tunneller t)
  entry : Puts (·.tunnellers) text g n k

section Points

variable (text : String) (g : Game)

/-- From one point to the next, a party stays as it is or gets one member. -/
theorem membersOf_succ (id n : Nat) :
    (g.atPoint text (n + 1)).script.membersOf id = (g.atPoint text n).script.membersOf id ∨
      ∃ m, g.Joins text id n m := by
  rcases atPoint_succ text n g with ⟨line, here, next⟩ | ⟨_, next⟩
  · have script : (g.atPoint text (n + 1)).script =
        (scanLine .full line.2 (g.onLine text n line)).value.left.script := by
      rw [next, loadLine_script]
      rfl
    rcases (scanLine_ends .full line.2 (g.onLine text n line)).membersOf id with
      kept | ⟨l, name, m, comes, found, room, added⟩
    · rw [script]
      exact .inl kept
    · rw [← script] at added
      exact .inr ⟨m, ⟨line, l, name, here, comes, found⟩, room, added⟩
  · rw [next]
    exact .inl rfl

/-- No party ever has more members than fit. -/
theorem length_membersOf_atPoint (id n : Nat) :
    ((g.atPoint text n).script.membersOf id).length ≤ memberLimit := by
  induction n with
  | zero => exact Nat.zero_le _
  | succ n ih =>
    rcases membersOf_succ text g id n with kept | ⟨m, joins⟩
    · rw [kept]
      exact ih
    · rw [joins.added, List.length_append]
      exact joins.room

/-- What a party has more at a later point are the members that the lines between have added. -/
theorem membersOf_since (id first count : Nat) : ∃ recruits,
    (g.atPoint text (first + count)).script.membersOf id =
      (g.atPoint text first).script.membersOf id ++ recruits.map (·.2) ∧
    g.Recruits text id first recruits ∧ ∀ r ∈ recruits, r.1 < first + count := by
  -- a line more adds a recruit at the end or none; that all so far came by earlier lines keeps
  -- their lines in order
  induction count with
  | zero =>
    exact ⟨[], (List.append_nil _).symm, ⟨List.forall_mem_nil _, .nil, List.forall_mem_nil _⟩,
      List.forall_mem_nil _⟩
  | succ count ih =>
    obtain ⟨recruits, grown, added, before⟩ := ih
    have before' : ∀ r ∈ recruits, r.1 < first + (count + 1) :=
      fun r here => Nat.lt_succ_of_lt (before r here)
    rcases membersOf_succ text g id (first + count) with kept | ⟨m, joins⟩
    · exact ⟨recruits, kept.trans grown, added, before'⟩
    · refine ⟨recruits ++ [(first + count, m)], ?_, ⟨?_, ?_, ?_⟩, ?_⟩
      · rw [List.map_append, ← List.append_assoc, ← grown]
        exact joins.added
      · exact forall_mem_concat added.joins joins
      · refine List.pairwise_append.2 ⟨added.ordered, List.pairwise_singleton _ _, ?_⟩
        intro r here last same
        obtain rfl := List.mem_singleton.1 same
        exact before r here
      · exact forall_mem_concat added.notBefore (Nat.le_add_right _ _)
      · exact forall_mem_concat before' (Nat.lt_succ_self _)

theorem storesTunneller_of_stored {n k : Nat} {e : Gated Tunneller}
    (stored : (g.atPoint text n).script.tunnellers[k]? = some e) :
    ∃ m < n, g.StoresTunneller text m k e.item := by
  have grows : ∀ n, ∃ new, (g.atPoint text (n + 1)).script.tunnellers =
      (g.atPoint text n).script.tunnellers ++ new ∧ ∀ e ∈ new, ∃ line l,
        (scriptLines text)[n]? = some line ∧
        (g.onLine text n line).ComesTo line.2 l (.tunneller e.item) := by
    intro n
    rcases atPoint_succ text n g with ⟨line, here, next⟩ | ⟨_, next⟩
    · obtain ⟨new, added, asked⟩ :=
        (scanLine_ends .full line.2 (g.onLine text n line)).tunnellers_grow
      refine ⟨new, by rw [next, loadLine_script]; exact added, fun e here' => ?_⟩
      obtain ⟨l, comes⟩ := asked e here'
      exact ⟨line, l, here, comes⟩
    · exact ⟨[], by rw [next, List.append_nil], List.forall_mem_nil _⟩
  obtain ⟨m, before, notBefore, notAfter, line⟩ :=
    @getElem?_of_growing _ (fun n => (g.atPoint text n).script.tunnellers) _ rfl grows _ _ _ stored
  exact ⟨m, before, line, notBefore, notAfter⟩

/-- At the line of a tunneller its party leaves it a place, and the line adds no member. -/
theorem membersOf_of_comesTo {n : Nat} {line : Nat × List Char} {l : ScriptLine} {t : Tunneller}
    (here : (scriptLines text)[n]? = some line)
    (comes : (g.onLine text n line).ComesTo line.2 l (.tunneller t)) {id : Nat}
    (behind : t.party = some id) :
    ((g.atPoint text n).script.membersOf id).length < memberLimit - 1 ∧
      (g.atPoint text (n + 1)).script.membersOf id = (g.atPoint text n).script.membersOf id := by
  refine ⟨Command.resolve_leavesRoom _ _ l _ comes.2 id behind, ?_⟩
  rcases membersOf_succ text g id n with kept | ⟨m, joins⟩
  · exact kept
  · obtain ⟨line', _, name, here', comes', _⟩ := joins.line
    obtain rfl := Option.some.inj (here.symm.trans here')
    cases comes.unique comes'

/-- The line of a tunneller that has a party forms no group but theirs. -/
theorem forms_of_comesTo {n : Nat} {line : Nat × List Char} {l : ScriptLine} {t : Tunneller}
    (here : (scriptLines text)[n]? = some line)
    (comes : (g.onLine text n line).ComesTo line.2 l (.tunneller t)) {id : Nat}
    (behind : t.party = some id) :
    World.Forms (·.Gathers (((g.atPoint text n).script.membersOf id).length + 1))
      (g.atPoint text n).world (g.atPoint text (n + 1)).world := by
  rcases atPoint_succ text n g with ⟨line', here', next⟩ | ⟨ended, _⟩
  · obtain rfl := Option.some.inj (here.symm.trans here')
    have forms := (scanLine_ends .full line.2 (g.onLine text n line)).forms_of_tunneller comes
    rw [next, (loadLine_heard .full line (g.atPoint text n)).world]
    rw [Script.followers_eq behind] at forms
    exact forms
  · rw [List.getElem?_eq_none ended] at here
    cases here

end Points

/-! ## Since the last load -/

/-- The game has come about by loading the text in the game `g₀`, and no text has been loaded
    since. -/
inductive LoadedFrom (text : String) (g₀ : Game) : Game → Prop where
  | loaded : LoadedFrom text g₀ (g₀.load text).value
  | visited {g : Game} (w : World) (since : LoadedFrom text g₀ g) :
      LoadedFrom text g₀ { g with world := w }
  | preloaded {g : Game} (next : String) (since : LoadedFrom text g₀ g) :
      LoadedFrom text g₀ (g.preload next).value
  | ticked {g : Game} (o : Options) (since : LoadedFrom text g₀ g) :
      LoadedFrom text g₀ (g.tick o).value

theorem Idle.troops {g g' : Game} (idle : Idle g g') : g'.script.troops = g.script.troops := by
  unfold Script.troops
  rw [idle.parties, idle.tunnellers]

/-- No line of the preload pass has to do with parties and tunnellers. -/
theorem LineEnd.troops_of_preload {text : List Char} {g g' : Game} {f : Option Fault}
    (h : LineEnd .preload text g g' f) : g'.script.troops = g.script.troops := by
  rcases h.idle_or_registered with idle | ⟨l, c, k, read, _, meaning, heard, registered⟩
  · exact idle.troops
  · rw [← (Idle.heard heard).troops]
    have preloaded : l.verb.isPreloaded = true := (ScriptLine.leading?_of_read read).2.2
    rcases resolve_preloaded g.script g.world l preloaded c meaning with ⟨_, _, rfl⟩ | ⟨_, rfl⟩
    · cases register_registered registered with
      | setUp _ => rfl
    · cases register_registered registered with
      | versioned => rfl

theorem preload_troops (text : String) (g : Game) :
    (g.preload text).value.script.troops = g.script.troops := by
  refine loadLines_keeps (P := fun h => h.script.troops = g.script.troops) ?_ (scriptLines text) rfl
  intro line h same
  rw [loadLine_script]
  exact (scanLine_ends .preload line.2 _).troops_of_preload.trans same

theorem tick_troops (o : Options) (g : Game) : (g.tick o).value.script.troops = g.script.troops := by
  rw [tick_script]
  split
  · rfl
  · refine Prod.ext rfl ?_
    let conditions := swept g.world g.script.conditions
    show (g.script.tunnellers.map (·.afterTurn conditions)).map (·.item) =
      g.script.tunnellers.map (·.item)
    rw [List.map_map]
    exact List.map_congr_left fun e _ => e.afterTurn_item conditions

theorem LoadedFrom.troops {text : String} {g₀ g : Game} (since : LoadedFrom text g₀ g) :
    g.script.troops = (g₀.load text).value.script.troops := by
  induction since with
  | loaded => rfl
  | visited w _ ih => exact ih
  | @preloaded g next _ ih => exact (preload_troops next g).trans ih
  | @ticked g o _ ih => exact (tick_troops o g).trans ih

/-- What is in a reachable game was loaded, unless there is nothing yet. -/
theorem Reachable.loadedFrom {g : Game} (reachable : g.Reachable) :
    g.script.troops = ([], []) ∨ ∃ text g₀, LoadedFrom text g₀ g := by
  induction reachable with
  | fresh o w => exact .inl rfl
  | visited w _ ih => exact ih.imp id fun ⟨text, g₀, since⟩ => ⟨text, g₀, .visited w since⟩
  | @preloaded g next _ ih =>
    exact ih.imp (preload_troops next g).trans fun ⟨text, g₀, since⟩ =>
      ⟨text, g₀, .preloaded next since⟩
  | @loaded g text _ _ => exact .inr ⟨text, g, .loaded⟩
  | @ticked g o _ ih =>
    exact ih.imp (tick_troops o g).trans fun ⟨text, g₀, since⟩ => ⟨text, g₀, .ticked o since⟩

theorem Reachable.length_membersOf_le {g : Game} (reachable : g.Reachable) (id : Nat) :
    (g.script.membersOf id).length ≤ memberLimit := by
  rcases reachable.loadedFrom with nothing | ⟨text, g₀, since⟩
  · have none : g.script.parties = [] := congrArg Prod.fst nothing
    unfold Script.membersOf
    rw [none]
    exact Nat.zero_le _
  · have same : g.script.parties = (g₀.load text).value.script.parties :=
      congrArg Prod.fst since.troops
    rw [Script.membersOf_congr same, load_script_atPoint]
    exact length_membersOf_atPoint text g₀ id _

/-- A tunneller that waits with a party, and what its party has come to. -/
theorem LoadedFrom.grown {text : String} {g₀ g : Game} (since : LoadedFrom text g₀ g) {k id : Nat}
    {e : Gated Tunneller} (stored : g.script.tunnellers[k]? = some e)
    (behind : e.item.party = some id) : ∃ n recruits, g₀.StoresTunneller text n k e.item ∧
      ((g₀.atPoint text n).script.membersOf id).length < memberLimit - 1 ∧
      g.script.membersOf id =
        (g₀.atPoint text n).script.membersOf id ++ recruits.map (·.2) ∧
      g₀.Recruits text id (n + 1) recruits := by
  have parties : g.script.parties = (g₀.load text).value.script.parties :=
    congrArg Prod.fst since.troops
  have items : g.script.tunnellers.map (·.item) =
      (g₀.load text).value.script.tunnellers.map (·.item) := congrArg Prod.snd since.troops
  -- the entry may have fired since the load, but it is for the same tunneller
  obtain ⟨e', stored', same⟩ : ∃ e', (g₀.load text).value.script.tunnellers[k]? = some e' ∧
      e'.item = e.item := by
    have here : ((g₀.load text).value.script.tunnellers.map (·.item))[k]? = some e.item := by
      rw [← items, List.getElem?_map, stored]
      rfl
    rw [List.getElem?_map] at here
    exact Option.map_eq_some_iff.1 here
  rw [load_script_atPoint] at stored'
  obtain ⟨n, before, stores⟩ := storesTunneller_of_stored text g₀ stored'
  rw [same] at stores
  obtain ⟨line, l, here, comes⟩ := stores.line
  obtain ⟨small, kept⟩ := membersOf_of_comesTo text g₀ here comes behind
  obtain ⟨recruits, grown, added, _⟩ :=
    membersOf_since text g₀ id (n + 1) ((scriptLines text).length - (n + 1))
  refine ⟨n, recruits, stores, small, ?_, added⟩
  have whole : n + 1 + ((scriptLines text).length - (n + 1)) = (scriptLines text).length := by
    omega
  rw [whole, kept] at grown
  rw [Script.membersOf_congr parties, load_script_atPoint]
  exact grown

theorem tick_forms (o : Options) (g : Game) :
    World.Forms (g.script.FormedBy (swept g.world g.script.conditions)) g.world
      (g.tick o).value.world := by
  cases ended : g.isOver o with
  | true =>
    rw [tick_of_over ended]
    exact World.forms_of_same rfl
  | false =>
    rw [tick_of_processed ended]
    exact g.script.turn_forms g.world

/-- **The party behind a tunneller can fill up after its line.** In every reachable game no party
    has more than `memberLimit` members. That a party leaves one place to the tunneller before it
    is made sure of when the line of the tunneller is read, and not again: what a stored tunneller
    has behind it are the members its party had at that line, fewer than `memberLimit - 1`, and
    after them one for each later line of the text that adds a member. The group a tunneller forms
    has one creature more than its party has when it is sent out, if there are numbers for all of
    them. On the line itself these are no more than `memberLimit - 1`; on a tick the party is as
    later lines have left it, and if they have filled it the group has `memberLimit + 1` creatures.
    Apart from these groups a tick forms those of spawned parties alone, and it leaves the groups
    there are as they were. -/
theorem tunneller_party_fills_up {g : Game} (reachable : g.Reachable) :
    (∀ id, (g.script.membersOf id).length ≤ memberLimit) ∧
    (∀ k e id, g.script.tunnellers[k]? = some e → e.item.party = some id →
      ∃ text g₀ n recruits, LoadedFrom text g₀ g ∧ g₀.StoresTunneller text n k e.item ∧
        ((g₀.atPoint text n).script.membersOf id).length < memberLimit - 1 ∧
        g.script.membersOf id = (g₀.atPoint text n).script.membersOf id ++ recruits.map (·.2) ∧
        g₀.Recruits text id (n + 1) recruits) ∧
    (∀ text n line l t id, (scriptLines text)[n]? = some line →
      (g.onLine text n line).ComesTo line.2 l (.tunneller t) → t.party = some id →
      ((g.atPoint text n).script.membersOf id).length < memberLimit - 1 ∧
        World.Forms (·.Gathers (((g.atPoint text n).script.membersOf id).length + 1))
          (g.atPoint text n).world (g.atPoint text (n + 1)).world) ∧
    ∀ o, World.Forms (g.script.FormedBy (swept g.world g.script.conditions)) g.world
      (g.tick o).value.world := by
  refine ⟨reachable.length_membersOf_le, fun k e id stored behind => ?_,
    fun text n line l t id here comes behind => ?_, fun o => tick_forms o g⟩
  · rcases reachable.loadedFrom with nothing | ⟨text, g₀, since⟩
    · have none : g.script.tunnellers = [] := List.map_eq_nil_iff.1 (congrArg Prod.snd nothing)
      rw [none] at stored
      cases stored
    · obtain ⟨n, recruits, stores, small, grown, added⟩ := since.grown stored behind
      exact ⟨text, g₀, n, recruits, since, stores, small, grown, added⟩
  · exact ⟨(membersOf_of_comesTo text g here comes behind).1,
      forms_of_comesTo text g here comes behind⟩

/-- Eight members are added after the line of the tunneller, and on a tick nine creatures form
    one group. At least two of the eight have come by lines after it. -/
theorem tunneller_party_fills_up_to_nine :
    let lines := ["CREATE_PARTY(A)", "IF(PLAYER0,MONEY >= 0)",
      "ADD_TUNNELLER_PARTY_TO_LEVEL(PLAYER0,A,PLAYER0,DUNGEON,0,1,0)", "ENDIF"] ++
      List.replicate 8 "ADD_TO_PARTY(A,WIZARD,1,0,ATTACK_ROOMS,0)"
    let g := (load (String.ofList (lines.flatMap fun line => line.toList ++ ['\n'])) default).value
    (g.script.membersOf 0).length = memberLimit ∧
      (g.tick .usual).value.world.groups.map (·.members.length) = #[memberLimit + 1] ∧
      ∃ text g₀ n recruits, LoadedFrom text g₀ g ∧ g₀.Recruits text 0 (n + 1) recruits ∧
        2 ≤ recruits.length := by
  intro lines g
  have whole : scriptLines (String.ofList (lines.flatMap fun line => line.toList ++ ['\n'])) =
      (List.range' 1 12).zip (lines.map String.toList) := by
    rw [scriptLines, String.toList_ofList]
    decide +kernel
  obtain ⟨full, nine, party⟩ : (g.script.membersOf 0).length = memberLimit ∧
      (g.tick .usual).value.world.groups.map (·.members.length) = #[memberLimit + 1] ∧
      (g.script.tunnellers[0]?).bind (·.item.party) = some 0 := by
    simp only [g, load, runPass, whole]
    decide +kernel
  have reachable : g.Reachable := .loaded _ (.fresh .usual .fresh)
  clear_value g
  obtain ⟨e, stored, behind⟩ := Option.bind_eq_some_iff.1 party
  obtain ⟨text, g₀, n, recruits, since, _, small, grown, added⟩ :=
    (tunneller_party_fills_up reachable).2.1 0 e 0 stored behind
  refine ⟨full, nine, text, g₀, n, recruits, since, added, ?_⟩
  have length := congrArg List.length grown
  rw [full, List.length_append, List.length_map] at length
  have limit : memberLimit = 8 := rfl
  omega

end Game

end DungeonScript

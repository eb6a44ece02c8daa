import DungeonScript.Proofs.Command

/-!
What a line can ask for. The numbers of a command were checked when its line was made sense
of, and what carries the command out later, perhaps many turns later, does not check them
again: players and slots are used as they are, levels and counts too, and a point or a gate is
taken to exist. So all that is known of them is known from here.

`Command.InBounds` lists what is checked, one constructor after the other. Which place of the
map a command names is a matter of the line alone: a gate or a point is the one whose number
the line has, neither cut nor wrapped. `Command.OfLine` has all this together, and a line comes
to no other commands (`resolve_ofLine`).
-/

namespace DungeonScript

/-! ## Bounds -/

def Selector.InBounds : Selector → Prop
  | one slot => slot < playerCount
  | all => True

/-- A point, a gate or a heart that there is, or none of these. -/
def Place.ExistsIn (w : World) : Place → Prop
  | actionPoint number => w.hasPoint number = true
  | heroGate number => w.hasGate number = true
  | heart slot => slot < playerCount
  | nowhere | creatureKind _ | roomKind _ => True

/-- A point is written as its number, and a gate as its number below zero. -/
def Place.WrittenAs (word : String) : Place → Prop
  | actionPoint number => Numeral.leadingDecimal word = number
  | heroGate number => Numeral.leadingDecimal word = -number
  | nowhere | heart _ | creatureKind _ | roomKind _ => True

/-- A slot of a table of timers or flags there is, for a measure that reads one. -/
def Measure.IndexInBounds (index : Nat) : Measure → Prop
  | timer => index < timerCount
  | flag => index < flagCount
  | _ => True

/-- A test of a slot or an action point that there is. -/
def Test.InBounds (w : World) : Test → Prop
  | measure what index _ _ => what.IndexInBounds index
  | entered number => w.hasPoint number = true

/-- A level there is, counted from 0. -/
def LevelInBounds (level : Nat) : Prop := (level : Int) < topLevel

/-- At least one copy, and of creatures no more than one spawn may hold. -/
def Brood.InBounds : Brood → Prop
  | party _ copies => 1 ≤ copies
  | creatures _ level _ copies => LevelInBounds level ∧ 1 ≤ copies ∧ copies < creatureLimit

/-- A spawn at a place that there is. The owner is a player by its type. -/
def Spawn.InBounds (w : World) (s : Spawn) : Prop := s.place.ExistsIn w ∧ s.brood.InBounds

def Tunneller.InBounds (w : World) (t : Tunneller) : Prop :=
  t.place.ExistsIn w ∧ LevelInBounds t.level

def MessageInBounds (message : Int) : Prop := 0 ≤ message ∧ message < stringCount

/-- An effect on players, slots and places that there are, by amounts that were checked. -/
def Effect.InBounds (w : World) : Effect → Prop
  | setHate players _ _ | available players _ _ _ _ | research players _ _ _
  | researchOrder players _ _ _ | maxCreatures players _ | setMaxLevel players _ _
  | playMessage players _ _ | addGold players _ | setTendency players _ _
  | revealRect players _ _ _ _ => players.InBounds
  | setGenerateSpeed turns => 0 < turns
  | setTimer players timer => players.InBounds ∧ timer < timerCount
  | setFlag players flag _ => players.InBounds ∧ flag < flagCount
  | displayObjective message place _ | displayInformation message place _ =>
    MessageInBounds message ∧ place.ExistsIn w
  | quickObjective index place _ | quickInformation index place _ =>
    index < quickTextCount ∧ place.ExistsIn w
  | addToPool _ amount => 0 ≤ amount ∧ amount < creatureLimit
  | resetActionPoint number => w.hasPoint number = true
  | ally a b => a < playerCount ∧ b < playerCount
  | bonusTime turns => 0 ≤ turns
  | revealPlace players place _ => players.InBounds ∧ place.ExistsIn w
  | kill players _ _ count => players.InBounds ∧ 0 < count
  | flashButton _ _ | setStat _ _ _ | deadReturnToPool _ => True

def Setup.InBounds : Setup → Prop
  | startMoney players _ | computerPlayer players _ | computerGlobals players _
  | computerPlan _ players _ _ => players.InBounds
  | music _ | swapCreature _ _ => True

/-- Which word of its line names the place of a command, where one does. -/
def Verb.placeArgument : Verb → Nat
  | .addTunnellerToLevel | .displayObjective | .displayObjectiveWithPos | .displayInformation
  | .displayInformationWithPos | .revealMapLocation => 1
  | _ => 2

/-- The verbs about an action point of which the line has the number. -/
def Verb.namesPoint : Verb → Bool
  | .ifActionPoint | .resetActionPoint => true
  | _ => false

namespace Command

/-- A command whose players, slots, levels and places there are, by amounts that were checked. -/
def InBounds (w : World) : Command → Prop
  | condition players test => players.InBounds ∧ test.InBounds w
  | effect e => e.InBounds w
  | spawn s => s.InBounds w
  | tunneller t => t.InBounds w
  | addToParty _ m => LevelInBounds m.level
  | setup s => s.InBounds
  | endif | createParty _ | verdict _ | nextReusable | levelVersion _ | withoutEffect _
  | comment => True

/-- The place a command takes effect at or points to, if it has one. -/
def place? : Command → Option Place
  | spawn s => some s.place
  | tunneller t => some t.place
  | effect (.displayObjective _ place _) | effect (.displayInformation _ place _)
  | effect (.quickObjective _ place _) | effect (.quickInformation _ place _)
  | effect (.revealPlace _ place _) => some place
  | _ => none

/-- The action point a command asks about or resets, if it does. -/
def point? : Command → Option Nat
  | condition _ (.entered number) | effect (.resetActionPoint number) => some number
  | _ => none

/-- A command as a line may come to it: in bounds, at the place that the word for it names, and
    about the action point of the number the line has. -/
structure OfLine (w : World) (l : ScriptLine) (c : Command) : Prop where
  inBounds : c.InBounds w
  place : ∀ place, c.place? = some place → place.WrittenAs (l.word l.verb.placeArgument)
  point : ∀ number, c.point? = some number → l.verb.namesPoint = true ∧ (number : Int) = l.number 0

/-- A command without a place and without a point has only its bounds to keep. -/
theorem InBounds.ofLine {w : World} {l : ScriptLine} {c : Command} (inBounds : c.InBounds w)
    (noPlace : c.place? = none) (noPoint : c.point? = none) : c.OfLine w l where
  inBounds := inBounds
  place := by
    rw [noPlace]
    exact nofun
  point := by
    rw [noPoint]
    exact nofun

theorem InBounds.ofLine_at {w : World} {l : ScriptLine} {c : Command} {place : Place}
    (inBounds : c.InBounds w) (atPlace : c.place? = some place)
    (written : place.WrittenAs (l.word l.verb.placeArgument)) (noPoint : c.point? = none) :
    c.OfLine w l where
  inBounds := inBounds
  place := by
    rw [atPlace]
    intro _ same
    obtain rfl := Option.some.inj same
    exact written
  point := by
    rw [noPoint]
    exact nofun

open Reading

variable (w : World) (s : Script) (l : ScriptLine)

/-! ## Names and numbers -/

theorem inBounds_of_names : ∀ e ∈ Selector.names, e.2.InBounds := by
  unfold Selector.names
  simp [Selector.InBounds, heroes, playerCount]

theorem inBounds_ofWord? {word : String} {players : Selector}
    (named : Selector.ofWord? word = some players) : players.InBounds := by
  obtain ⟨e, found, rfl⟩ := Option.map_eq_some_iff.1 named
  exact inBounds_of_names e (List.mem_of_find?_eq_some found)

theorem inBounds_ofNumber? {id : Int} {players : Selector}
    (named : Selector.ofNumber? id = some players) : players.InBounds := by
  unfold Selector.ofNumber? at named
  split at named
  · obtain rfl := Option.some.inj named
    trivial
  · split at named
    · obtain rfl := Option.some.inj named
      show id.toNat < playerCount
      omega
    · cases named

theorem selector_inBounds (name : String) : (selector name).Gives Selector.InBounds :=
  gives_ofOption.2 fun _ => inBounds_ofWord?

theorem within_gives (what : Quantity) (lo hi v : Int) :
    (within what lo hi v).Gives fun _ => lo ≤ v ∧ v ≤ hi := by
  refine gives_require.2 fun checked => ?_
  simpa using checked

theorem atLeast_gives (what : Quantity) (lo v : Int) :
    (atLeast what lo v).Gives fun _ => lo ≤ v := by
  refine gives_require.2 fun checked => ?_
  simpa using checked

theorem level_inBounds (v : Int) : (level v).Gives LevelInBounds := by
  refine (within_gives .creatureLevel 1 topLevel v).bind fun _ checked => (gives_pure _).2 ?_
  unfold LevelInBounds topLevel at *
  omega

theorem message_inBounds (v : Int) : (message v).Gives MessageInBounds := by
  refine (within_gives .textNumber 0 (stringCount - 1) v).bind fun _ checked =>
    (gives_pure _).2 ?_
  unfold MessageInBounds
  omega

theorem actionPoint_gives (v : Int) :
    (actionPoint w v).Gives fun number => w.hasPoint number = true ∧ (number : Int) = v := by
  have number : (ofOption (.outOfRange .actionPoint v) (itemNumber? v)).Gives
      fun number : Nat => (number : Int) = v :=
    gives_ofOption.2 fun _ fits => (itemNumber?_eq_some.1 fits).1.symm
  refine number.bind fun number same => ?_
  have here : (require (w.hasPoint number) (.noActionPoint number)).Gives
      fun _ => w.hasPoint number = true := gives_require.2 id
  exact here.bind fun _ here => (gives_pure _).2 ⟨here, same⟩

/-! ## Places -/

theorem numberedPlace_gives (word : String) :
    (numberedPlace w word).Gives fun place => place.ExistsIn w ∧ place.WrittenAs word := by
  unfold numberedPlace
  simp only
  split
  · split
    · rename_i here
      exact (gives_pure _).2 ⟨here, by unfold Place.WrittenAs; omega⟩
    · exact nofun
  · split
    · split
      · rename_i here
        exact (gives_pure _).2 ⟨here, by unfold Place.WrittenAs; omega⟩
      · exact nofun
    · exact .after fun _ => (gives_pure _).2 ⟨trivial, trivial⟩

theorem place_gives (word : String) :
    (place w word).Gives fun place => place.ExistsIn w ∧ place.WrittenAs word := by
  unfold place
  split
  · rename_i slot named
    have inBounds := inBounds_ofWord? named
    exact (gives_pure _).2 ⟨inBounds, trivial⟩
  · exact (gives_pure _).2 ⟨trivial, trivial⟩
  · split
    · exact (gives_pure _).2 ⟨trivial, trivial⟩
    · split
      · exact (gives_pure _).2 ⟨trivial, trivial⟩
      · exact numberedPlace_gives w word

theorem placeAt_gives (i : Nat) : (placeAt w l i).Gives fun place =>
    place.ExistsIn w ∧ place.WrittenAs (l.word i) := by
  unfold placeAt
  split
  · exact place_gives w _
  · exact (gives_pure _).2 ⟨trivial, trivial⟩

/-! ## Families of commands -/

theorem forall_orElse {α : Type} {P : α → Prop} {a b : Option α} (first : ∀ x, a = some x → P x)
    (next : ∀ x, b = some x → P x) (x : α) (found : (a <|> b) = some x) : P x := by
  cases a with
  | none => exact next x found
  | some _ => exact first x found

theorem forall_map {α β : Type} {P : α → Prop} {f : β → α} {o : Option β} (each : ∀ b, P (f b))
    (x : α) (found : o.map f = some x) : P x := by
  obtain ⟨b, _, rfl⟩ := Option.map_eq_some_iff.1 found
  exact each b

theorem measured?_inBounds (name : String) :
    ∀ what, measured? w name = some what → what.1.IndexInBounds what.2 := by
  unfold measured?
  refine forall_orElse (forall_map fun m => ?_) <| forall_orElse (forall_map fun _ => trivial) <|
    forall_orElse (forall_map fun _ => trivial) <| forall_orElse (forall_map fun i => i.isLt) <|
    forall_orElse (forall_map fun i => i.isLt) (forall_map fun _ => trivial)
  cases m with
  | timer => exact timerCount_pos
  | flag => exact flagCount_pos
  | _ => trivial

theorem stocked?_inBounds (name : String) :
    ∀ what, stocked? w name = some what → what.1.IndexInBounds what.2 := by
  unfold stocked?
  exact forall_orElse (forall_map fun _ => trivial) <| forall_orElse (forall_map fun _ => trivial) <|
    forall_orElse (forall_map fun _ => trivial) (forall_map fun _ => trivial)

theorem measureCondition_ofLine {what : Measure × Nat} (index : what.1.IndexInBounds what.2) :
    (measureCondition l what).Gives (OfLine w l) := by
  refine (selector_inBounds (l.word 0)).bind fun _ players => .after fun _ => (gives_pure _).2 ?_
  exact InBounds.ofLine ⟨players, index⟩ rfl rfl

theorem available_ofLine (stock : Stock) : (available w l stock).Gives (OfLine w l) :=
  (selector_inBounds (l.word 0)).bind fun _ players =>
    .after fun _ => (gives_pure _).2 (InBounds.ofLine players rfl rfl)

theorem creatureStat_ofLine (stat : Stat) : (creatureStat w l stat).Gives (OfLine w l) :=
  .after fun _ => .after fun _ => (gives_pure _).2 (InBounds.ofLine trivial rfl rfl)

theorem computerPlan_ofLine (sort : PlanSort) : (computerPlan l sort).Gives (OfLine w l) :=
  (selector_inBounds (l.word 0)).bind fun _ players =>
    (gives_pure _).2 (InBounds.ofLine players rfl rfl)

theorem sentTunneller_ofLine (withParty : Bool)
    (argument : l.verb.placeArgument = if withParty then 2 else 1) :
    (sentTunneller w s l withParty).Gives (OfLine w l) := by
  have place := place_gives w (l.word l.verb.placeArgument)
  rw [argument] at place
  have ofLine : ∀ t : Tunneller, LevelInBounds t.level → t.place.ExistsIn w ∧
      t.place.WrittenAs (l.word (if withParty then 2 else 1)) → OfLine w l (.tunneller t) := by
    intro t level place
    exact InBounds.ofLine_at ⟨place.1, level⟩ rfl (argument ▸ place.2) rfl
  cases withParty with
  | false =>
    simp only [sentTunneller, gives_bind, gives_pure, if_false, Bool.false_eq_true]
    intro _ level _ _ _ here _ _ _ _
    exact ofLine _ (level_inBounds _ _ level) (place _ here)
  | true =>
    simp only [sentTunneller, gives_bind, gives_pure, if_true]
    intro _ level _ _ _ here _ _ _ _
    exact ofLine _ (level_inBounds _ _ level) (place _ here)

theorem shownText_gives (withPos : Bool) : (shownText w l withPos).Gives fun shown =>
    MessageInBounds shown.1 ∧ shown.2.1.ExistsIn w ∧ shown.2.1.WrittenAs (l.word 1) := by
  unfold shownText
  refine (message_inBounds _).bind fun _ message => ?_
  cases withPos with
  | true => exact (gives_pure _).2 ⟨message, trivial, trivial⟩
  | false => exact (placeAt_gives w l 1).bind fun _ place => (gives_pure _).2 ⟨message, place⟩

theorem quickText_gives (withPos : Bool) : (quickText w s l withPos).Gives fun shown =>
    shown.1 < quickTextCount ∧ shown.2.1.ExistsIn w ∧ shown.2.1.WrittenAs (l.word 2) := by
  unfold quickText
  refine (within_gives .quickMessage 0 (quickTextCount - 1) (l.number 0)).bind fun _ index => ?_
  have index : (l.number 0).toNat < quickTextCount := by omega
  simp only [gives_remarkIf, gives_say_bind]
  cases withPos with
  | true => exact (gives_pure _).2 ⟨index, trivial, trivial⟩
  | false => exact (placeAt_gives w l 2).bind fun _ place => (gives_pure _).2 ⟨index, place⟩

/-! ## All commands -/

/-- Both grammars have the number of an action point in front, as a number. -/
theorem arguments_of_namesPoint (levelVersion : Int) :
    ∀ u ∈ Grammar.ofVersion levelVersion, u.verb.namesPoint = true →
      (u.arguments.take u.argumentCount)[0]? = some .number := by
  unfold Grammar.ofVersion
  split
  · decide
  · decide

theorem resolve_ofLine : (resolve w s l).Gives (OfLine w l) := by
  cases hv : l.verb with
  | rem | createParty | endif | setMusic | tutorialFlashButton | deadCreaturesReturnToPool
  | winGame | loseGame | nextCommandReusable | print | message | levelVersion =>
    simp only [resolve, hv]
    exact (gives_pure _).2 (InBounds.ofLine trivial rfl rfl)
  | startMoney | computerPlayer | maxCreatures | addGoldToPlayer | revealMapRect
  | setComputerGlobals =>
    simp only [resolve, hv]
    exact (selector_inBounds _).bind fun _ players =>
      (gives_pure _).2 (InBounds.ofLine players rfl rfl)
  | research | setCreatureTendencies | playMessage =>
    simp only [resolve, hv]
    exact (selector_inBounds _).bind fun _ players =>
      .after fun _ => (gives_pure _).2 (InBounds.ofLine players rfl rfl)
  | researchOrder =>
    simp only [resolve, hv]
    exact (selector_inBounds _).bind fun _ players =>
      .after fun _ => .after fun _ => (gives_pure _).2 (InBounds.ofLine players rfl rfl)
  | setCreatureMaxLevel =>
    simp only [resolve, hv]
    exact (selector_inBounds _).bind fun _ players =>
      .after fun _ => gives_remarkIf.2 <| (gives_pure _).2 (InBounds.ofLine players rfl rfl)
  | roomAvailable | creatureAvailable | magicAvailable | trapAvailable | doorAvailable =>
    simp only [resolve, hv]
    exact available_ofLine w l _
  | setCreatureHealth | setCreatureStrength | setCreatureArmour | setCreatureFear =>
    simp only [resolve, hv]
    exact creatureStat_ofLine w l _
  | setComputerChecks | setComputerEvent | setComputerProcess =>
    simp only [resolve, hv]
    exact computerPlan_ofLine w l _
  | ifMeasure =>
    simp only [resolve, hv]
    exact (gives_ofOption.2 (measured?_inBounds w _)).bind fun _ index =>
      measureCondition_ofLine w l index
  | ifAvailable =>
    simp only [resolve, hv]
    exact (gives_ofOption.2 (stocked?_inBounds w _)).bind fun _ index =>
      measureCondition_ofLine w l index
  | ifActionPoint =>
    simp only [resolve, hv]
    refine (actionPoint_gives w _).bind fun number point => ?_
    refine (selector_inBounds _).bind fun _ players => (gives_pure _).2 ⟨⟨players, point.1⟩, ?_, ?_⟩
    · intro _ named
      cases named
    · intro number' same
      obtain rfl := Option.some.inj same
      exact ⟨by rw [hv]; rfl, point.2⟩
  | resetActionPoint =>
    simp only [resolve, hv]
    refine (actionPoint_gives w _).bind fun number point => (gives_pure _).2 ⟨point.1, ?_, ?_⟩
    · intro _ named
      cases named
    · intro number' same
      obtain rfl := Option.some.inj same
      exact ⟨by rw [hv]; rfl, point.2⟩
  | setHate =>
    simp only [resolve, hv]
    have players : (ofOption (.outOfRange .player (l.number 0))
        (Selector.ofNumber? (l.number 0))).Gives Selector.InBounds :=
      gives_ofOption.2 fun _ => inBounds_ofNumber?
    exact players.bind fun _ players => (gives_pure _).2 (InBounds.ofLine players rfl rfl)
  | setGenerateSpeed =>
    simp only [resolve, hv]
    exact (atLeast_gives .generationSpeed 1 _).bind fun _ positive =>
      (gives_pure _).2 (InBounds.ofLine positive rfl rfl)
  | bonusLevelTime =>
    simp only [resolve, hv]
    exact (atLeast_gives .bonusTime 0 _).bind fun _ notNegative =>
      (gives_pure _).2 (InBounds.ofLine notNegative rfl rfl)
  | setTimer =>
    simp only [resolve, hv]
    exact (selector_inBounds _).bind fun _ players =>
      .after fun timer => (gives_pure _).2 (InBounds.ofLine ⟨players, timer.isLt⟩ rfl rfl)
  | setFlag =>
    simp only [resolve, hv]
    exact (selector_inBounds _).bind fun _ players =>
      .after fun flag => (gives_pure _).2 (InBounds.ofLine ⟨players, flag.isLt⟩ rfl rfl)
  | addToParty =>
    simp only [resolve, hv]
    exact (level_inBounds _).bind fun _ level =>
      .after fun _ => .after fun _ => (gives_pure _).2 (InBounds.ofLine level rfl rfl)
  | addCreatureToPool =>
    simp only [resolve, hv]
    refine .after fun _ => (within_gives .poolCreatures 0 (creatureLimit - 1) _).bind fun _ amount =>
      (gives_pure _).2 (InBounds.ofLine ?_ rfl rfl)
    exact ⟨amount.1, by omega⟩
  | allyPlayers =>
    simp only [resolve, hv]
    exact .after fun a => .after fun b =>
      (gives_pure _).2 (InBounds.ofLine ⟨a.isLt, b.isLt⟩ rfl rfl)
  | killCreature =>
    simp only [resolve, hv]
    refine (selector_inBounds _).bind fun _ players =>
      (atLeast_gives .killCount 1 _).bind fun _ positive => ?_
    exact .after fun _ => .after fun _ => (gives_pure _).2 (InBounds.ofLine ⟨players, positive⟩ rfl rfl)
  | swapCreature =>
    simp only [resolve, hv]
    exact .after fun _ => .after fun _ => gives_remarkIf.2 <|
      (gives_pure _).2 (InBounds.ofLine trivial rfl rfl)
  | addTunnellerToLevel =>
    simp only [resolve, hv]
    exact sentTunneller_ofLine w s l false (by rw [hv]; rfl)
  | addTunnellerPartyToLevel =>
    simp only [resolve, hv]
    exact sentTunneller_ofLine w s l true (by rw [hv]; rfl)
  | addPartyToLevel =>
    have argument : l.verb.placeArgument = 2 := by rw [hv]; rfl
    simp only [resolve, hv]
    refine (atLeast_gives .copies 1 _).bind fun _ copies => .after fun _ => ?_
    refine (place_gives w _).bind fun _ place => .after fun _ => (gives_pure _).2 ?_
    exact InBounds.ofLine_at ⟨place.1, copies⟩ rfl (argument ▸ place.2) rfl
  | addCreatureToLevel =>
    have argument : l.verb.placeArgument = 2 := by rw [hv]; rfl
    simp only [resolve, hv]
    refine (level_inBounds _).bind fun _ level =>
      (within_gives .creatures 1 (creatureLimit - 1) _).bind fun _ copies => ?_
    refine .after fun _ => .after fun _ => (place_gives w _).bind fun _ place => (gives_pure _).2 ?_
    exact InBounds.ofLine_at ⟨place.1, level, copies.1, by omega⟩ rfl (argument ▸ place.2) rfl
  | displayObjective | displayInformation | displayObjectiveWithPos | displayInformationWithPos =>
    have argument : l.verb.placeArgument = 1 := by rw [hv]; rfl
    simp only [resolve, hv]
    exact (shownText_gives w l _).bind fun _ shown => (gives_pure _).2 <|
      InBounds.ofLine_at ⟨shown.1, shown.2.1⟩ rfl (argument ▸ shown.2.2) rfl
  | quickObjective | quickInformation | quickObjectiveWithPos | quickInformationWithPos =>
    have argument : l.verb.placeArgument = 2 := by rw [hv]; rfl
    simp only [resolve, hv]
    exact (quickText_gives w s l _).bind fun _ shown => (gives_pure _).2 <|
      InBounds.ofLine_at ⟨shown.1, shown.2.1⟩ rfl (argument ▸ shown.2.2) rfl
  | revealMapLocation =>
    have argument : l.verb.placeArgument = 1 := by rw [hv]; rfl
    simp only [resolve, hv]
    refine (selector_inBounds _).bind fun _ players => (place_gives w _).bind fun _ place => ?_
    exact (gives_pure _).2 (InBounds.ofLine_at ⟨players, place.1⟩ rfl (argument ▸ place.2) rfl)

end Command

end DungeonScript

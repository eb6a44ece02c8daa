import DungeonScript.ScriptLine
import DungeonScript.Script
import DungeonScript.World.Groups

/-!
Commands: script lines with every name looked up and every number checked. Arguments
are checked in a fixed order for each verb, which decides what a line with two faults
reports. A command is found by looking at the world (its names, points, gates and
research lists) and at the store (its parties and quick texts).
-/

namespace DungeonScript

/-- What a script line comes to. -/
inductive Command where
  /-- Opens a condition block. -/
  | condition (players : Selector) (test : Test)
  | endif
  | effect (e : Effect)
  | spawn (s : Spawn)
  | tunneller (t : Tunneller)
  | createParty (name : String)
  | addToParty (party : String) (m : Member)
  | setup (s : Setup)
  | verdict (v : Verdict)
  | nextReusable
  | levelVersion (version : Int)
  /-- A command that no longer does anything. -/
  | withoutEffect (keyword : String)
  | comment
  deriving Repr, DecidableEq

namespace Command

/-! ## Names -/

def selector (name : String) : Reading Selector :=
  .ofOption (.unknownPlayer name) (Selector.ofWord? name)

def owner (name : String) : Reading Player := do
  match ← selector name with
  | .one slot => .ofOption (.playerNotAllowed name) (World.playerAt? slot)
  | .all => .fail (.playerNotAllowed name)

def item (table : NameTable) (expected : Lexicon) (name : String) : Reading Nat :=
  .ofOption (.unknownName expected name) (table.find? name)

def value {α : Type} [Vocabulary α] (expected : Lexicon) (name : String) : Reading α :=
  .ofOption (.unknownName expected name) (Vocabulary.ofWord? name)

def creature (w : World) (name : String) : Reading Nat := item w.names.creatures .creature name

def stocked (w : World) : Stock → String → Reading Nat
  | .room => item w.names.rooms .roomName
  | .creature => item w.names.creatures .creature
  | .magic => item w.names.powers .magic
  | .trap => item w.names.traps .trap
  | .door => item w.names.doors .door

def party (s : Script) (name : String) : Reading Nat :=
  .ofOption (.undefinedParty name) (s.findParty? name)

/-- The place a number stands for: above 0 an action point, below 0 a hero gate. A
    word that is no number is reported and is nowhere. -/
def numberedPlace (w : World) (name : String) : Reading Place :=
  let n := Numeral.leadingDecimal name
  if n < 0 then
    if w.hasGate n.natAbs then pure (.heroGate n.natAbs) else .fail (.noHeroGate n.natAbs)
  else if 0 < n then
    if w.hasPoint n.natAbs then pure (.actionPoint n.natAbs) else .fail (.noActionPoint n.natAbs)
  else do
    Reading.remark (.fault (.invalidLocation name))
    return .nowhere

/-- The place a word names: a player's heart, a creature or room kind, or a number. -/
def place (w : World) (name : String) : Reading Place :=
  match Selector.ofWord? name with
  | some (.one slot) => pure (.heart slot)
  | some .all => pure .nowhere
  | none =>
    match w.names.creatures.find? name with
    | some kind => pure (.creatureKind kind)
    | none =>
      match w.names.rooms.find? name with
      | some room => pure (.roomKind room)
      | none => numberedPlace w name

/-- The place a word names, nowhere when the line does not have the word. -/
def placeAt (w : World) (l : ScriptLine) (i : Nat) : Reading Place :=
  if i < l.count then place w (l.word i) else pure .nowhere

/-- The measure an `IF` names, tried as a measure, a creature, a room, a timer, a flag
    and a door. -/
def measured? (w : World) (name : String) : Option (Measure × Nat) :=
  ((Vocabulary.ofWord? name).map fun m => (m, 0))
    <|> ((w.names.creatures.find? name).map fun k => (.creatureNum, k))
    <|> ((w.names.rooms.find? name).map fun k => (.roomSlabs, k))
    <|> ((timerSlot? name).map fun i => (.timer, i.val))
    <|> ((flagSlot? name).map fun i => (.flag, i.val))
    <|> ((w.names.doors.find? name).map fun k => (.doorNum, k))

/-- The measure an `IF_AVAILABLE` names, tried as a door, a trap, a room and a power. -/
def stocked? (w : World) (name : String) : Option (Measure × Nat) :=
  ((w.names.doors.find? name).map fun k => (.availableDoor, k))
    <|> ((w.names.traps.find? name).map fun k => (.availableTrap, k))
    <|> ((w.names.rooms.find? name).map fun k => (.availableRoom, k))
    <|> ((w.names.powers.find? name).map fun k => (.availableMagic, k))

/-! ## Numbers -/

/-- A number that must lie in a range. -/
def within (what : Quantity) (lo hi v : Int) : Reading Unit :=
  .require (lo ≤ v && v ≤ hi) (.outOfRange what v)

/-- A number that must be at least this. -/
def atLeast (what : Quantity) (lo v : Int) : Reading Unit :=
  .require (lo ≤ v) (.outOfRange what v)

/-- A level from 1 to the highest, counted from 0 from here on. -/
def level (v : Int) : Reading Nat := do
  within .creatureLevel 1 topLevel v
  return (v - 1).toNat

def message (v : Int) : Reading Int := do
  within .textNumber 0 (stringCount - 1) v
  return v

/-- The number of an action point that exists. -/
def actionPoint (w : World) (v : Int) : Reading Nat := do
  let n ← Reading.ofOption (.outOfRange .actionPoint v) (itemNumber? v)
  Reading.require (w.hasPoint n) (.noActionPoint n)
  return n

/-! ## Families of commands -/

def measureCondition (l : ScriptLine) (what : Measure × Nat) : Reading Command := do
  let players ← selector (l.word 0)
  let comparison ← value .comparison (l.word 2)
  return .condition players (.measure what.1 what.2 comparison (l.number 3))

/-- A command that makes an item of a stock available. -/
def available (w : World) (l : ScriptLine) (stock : Stock) : Reading Command := do
  let players ← selector (l.word 0)
  let item ← stocked w stock (l.word 1)
  return .effect (.available players stock item (l.number 2) (l.number 3))

def researchItem (w : World) (l : ScriptLine) : Reading (ResearchKind × Nat) := do
  let kind ← value .researchType (l.word 1)
  let item ← Reading.ofOption (.unknownName .researchItem (l.word 2))
    (w.names.researchItem? kind (l.word 2))
  return (kind, item)

/-- Message, place and position of a command that shows a text of the string table. -/
def shownText (w : World) (l : ScriptLine) (withPos : Bool) :
    Reading (Int × Place × Subtile) := do
  let text ← message (l.number 0)
  if withPos then return (text, .nowhere, .ofArguments (l.number 1) (l.number 2))
  let place ← placeAt w l 1
  return (text, place, .origin)

/-- Number, place and position of a command that shows a quick text. The text is set
    before the place is looked up, and stays set when there is no such place. -/
def quickText (w : World) (s : Script) (l : ScriptLine) (withPos : Bool) :
    Reading (Nat × Place × Subtile) := do
  within .quickMessage 0 (quickTextCount - 1) (l.number 0)
  let index := (l.number 0).toNat
  let text := l.word 1
  if quickTextLength ≤ text.length then Reading.remark .textTooLong
  Reading.say (.quickText index text)
  if s.replacesQuickText index text then Reading.remark (.textReplaced index)
  if withPos then return (index, .nowhere, .ofArguments (l.number 2) (l.number 3))
  let place ← placeAt w l 2
  return (index, place, .origin)

/-- A party that leaves room for a tunneller at its head. -/
def partyBehind (s : Script) (name : String) : Reading Nat := do
  let id ← party s name
  let size := ((s.parties[id]?).map (·.members.length)).getD 0
  Reading.require (size < memberLimit - 1) (.partyTooBig name)
  return id

/-- A tunneller; with a party, the party's name stands second. -/
def sentTunneller (w : World) (s : Script) (l : ScriptLine) (withParty : Bool) :
    Reading Command := do
  let i := if withParty then 1 else 0
  let level ← level (l.number (4 + i))
  let owner ← owner (l.word 0)
  let place ← place w (l.word (1 + i))
  let heading ← value .heading (l.word (2 + i))
  let behind ← if withParty then some <$> partyBehind s (l.word 1) else pure none
  return .tunneller
    { owner, place, heading, target := l.number (3 + i), level, gold := l.number (5 + i),
      party := behind }

def statLimit : Stat → Int
  | .health => 65535
  | _ => 255

/-- A command that sets a statistic of a creature kind. -/
def creatureStat (w : World) (l : ScriptLine) (stat : Stat) : Reading Command := do
  let kind ← creature w (l.word 0)
  within .creatureStat 0 (statLimit stat) (l.number 1)
  return .effect (.setStat kind stat (l.number 1))

/-- A command that sets a plan of computer players. -/
def computerPlan (l : ScriptLine) (sort : PlanSort) : Reading Command := do
  let players ← selector (l.word 0)
  return .setup (.computerPlan sort players (l.word 1) (l.numbersFrom 2 sort.width))

/-! ## All commands -/

def resolve (w : World) (s : Script) (l : ScriptLine) : Reading Command :=
  match l.verb with
  | .rem => return .comment
  | .createParty =>
    return .createParty (String.ofList ((l.word 0).toList.take (partyNameLength - 1)))
  | .addToParty => do
    let level ← level (l.number 2)
    let kind ← creature w (l.word 1)
    let objective ← value .memberObjective (l.word 4)
    return .addToParty (l.word 0)
      { kind, level, gold := l.number 3, objective, countdown := l.number 5 }
  | .addPartyToLevel => do
    atLeast .copies 1 (l.number 3)
    let owner ← owner (l.word 0)
    let place ← place w (l.word 2)
    let id ← party s (l.word 1)
    return .spawn { owner, place, brood := .party id (l.number 3) }
  | .addCreatureToLevel => do
    let level ← level (l.number 4)
    within .creatures 1 (creatureLimit - 1) (l.number 3)
    let kind ← creature w (l.word 1)
    let owner ← owner (l.word 0)
    let place ← place w (l.word 2)
    return .spawn { owner, place, brood := .creatures kind level (l.number 5) (l.number 3) }
  | .ifMeasure => do
    let what ← Reading.ofOption (.unknownName .variableName (l.word 1)) (measured? w (l.word 1))
    measureCondition l what
  | .ifAvailable => do
    let what ← Reading.ofOption (.unknownName .availableItem (l.word 1)) (stocked? w (l.word 1))
    measureCondition l what
  | .ifActionPoint => do
    let number ← actionPoint w (l.number 0)
    let players ← selector (l.word 1)
    return .condition players (.entered number)
  | .endif => return .endif
  | .setHate => do
    let players ← Reading.ofOption (.outOfRange .player (l.number 0))
      (Selector.ofNumber? (l.number 0))
    return .effect (.setHate players (l.number 1) (l.number 2))
  | .setGenerateSpeed => do
    atLeast .generationSpeed 1 (l.number 0)
    return .effect (.setGenerateSpeed (l.number 0))
  | .startMoney => do
    let players ← selector (l.word 0)
    return .setup (.startMoney players (l.number 1))
  | .roomAvailable => available w l .room
  | .creatureAvailable => available w l .creature
  | .magicAvailable => available w l .magic
  | .trapAvailable => available w l .trap
  | .doorAvailable => available w l .door
  | .research => do
    let players ← selector (l.word 0)
    let (kind, item) ← researchItem w l
    return .effect (.research players kind item (l.number 3))
  | .researchOrder => do
    let players ← selector (l.word 0)
    Reading.require (players.everyone.all fun p => (w.realm p).research.size < researchLimit)
      (.full .research)
    let (kind, item) ← researchItem w l
    return .effect (.researchOrder players kind item (l.number 3))
  | .computerPlayer => do
    let players ← selector (l.word 0)
    return .setup (.computerPlayer players (l.number 1))
  | .setTimer => do
    let players ← selector (l.word 0)
    let timer ← Reading.ofOption (.unknownName .timer (l.word 1)) (timerSlot? (l.word 1))
    return .effect (.setTimer players timer)
  | .addTunnellerToLevel => sentTunneller w s l false
  | .addTunnellerPartyToLevel => sentTunneller w s l true
  | .winGame => return .verdict .win
  | .loseGame => return .verdict .lose
  | .setFlag => do
    let players ← selector (l.word 0)
    let flag ← Reading.ofOption (.unknownName .flag (l.word 1)) (flagSlot? (l.word 1))
    return .effect (.setFlag players flag (l.number 2))
  | .maxCreatures => do
    let players ← selector (l.word 0)
    return .effect (.maxCreatures players (l.number 1))
  | .nextCommandReusable => return .nextReusable
  | .displayObjective => do
    let (text, place, pos) ← shownText w l false
    return .effect (.displayObjective text place pos)
  | .displayObjectiveWithPos => do
    let (text, place, pos) ← shownText w l true
    return .effect (.displayObjective text place pos)
  | .displayInformation => do
    let (text, place, pos) ← shownText w l false
    return .effect (.displayInformation text place pos)
  | .displayInformationWithPos => do
    let (text, place, pos) ← shownText w l true
    return .effect (.displayInformation text place pos)
  | .quickObjective => do
    let (index, place, pos) ← quickText w s l false
    return .effect (.quickObjective index place pos)
  | .quickObjectiveWithPos => do
    let (index, place, pos) ← quickText w s l true
    return .effect (.quickObjective index place pos)
  | .quickInformation => do
    let (index, place, pos) ← quickText w s l false
    return .effect (.quickInformation index place pos)
  | .quickInformationWithPos => do
    let (index, place, pos) ← quickText w s l true
    return .effect (.quickInformation index place pos)
  | .addCreatureToPool => do
    let kind ← creature w (l.word 0)
    within .poolCreatures 0 (creatureLimit - 1) (l.number 1)
    return .effect (.addToPool kind (l.number 1))
  | .resetActionPoint => do
    let number ← actionPoint w (l.number 0)
    return .effect (.resetActionPoint number)
  | .setCreatureMaxLevel => do
    let players ← selector (l.word 0)
    let kind ← creature w (l.word 1)
    let level := l.number 2
    if level < 1 ∨ topLevel < level then Reading.remark (.oddLevel (l.word 1) level)
    return .effect (.setMaxLevel players kind (saturate (level - 1)))
  | .setMusic => return .setup (.music (l.number 0))
  | .tutorialFlashButton => return .effect (.flashButton (l.number 0) (l.number 1))
  | .setCreatureHealth => creatureStat w l .health
  | .setCreatureStrength => creatureStat w l .strength
  | .setCreatureArmour => creatureStat w l .armour
  | .setCreatureFear => creatureStat w l .fear
  | .setComputerGlobals => do
    let players ← selector (l.word 0)
    return .setup (.computerGlobals players (l.numbersFrom 1 Computer.globalCount))
  | .setComputerChecks => computerPlan l .check
  | .setComputerEvent => computerPlan l .event
  | .setComputerProcess => computerPlan l .process
  | .allyPlayers => do
    let a ← owner (l.word 0)
    let b ← owner (l.word 1)
    return .effect (.ally a b)
  | .deadCreaturesReturnToPool => return .effect (.deadReturnToPool (l.number 0 != 0))
  | .bonusLevelTime => do
    atLeast .bonusTime 0 (l.number 0)
    return .effect (.bonusTime (l.number 0))
  | .swapCreature => do
    let slot ← value .newCreature (l.word 0)
    let kind ← creature w (l.word 1)
    if kind = impKind ∨ kind = tunnellerKind then Reading.remark .oddSwap
    return .setup (.swapCreature slot kind)
  | .print | .message => return .withoutEffect l.usage.keyword
  | .playMessage => do
    let players ← selector (l.word 0)
    let channel ← value .messageType (l.word 1)
    return .effect (.playMessage players channel (l.number 2))
  | .addGoldToPlayer => do
    let players ← selector (l.word 0)
    return .effect (.addGold players (l.number 1))
  | .setCreatureTendencies => do
    let players ← selector (l.word 0)
    let tendency ← value .tendency (l.word 1)
    return .effect (.setTendency players tendency (l.number 2))
  | .revealMapRect => do
    let players ← selector (l.word 0)
    return .effect
      (.revealRect players (l.number 1) (l.number 2) (l.number 3) (l.number 4))
  | .revealMapLocation => do
    let players ← selector (l.word 0)
    let place ← place w (l.word 1)
    return .effect (.revealPlace players place (l.number 2))
  | .levelVersion => return .levelVersion (l.number 0)
  | .killCreature => do
    let players ← selector (l.word 0)
    atLeast .killCount 1 (l.number 3)
    let kind ← creature w (l.word 1)
    let order ← value .killOrder (l.word 2)
    return .effect (.kill players kind order (l.number 3))

end Command

end DungeonScript

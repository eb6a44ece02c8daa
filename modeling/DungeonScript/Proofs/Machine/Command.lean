import DungeonScript.Command
import DungeonScript.Proofs.Machine.Text

/-!
The machine makes sense of a line. Among all that is looked up and checked there are few places
where it could crash: a level is counted from 0 once it is known to be at least 1, the number of a
place is negated after its minus sign, and research lists are gone through player by player
(`resolve_eq`).
-/

namespace DungeonScript

namespace Machine

/-! ## Readings that may crash -/

/-- A reading, unless the program breaks down on the way. -/
def CheckedReading (α : Type) := Checked (Reading α)

namespace CheckedReading

variable {α β : Type}

/-- A reading in which nothing can crash. -/
def safe (r : Reading α) : CheckedReading α := Except.ok r

instance : Monad CheckedReading where
  pure a := safe (pure a)
  bind x f :=
    match x with
    | .error crash => .error crash
    | .ok r =>
      match r.outcome with
      | .error e => safe ⟨.error e, r.asides⟩
      | .ok a =>
        match f a with
        | .error crash => .error crash
        | .ok next => safe ⟨next.outcome, r.asides ++ next.asides⟩

instance : MonadLift Reading CheckedReading := ⟨safe⟩

instance : MonadLift Checked CheckedReading where
  monadLift
    | .error crash => .error crash
    | .ok a => pure a

theorem safe_bind (x : Reading α) (f : α → Reading β) :
    (safe x >>= fun a => safe (f a)) = safe (x >>= f) := by
  cases outcome : x.outcome with
  | error e =>
    rw [Reading.bind_of_error outcome]
    simp only [Bind.bind, safe, outcome]
    rfl
  | ok a =>
    rw [Reading.bind_of_ok outcome]
    simp only [Bind.bind, safe, outcome]
    rfl

theorem safe_ite {c : Prop} [Decidable c] (x y : Reading α) :
    (if c then safe x else safe y) = safe (if c then x else y) := by
  split <;> rfl

theorem lift_eq_safe (r : Reading α) : (liftM r : CheckedReading α) = safe r := rfl

theorem pure_eq_safe (a : α) : (pure a : CheckedReading α) = safe (pure a) := rfl

/-- An operation that does not crash changes nothing in what is read. -/
theorem ok_bind (a : α) (f : α → CheckedReading β) : (liftM (Except.ok a : Checked α) >>= f) = f a := by
  show (match f a with | .error crash => .error crash | .ok next => .ok ⟨_, [] ++ _⟩) = f a
  cases f a <;> rfl

end CheckedReading

open CheckedReading

/-! ## Numbers and places -/

/-- A level, counted from 0. -/
def level (v : Int) : CheckedReading Nat := do
  Command.within .creatureLevel 1 topLevel v
  let level ← signed (v - 1)
  return level.toNat

theorem level_eq (v : Int) : level v = safe (Command.level v) := by
  by_cases within : (decide (1 ≤ v) && decide (v ≤ topLevel)) = true
  · have most : v ≤ 10 := of_decide_eq_true (Bool.and_eq_true_iff.1 within).2
    have least : 1 ≤ v := of_decide_eq_true (Bool.and_eq_true_iff.1 within).1
    unfold level Command.level
    rw [signed_eq (inRange_iff.2 (by omega))]
    simp only [lift_eq_safe, pure_eq_safe, CheckedReading.ok_bind, safe_bind]
  · have fails : Command.within .creatureLevel 1 topLevel v =
        .fail (.outOfRange .creatureLevel v) := if_neg within
    unfold level Command.level
    rw [fails]
    rfl

def numberedPlace (w : World) (name : String) : CheckedReading Place := do
  let n ← leadingDecimal name
  if n < 0 then
    if w.hasGate n.natAbs then pure (.heroGate n.natAbs)
    else Reading.fail (.noHeroGate n.natAbs)
  else if 0 < n then
    if w.hasPoint n.natAbs then pure (.actionPoint n.natAbs)
    else Reading.fail (.noActionPoint n.natAbs)
  else do
    Reading.remark (.fault (.invalidLocation name))
    return .nowhere

theorem numberedPlace_eq (w : World) (name : String) :
    numberedPlace w name = safe (Command.numberedPlace w name) := by
  unfold numberedPlace Command.numberedPlace
  rw [leadingDecimal_eq, CheckedReading.ok_bind]
  simp only [lift_eq_safe, pure_eq_safe, safe_bind]
  split
  · split <;> rfl
  · split
    · split <;> rfl
    · rfl

def place (w : World) (name : String) : CheckedReading Place :=
  match Selector.ofWord? name with
  | some (.one slot) => pure (.heart slot)
  | some .all => pure .nowhere
  | none =>
    match w.names.creatures.find? name with
    | some kind => pure (.creatureKind kind)
    | none =>
      match w.names.rooms.find? name with
      | some room => pure (.roomKind room)
      | none => numberedPlace w name

theorem place_eq (w : World) (name : String) : place w name = safe (Command.place w name) := by
  unfold place Command.place
  cases Selector.ofWord? name with
  | some players => cases players <;> rfl
  | none =>
    simp only
    cases w.names.creatures.find? name with
    | some kind => rfl
    | none =>
      simp only
      cases w.names.rooms.find? name with
      | some room => rfl
      | none => exact numberedPlace_eq w name

/-- The place a word names, nowhere when the line does not have the word. -/
def placeAt (w : World) (l : ScriptLine) (i : Nat) : CheckedReading Place :=
  if i < l.count then place w (l.word i) else pure .nowhere

theorem placeAt_eq (w : World) (l : ScriptLine) (i : Nat) :
    placeAt w l i = safe (Command.placeAt w l i) := by
  unfold placeAt Command.placeAt
  rw [place_eq]
  split <;> rfl

/-! ## Families of commands -/

/-- Message, place and position of a command that shows a text of the string table. -/
def shownText (w : World) (l : ScriptLine) (withPos : Bool) :
    CheckedReading (Int × Place × Subtile) := do
  let text ← Command.message (l.number 0)
  if withPos then return (text, .nowhere, .ofArguments (l.number 1) (l.number 2))
  let place ← placeAt w l 1
  return (text, place, .origin)

theorem shownText_eq (w : World) (l : ScriptLine) (withPos : Bool) :
    shownText w l withPos = safe (Command.shownText w l withPos) := by
  unfold shownText Command.shownText
  simp only [lift_eq_safe, pure_eq_safe, placeAt_eq, safe_bind, safe_ite]

/-- Number, place and position of a command that shows a quick text. -/
def quickText (w : World) (s : Script) (l : ScriptLine) (withPos : Bool) :
    CheckedReading (Nat × Place × Subtile) := do
  Command.within .quickMessage 0 (quickTextCount - 1) (l.number 0)
  let index := (l.number 0).toNat
  let text := l.word 1
  if quickTextLength ≤ text.length then Reading.remark .textTooLong
  Reading.say (.quickText index text)
  if s.replacesQuickText index text then Reading.remark (.textReplaced index)
  if withPos then return (index, .nowhere, .ofArguments (l.number 2) (l.number 3))
  let place ← placeAt w l 2
  return (index, place, .origin)

theorem quickText_eq (w : World) (s : Script) (l : ScriptLine) (withPos : Bool) :
    quickText w s l withPos = safe (Command.quickText w s l withPos) := by
  unfold quickText Command.quickText
  simp only [lift_eq_safe, pure_eq_safe, placeAt_eq, safe_bind, safe_ite]

/-- A tunneller; with a party, the party's name stands second. -/
def sentTunneller (w : World) (s : Script) (l : ScriptLine) (withParty : Bool) :
    CheckedReading Command := do
  let i := if withParty then 1 else 0
  let level ← level (l.number (4 + i))
  let owner ← Command.owner (l.word 0)
  let place ← place w (l.word (1 + i))
  let heading ← Command.value .heading (l.word (2 + i))
  let behind : Reading (Option Nat) :=
    if withParty then some <$> Command.partyBehind s (l.word 1) else pure none
  let behind ← behind
  return .tunneller
    { owner, place, heading, target := l.number (3 + i), level, gold := l.number (5 + i),
      party := behind }

theorem sentTunneller_eq (w : World) (s : Script) (l : ScriptLine) (withParty : Bool) :
    sentTunneller w s l withParty = safe (Command.sentTunneller w s l withParty) := by
  unfold sentTunneller Command.sentTunneller
  simp only [lift_eq_safe, pure_eq_safe, level_eq, place_eq, safe_bind]
  cases withParty <;> simp only [Bool.false_eq_true, if_true, if_false]

/-- Whether some player's research list is full. -/
def researchFull (w : World) : List Nat → Checked Bool
  | [] => pure false
  | p :: rest => do
    let p ← slot playerCount p
    if researchLimit ≤ (w.realm p).research.size then return true else researchFull w rest

theorem researchFull_eq (w : World) (players : List Player) :
    researchFull w (players.map Fin.val) =
      .ok !(players.all fun p => (w.realm p).research.size < researchLimit) := by
  induction players with
  | nil => rfl
  | cons p rest ih =>
    rw [List.map_cons, researchFull, slot_val, ok_bind, List.all_cons]
    by_cases full : researchLimit ≤ (w.realm p).research.size
    · simp [full]
    · simp [full, ih, Nat.lt_of_not_le full]

/-! ## All commands -/

def resolve (w : World) (s : Script) (l : ScriptLine) : CheckedReading Command :=
  match l.verb with
  | .addToParty => do
    let level ← level (l.number 2)
    let kind ← Command.creature w (l.word 1)
    let objective ← Command.value .memberObjective (l.word 4)
    return .addToParty (l.word 0)
      { kind, level, gold := l.number 3, objective, countdown := l.number 5 }
  | .addPartyToLevel => do
    Command.atLeast .copies 1 (l.number 3)
    let owner ← Command.owner (l.word 0)
    let place ← place w (l.word 2)
    let id ← Command.party s (l.word 1)
    return .spawn { owner, place, brood := .party id (l.number 3) }
  | .addCreatureToLevel => do
    let level ← level (l.number 4)
    Command.within .creatures 1 (creatureLimit - 1) (l.number 3)
    let kind ← Command.creature w (l.word 1)
    let owner ← Command.owner (l.word 0)
    let place ← place w (l.word 2)
    return .spawn { owner, place, brood := .creatures kind level (l.number 5) (l.number 3) }
  | .researchOrder => do
    let ps ← Command.selector (l.word 0)
    let full ← researchFull w (players playerCount ps)
    Reading.require (!full) (.full .research)
    let (kind, item) ← Command.researchItem w l
    return .effect (.researchOrder ps kind item (l.number 3))
  | .addTunnellerToLevel => sentTunneller w s l false
  | .addTunnellerPartyToLevel => sentTunneller w s l true
  | .displayObjective => do
    let (text, place, pos) ← shownText w l false
    return .effect (.displayObjective text place pos)
  | .displayObjectiveWithPos => do
    let (text, place, pos) ← shownText w l true
    return .effect (.displayObjective text place pos)
  | .displayInformation => do
    let (text, place, pos) ← shownText w l false
    return .effect (.displayInformation text place pos)
  | .displayInformationWithPos => do
    let (text, place, pos) ← shownText w l true
    return .effect (.displayInformation text place pos)
  | .quickObjective => do
    let (index, place, pos) ← quickText w s l false
    return .effect (.quickObjective index place pos)
  | .quickObjectiveWithPos => do
    let (index, place, pos) ← quickText w s l true
    return .effect (.quickObjective index place pos)
  | .quickInformation => do
    let (index, place, pos) ← quickText w s l false
    return .effect (.quickInformation index place pos)
  | .quickInformationWithPos => do
    let (index, place, pos) ← quickText w s l true
    return .effect (.quickInformation index place pos)
  | .revealMapLocation => do
    let players ← Command.selector (l.word 0)
    let place ← place w (l.word 1)
    return .effect (.revealPlace players place (l.number 2))
  | _ => safe (Command.resolve w s l)

/-- No line makes the machine crash while it is made sense of. -/
theorem resolve_eq (w : World) (s : Script) (l : ScriptLine) :
    resolve w s l = .ok (Command.resolve w s l) := by
  show _ = safe (Command.resolve w s l)
  unfold resolve
  split
  case h_16 => rfl
  all_goals
    rename_i verb
    unfold Command.resolve
    rw [verb]
    simp only [lift_eq_safe, pure_eq_safe, level_eq, place_eq, shownText_eq, quickText_eq,
      sentTunneller_eq, players_eq, researchFull_eq, Bool.not_not, CheckedReading.ok_bind, safe_bind,
      Selector.everyone]

end Machine

end DungeonScript

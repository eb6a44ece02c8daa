import DungeonScript.Command
import DungeonScript.Proofs.ScriptLine

/-!
What making sense of a line can come to. Most lines only tell something on the way
(`resolve_plain`); a line that shows a quick text also sets it (`resolve_texts`). Nothing is
remarked on but what the line means (`resolve_ofMeaning`): neither its words as they were read,
nor how blocks open and close, so that a remark on blocks can only come from an `ENDIF` or from the
end of the text. A condition comes of the opening verbs alone, an `ENDIF` of the closing one
(`resolve_part`), a setup order of the verbs that prepare a level (`resolve_setup`), and a party
that is to appear is one of those defined (`resolve_partyBelow`).
-/

namespace DungeonScript

/-- The party a spawn is made of, if it is one. -/
def Spawn.party? (s : Spawn) : Option Nat :=
  match s.brood with
  | .party id _ => some id
  | .creatures _ _ _ _ => none

def Verb.setsText : Verb → Bool
  | .quickObjective | .quickObjectiveWithPos | .quickInformation | .quickInformationWithPos => true
  | _ => false

/-- The verbs that prepare the level as soon as the full pass reads them. -/
def Verb.prepares : Verb → Bool
  | .startMoney | .computerPlayer | .setMusic | .setComputerGlobals | .setComputerChecks
  | .setComputerEvent | .setComputerProcess => true
  | _ => false

/-- The number and the text of a quick message, if the number is that of a quick text. -/
def ScriptLine.quickText? (l : ScriptLine) : Option (Nat × String) :=
  if l.verb.setsText ∧ 0 ≤ l.number 0 ∧ l.number 0 < quickTextCount then
    some ((l.number 0).toNat, l.word 1)
  else none

namespace Command

open Reading

variable (w : World) (s : Script) (l : ScriptLine)

@[simp] theorem selector_plain (name : String) : (selector name).Plain := by
  simp [selector]

/-- Of the word for a player it is said at most that it names none, or more than one. -/
theorem owner_says {P : Aside → Prop} {name : String}
    (unknown : P (.remark (.fault (.unknownPlayer name))))
    (notAllowed : P (.remark (.fault (.playerNotAllowed name)))) : (owner name).Says P := by
  simp only [owner, says_bind]
  refine ⟨says_ofOption.2 fun _ => unknown, fun players _ => ?_⟩
  cases players with
  | one slot => exact says_ofOption.2 fun _ => notAllowed
  | all => exact (says_fail _).2 notAllowed

@[simp] theorem owner_plain (name : String) : (owner name).Plain := owner_says rfl rfl

@[simp] theorem item_plain (table : NameTable) (expected : Lexicon) (name : String) :
    (item table expected name).Plain := by
  simp [item]

@[simp] theorem value_plain {α : Type} [Vocabulary α] (expected : Lexicon) (name : String) :
    (value expected name : Reading α).Plain := by
  simp [value]

@[simp] theorem creature_plain (name : String) : (creature w name).Plain := by
  simp [creature]

@[simp] theorem stocked_plain (stock : Stock) (name : String) :
    (stocked w stock name).Plain := by
  cases stock <;> simp [stocked]

@[simp] theorem party_plain (name : String) : (party s name).Plain := by
  simp [party]

/-- Of the word for a place it is said at most that there is no such gate or point, or that it is
    no place. -/
theorem place_says {P : Aside → Prop} {name : String}
    (noGate : ∀ n, P (.remark (.fault (.noHeroGate n))))
    (noPoint : ∀ n, P (.remark (.fault (.noActionPoint n))))
    (invalid : P (.remark (.fault (.invalidLocation name)))) : (place w name).Says P := by
  have numbered : (numberedPlace w name).Says P := by
    simp [numberedPlace, noGate, noPoint, invalid]
  unfold place
  split
  · exact says_pure _
  · exact says_pure _
  · split
    · exact says_pure _
    · split
      · exact says_pure _
      · exact numbered

@[simp] theorem place_plain (name : String) : (place w name).Plain :=
  place_says w (fun _ => rfl) (fun _ => rfl) rfl

@[simp] theorem placeAt_plain (i : Nat) : (placeAt w l i).Plain := by
  simp [placeAt]

@[simp] theorem within_plain (what : Quantity) (lo hi v : Int) : (within what lo hi v).Plain := by
  simp [within]

@[simp] theorem atLeast_plain (what : Quantity) (lo v : Int) : (atLeast what lo v).Plain := by
  simp [atLeast]

@[simp] theorem level_plain (v : Int) : (level v).Plain := by
  simp [level]

@[simp] theorem message_plain (v : Int) : (message v).Plain := by
  simp [message]

@[simp] theorem actionPoint_plain (v : Int) : (actionPoint w v).Plain := by
  simp [actionPoint]

@[simp] theorem measureCondition_plain (what : Measure × Nat) :
    (measureCondition l what).Plain := by
  simp [measureCondition]

@[simp] theorem available_plain (stock : Stock) : (available w l stock).Plain := by
  simp [available]

@[simp] theorem researchItem_plain : (researchItem w l).Plain := by
  simp [researchItem]

@[simp] theorem shownText_plain (withPos : Bool) : (shownText w l withPos).Plain := by
  simp [shownText]

@[simp] theorem partyBehind_plain (name : String) : (partyBehind s name).Plain := by
  simp [partyBehind]

@[simp] theorem sentTunneller_plain (withParty : Bool) :
    (sentTunneller w s l withParty).Plain := by
  simp [sentTunneller]

@[simp] theorem creatureStat_plain (stat : Stat) : (creatureStat w l stat).Plain := by
  simp [creatureStat]

@[simp] theorem computerPlan_plain (sort : PlanSort) : (computerPlan l sort).Plain := by
  simp [computerPlan]

theorem resolve_plain (h : l.verb.setsText = false) : (resolve w s l).Plain := by
  cases hv : l.verb with
  | quickObjective | quickObjectiveWithPos | quickInformation | quickInformationWithPos =>
    rw [hv] at h
    cases h
  | _ => simp [resolve, hv]

theorem owner_ofMeaning (name : String) : (owner name).Says Aside.OfMeaning := owner_says rfl rfl

theorem place_ofMeaning (name : String) : (place w name).Says Aside.OfMeaning :=
  place_says w (fun _ => rfl) (fun _ => rfl) rfl

theorem resolve_ofMeaning : (resolve w s l).Says Aside.OfMeaning := by
  unfold resolve
  split <;> simp [Aside.OfMeaning, Remark.ofMeaning, Remark.ofReading, selector, owner_ofMeaning,
    place_ofMeaning, placeAt, item, value, creature, stocked, party, within, atLeast, level,
    message, actionPoint, measureCondition, available, researchItem, shownText, quickText,
    partyBehind, sentTunneller, creatureStat, computerPlan]

/-! ## What comes of a verb -/

/-- What a command does to the blocks of a script. -/
def part : Command → Part
  | .condition _ _ => .opens
  | .endif => .closes
  | _ => .neither

@[simp] theorem part_condition (players : Selector) (test : Test) :
    (condition players test).part = .opens := rfl

@[simp] theorem part_endif : endif.part = .closes := rfl

@[simp] theorem part_eq_neither {c : Command} (hc : ∀ players test, c ≠ .condition players test)
    (he : c ≠ .endif) : c.part = .neither := by
  unfold part
  split <;> simp_all

theorem resolve_part : (resolve w s l).Gives fun c => c.part = .ofVerb l.verb := by
  unfold resolve
  split <;> rename_i hv <;>
    simp [hv, Part.ofVerb, Verb.opensCondition, measureCondition, available, sentTunneller,
      creatureStat, computerPlan]

theorem resolve_levelVersion : (resolve w s l).Gives fun c =>
    ∀ version, c = .levelVersion version → l.verb = .levelVersion := by
  unfold resolve
  split <;> rename_i hv <;>
    simp [hv, measureCondition, available, sentTunneller, creatureStat, computerPlan]

theorem resolve_nextReusable : (resolve w s l).Gives fun c =>
    c = .nextReusable → l.verb = .nextCommandReusable := by
  unfold resolve
  split <;> rename_i hv <;>
    simp [hv, measureCondition, available, sentTunneller, creatureStat, computerPlan]

/-- A setup order comes of the verbs that prepare a level, or of the preloaded swap. -/
theorem resolve_setup : (resolve w s l).Gives fun c =>
    ∀ order, c = .setup order → l.verb.prepares = true ∨ l.verb = .swapCreature := by
  unfold resolve
  split <;> rename_i hv <;>
    simp [hv, Verb.prepares, measureCondition, available, sentTunneller, creatureStat, computerPlan]

/-! ## Parties behind a command -/

/-- The party a command spawns is one of the first `n`, if it spawns one. -/
def PartyBelow (n : Nat) : Command → Prop
  | .spawn s => ∀ id, s.party? = some id → id < n
  | .tunneller t => ∀ id, t.party = some id → id < n
  | _ => True

theorem party_lt {name : String} {id : Nat} (h : (party s name).outcome = .ok id) :
    id < s.parties.length := by
  have found : s.findParty? name = some id := ofOption_eq_ok.1 h
  exact (List.findIdx?_eq_some_iff_getElem.1 found).1

theorem partyBehind_lt {name : String} {id : Nat} (h : (partyBehind s name).outcome = .ok id) :
    id < s.parties.length := by
  simp only [partyBehind, outcome_bind_eq_ok] at h
  obtain ⟨found, here, _, _, same⟩ := h
  obtain rfl := Except.ok.inj same
  exact party_lt s here

theorem sentTunneller_partyBelow (withParty : Bool) :
    (sentTunneller w s l withParty).Gives (PartyBelow s.parties.length) := by
  cases withParty with
  | false => simp [sentTunneller, PartyBelow]
  | true =>
    simp only [sentTunneller, if_true, gives_bind, gives_pure, PartyBelow]
    intro _ _ _ _ _ _ _ _ behind found id same
    subst same
    obtain ⟨id', here, same⟩ := outcome_bind_eq_ok.1 found
    obtain rfl := Option.some.inj (Except.ok.inj same)
    exact partyBehind_lt s here

theorem resolve_partyBelow : (resolve w s l).Gives (PartyBelow s.parties.length) := by
  cases hv : l.verb with
  | addPartyToLevel =>
    simp only [resolve, hv, gives_bind, gives_pure, PartyBelow, Spawn.party?]
    intro _ _ _ _ _ _ id here id' same
    obtain rfl := Option.some.inj same
    exact party_lt s here
  | addTunnellerToLevel =>
    simp only [resolve, hv]
    exact sentTunneller_partyBelow w s l false
  | addTunnellerPartyToLevel =>
    simp only [resolve, hv]
    exact sentTunneller_partyBelow w s l true
  | _ =>
    simp [resolve, hv, PartyBelow, Spawn.party?, measureCondition, available, creatureStat,
      computerPlan]

/-! ## Quick texts -/

theorem within_quickText (v : Int) : (within .quickMessage 0 (quickTextCount - 1) v).outcome =
    if 0 ≤ v ∧ v < quickTextCount then .ok () else .error (.outOfRange .quickMessage v) := by
  unfold within Reading.require
  by_cases h : 0 ≤ v ∧ v < quickTextCount
  · have inRange : (decide (0 ≤ v) && decide (v ≤ quickTextCount - 1)) = true := by
      simp only [Bool.and_eq_true, decide_eq_true_eq]
      omega
    rw [if_pos h, inRange]
    rfl
  · have outOfRange : ¬(decide (0 ≤ v) && decide (v ≤ quickTextCount - 1)) = true := by
      simp only [Bool.and_eq_true, decide_eq_true_eq]
      omega
    rw [if_neg h, if_neg outOfRange]
    rfl

/-- A quick message sets its text once its number is found to be one of a quick text,
    whatever comes of it. -/
theorem quickText_texts (withPos : Bool) : (quickText w s l withPos).texts =
    if 0 ≤ l.number 0 ∧ l.number 0 < quickTextCount then [((l.number 0).toNat, l.word 1)]
    else [] := by
  have number := within_quickText (l.number 0)
  by_cases inRange : 0 ≤ l.number 0 ∧ l.number 0 < quickTextCount
  · rw [if_pos inRange] at number ⊢
    unfold quickText
    rw [texts_bind number, texts_of_plain (within_plain _ _ _ _)]
    simp [Aside.text?, texts_of_plain]
  · rw [if_neg inRange] at number ⊢
    unfold quickText
    rw [texts_bind_of_fault number, texts_of_plain (within_plain _ _ _ _)]

theorem resolve_texts : (resolve w s l).texts = l.quickText?.toList := by
  cases hv : l.verb with
  | quickObjective | quickObjectiveWithPos | quickInformation | quickInformationWithPos =>
    have same : (resolve w s l).texts = (quickText w s l (l.verb = .quickObjectiveWithPos ∨
        l.verb = .quickInformationWithPos)).texts := by
      simp only [resolve, hv]
      exact texts_bind_plain _ fun _ => says_pure _
    rw [same, quickText_texts]
    simp only [ScriptLine.quickText?, hv, Verb.setsText, true_and]
    split <;> rfl
  | _ =>
    have plain : l.verb.setsText = false := by rw [hv]; rfl
    rw [texts_of_plain (resolve_plain w s l plain)]
    simp [ScriptLine.quickText?, plain]

def NoPlace (f : Fault) : Prop := (∃ n, f = .noActionPoint n) ∨ ∃ n, f = .noHeroGate n

theorem placeAt_fails (i : Nat) : (placeAt w l i).Fails NoPlace := by
  unfold placeAt place
  split
  · split
    · simp
    · simp
    · split
      · simp
      · split
        · simp
        · simp [numberedPlace, NoPlace]
  · simp

/-- A line that has set a quick text shows it, unless it names a place there is not. -/
theorem resolve_of_quickText? {t : Nat × String} (h : l.quickText? = some t) :
    (resolve w s l).Fails NoPlace ∧ (resolve w s l).Gives fun c => ∃ e, c = .effect e := by
  unfold ScriptLine.quickText? at h
  split at h
  · rename_i quick
    obtain ⟨sets, inRange⟩ := quick
    have number := within_quickText (l.number 0)
    rw [if_pos inRange] at number
    have fails : ∀ withPos, (quickText w s l withPos).Fails NoPlace := by
      intro withPos
      have ranged : (within .quickMessage 0 (quickTextCount - 1) (l.number 0)).Fails NoPlace := by
        intro f failed
        rw [number] at failed
        cases failed
      unfold quickText
      rw [fails_bind]
      refine ⟨ranged, fun _ _ => ?_⟩
      simp [placeAt_fails]
    cases hv : l.verb with
    | quickObjective | quickObjectiveWithPos | quickInformation | quickInformationWithPos =>
      simp [resolve, hv, fails]
    | _ =>
      rw [hv] at sets
      cases sets
  · cases h

end Command

end DungeonScript

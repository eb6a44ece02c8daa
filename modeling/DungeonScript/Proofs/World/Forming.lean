import DungeonScript.Proofs.Command
import DungeonScript.Proofs.World.Tunnelling

/-!
Which groups are formed. `Forms P w w'` says that the groups of `w` are still there in `w'` as
they were, and that those after them have the property. A spawned party is one group a copy, at
most (`spawn_forms`), a tunneller one with the party behind it (`sendOut_forms`), and nothing
else that fires forms any. All that are to be in a group are, unless there are no numbers left for
the rest of them (`Group.Gathers`). `Script.turn_forms` puts this together for a turn of a script.
-/

namespace DungeonScript

/-- All `k` creatures that are to be in a group are, or only the first of them, up to one that has
    got the last number there is. -/
def Group.Gathers (grp : Group) (k : Nat) : Prop :=
  grp.members.length = k ∨ grp.members.length < k ∧ creatureNumbers - 1 ∈ grp.members

namespace World

/-! ## New groups -/

/-- `w'` has the groups of `w` as they were, and after them new ones that have the property. -/
def Forms (P : Group → Prop) (w w' : World) : Prop :=
  ∃ formed : List Group, w'.groups.toList = w.groups.toList ++ formed ∧ ∀ grp ∈ formed, P grp

section Forms

variable {P Q : Group → Prop} {a b c w w' : World}

theorem forms_of_same (same : w'.groups = w.groups) : Forms P w w' :=
  ⟨[], by rw [same, List.append_nil], List.forall_mem_nil _⟩

theorem forms_of_push {grp : Group} (made : w'.groups = w.groups.push grp) (has : P grp) :
    Forms P w w' :=
  ⟨[grp], by rw [made, Array.toList_push], List.forall_mem_singleton.2 has⟩

theorem Forms.trans (first : Forms P a b) (later : Forms P b c) : Forms P a c := by
  obtain ⟨formed, groups, has⟩ := first
  obtain ⟨formed', groups', has'⟩ := later
  refine ⟨formed ++ formed', ?_, List.forall_mem_append.2 ⟨has, has'⟩⟩
  rw [groups', groups, List.append_assoc]

theorem Forms.mono (forms : Forms P w w') (imp : ∀ grp, P grp → Q grp) : Forms Q w w' := by
  obtain ⟨formed, groups, has⟩ := forms
  exact ⟨formed, groups, fun grp here => imp grp (has grp here)⟩

theorem forms_peopled {born : List Creature} {formed : List Group} {owner : Player}
    (has : ∀ grp ∈ formed, P grp) : Forms P w (w.peopled born formed owner) :=
  ⟨formed, Array.toList_append, has⟩

end Forms

theorem gathers_of_mem_formation {w : World} {ms : List Member} {leader : Nat} {grp : Group}
    (here : grp ∈ formation (ms.take w.room) leader w.creatures.size) : grp.Gathers ms.length := by
  unfold formation at here
  split at here
  · rename_i many
    obtain rfl := List.mem_singleton.1 here
    rw [List.length_take] at many
    unfold Group.Gathers
    rw [List.length_range', List.length_take, List.mem_range'_1]
    unfold room at many ⊢
    omega
  · cases here

theorem spawnMembers_forms (owner : Player) (place : Place) (ms : List Member) (w : World) :
    Forms (·.Gathers ms.length) w (spawnMembers owner place ms none none w).value.1 := by
  cases admits : w.admits place with
  | true =>
    rw [spawnMembers_world owner place admits]
    exact forms_peopled fun _ here => gathers_of_mem_formation here
  | false =>
    rw [spawnMembers_of_nobody owner (.inl admits)]
    exact forms_of_same rfl

theorem spawnParty_forms (party : Party) (owner : Player) (place : Place) :
    ∀ (copies : Nat) (w : World), Forms (·.Gathers party.members.length) w
      (spawnParty party owner place copies w).value.1
  | 0, _ => forms_of_same rfl
  | 1, w => spawnMembers_forms owner place party.members w
  | copies + 2, w => by
    rw [spawnParty, Logged.value_bind]
    · exact (spawnMembers_forms owner place party.members w).trans
        (spawnParty_forms party owner place (copies + 1) _)
    · omega

theorem spawnCopies_groups (owner : Player) (kind : Nat) (place : Place) (gold : Int)
    (level copies : Nat) (w : World) :
    (spawnCopies owner kind place gold level copies w).value.groups = w.groups := by
  induction copies generalizing w with
  | zero => rfl
  | succ copies ih =>
    rw [spawnCopies, Logged.value_bind, ih]
    exact w.spawnCreature_groups owner kind place gold level

/-- The groups that a spawn forms are those of its party. -/
theorem spawn_forms (parties : List Party) (s : Spawn) (w : World) :
    Forms (fun grp => ∃ id party, s.party? = some id ∧ parties[id]? = some party ∧
      grp.Gathers party.members.length) w (spawn parties s w).value := by
  unfold spawn Spawn.party?
  cases s.brood with
  | party id copies =>
    simp only
    cases found : parties[id]? with
    | some party =>
      refine Forms.mono (spawnParty_forms party s.owner s.place copies.toNat w) fun grp gathers => ?_
      exact ⟨id, party, rfl, found, gathers⟩
    | none => exact forms_of_same rfl
  | creatures kind level gold copies => exact forms_of_same (spawnCopies_groups ..)

/-- The group that a tunneller forms has one creature more than follow it. -/
theorem sendOut_forms (parties : List Party) (t : Tunneller) (w : World) :
    Forms (fun grp => 0 < followers parties t ∧ grp.Gathers (followers parties t + 1)) w
      (sendOut parties t w).value := by
  have groups := sendOut_groups parties t w
  simp only at groups
  split at groups
  · rename_i h
    obtain ⟨_, follow⟩ := h
    refine forms_of_push groups ⟨by omega, ?_⟩
    unfold Group.Gathers
    rw [List.length_append, List.length_range', List.length_singleton, List.mem_append,
      List.mem_range'_1, List.mem_singleton]
    unfold room at follow ⊢
    omega
  · exact forms_of_same groups

end World

theorem Effect.apply_groups (s : Script) (e : Effect) (w : World) :
    (e.apply s w).value.groups = w.groups :=
  Effect.apply_keeps (k := World.groups) (fun _ _ _ _ => rfl) (fun _ _ _ => rfl)
    (fun _ _ _ _ _ _ _ _ => rfl) s w

theorem World.groups_pronounce (w : World) (v : Verdict) (p : Nat) :
    (w.pronounce v p).groups = w.groups :=
  pronounce_keeps (k := groups) (fun _ _ _ => rfl) w v p

open World in
/-- What fires forms no groups but those that each entry forms on its own. -/
theorem Gated.fireAll_forms {α : Type} {P : Group → Prop} {conditions : List Condition}
    {act : α → World → Logged World} (xs : List (Gated α))
    (each : ∀ e ∈ xs, e.fires conditions = true → ∀ w, Forms P w (act e.item w).value) (w : World) :
    Forms P w (fireAll conditions act xs w).value := by
  induction xs generalizing w with
  | nil => exact forms_of_same rfl
  | cons e rest ih =>
    obtain ⟨first, later⟩ := List.forall_mem_cons.1 each
    rw [fireAll]
    split
    · rename_i fires
      exact (first fires w).trans (ih later _)
    · exact ih later w

def Script.membersOf (s : Script) (id : Nat) : List Member :=
  ((s.parties[id]?).map (·.members)).getD []

/-- The group is of a party that a spawn brings, or of a tunneller with the party behind it; and
    the spawn or tunneller is one of those that fire. -/
def Script.FormedBy (s : Script) (conditions : List Condition) (grp : Group) : Prop :=
  (∃ e ∈ s.spawns, e.fires conditions = true ∧ ∃ id, e.item.party? = some id ∧
    grp.Gathers (s.membersOf id).length) ∨
  ∃ e ∈ s.tunnellers, e.fires conditions = true ∧ ∃ id, e.item.party = some id ∧
    grp.Gathers ((s.membersOf id).length + 1)

theorem Script.followers_eq {s : Script} {t : Tunneller} {id : Nat} (behind : t.party = some id) :
    World.followers s.parties t = (s.membersOf id).length := by
  unfold World.followers membersOf
  rw [behind, Option.bind_some]
  cases s.parties[id]? <;> rfl

theorem Script.party_of_followers {s : Script} {t : Tunneller}
    (some_ : 0 < World.followers s.parties t) : ∃ id, t.party = some id := by
  cases behind : t.party with
  | none =>
    unfold World.followers at some_
    rw [behind] at some_
    cases some_
  | some id => exact ⟨id, rfl⟩

open World in
theorem Script.turn_forms (s : Script) (w : World) :
    Forms (s.FormedBy (swept w s.conditions)) w (s.turn w).value.2 := by
  -- entries fire by the conditions as the sweep has left them, shelf after shelf
  let conditions := swept w s.conditions
  have spawns : ∀ w', Forms (s.FormedBy conditions) w'
      (Gated.fireAll conditions (World.spawn s.parties) s.spawns w').value := by
    refine Gated.fireAll_forms s.spawns fun e here fires w' => ?_
    refine (spawn_forms s.parties e.item w').mono fun grp formed => ?_
    obtain ⟨id, party, brings, found, gathers⟩ := formed
    refine .inl ⟨e, here, fires, id, brings, ?_⟩
    rw [membersOf, found]
    exact gathers
  have tunnellers : ∀ w', Forms (s.FormedBy conditions) w'
      (Gated.fireAll conditions (World.sendOut s.parties) s.tunnellers w').value := by
    refine Gated.fireAll_forms s.tunnellers fun e here fires w' => ?_
    refine (sendOut_forms s.parties e.item w').mono fun grp formed => ?_
    obtain ⟨id, behind⟩ := s.party_of_followers formed.1
    refine .inr ⟨e, here, fires, id, behind, ?_⟩
    rw [← s.followers_eq behind]
    exact formed.2
  have effects : ∀ w', Forms (s.FormedBy conditions) w'
      (Gated.fireAll conditions (Effect.apply s) s.effects w').value := fun w' =>
    Gated.fireAll_forms s.effects (fun e _ _ w => forms_of_same (Effect.apply_groups s e.item w)) w'
  have counted : Forms (s.FormedBy conditions) w
      (w.countReadings (sweep w s.conditions).value.readings) := forms_of_same rfl
  have fired := ((counted.trans (spawns _)).trans (tunnellers _)).trans (effects _)
  exact fired.trans (forms_of_same (giveVerdicts_keeps groups_pronounce _ _))

end DungeonScript

import DungeonScript.World.Changing

/-!
Setup orders, and what is left when one fails. Most orders are looked at before anything
is changed. Those that alter the plans of computer players are not: whether there is a
plan of the name is known only once every player has been gone through. The walk leaves
every plan of the name with new numbers (`alterPlans_eq`); one that meets no plan of the
name has changed nothing on its way (`alterPlans_of_none`). So an order that fails leaves
the world as it was (`Setup.apply_left`).
-/

namespace DungeonScript

section Plans

variable (sort : PlanSort) (name : String) (values : List Int)

theorem Computer.plans_withPlans (c : Computer) (ps : List Plan) :
    (c.withPlans sort ps).plans sort = ps := by
  cases sort <;> rfl

theorem Computer.withPlans_plans (c : Computer) : c.withPlans sort (c.plans sort) = c := by
  cases sort <;> rfl

theorem Computer.matching_setPlan (c : Computer) :
    (c.setPlan sort name values).matching sort name = c.matching sort name := by
  unfold Computer.matching Computer.setPlan
  rw [plans_withPlans, List.countP_map]
  refine List.countP_congr fun p _ => ?_
  simp only [Function.comp_apply]
  split <;> exact Iff.rfl

theorem Computer.setPlan_of_none {c : Computer} (h : c.matching sort name = 0) :
    c.setPlan sort name values = c := by
  unfold Computer.matching at h
  have other := List.countP_eq_zero.1 h
  have same : ((c.plans sort).map fun p => if sameWord p.name name then { p with values } else p) =
      (c.plans sort).map id := by
    refine List.map_congr_left fun p hp => ?_
    rw [if_neg (other p hp)]
    rfl
  unfold Computer.setPlan
  rw [same, List.map_id, withPlans_plans]

theorem Realm.matchingPlans_setPlan (r : Realm) :
    (r.setPlan sort name values).matchingPlans sort name = r.matchingPlans sort name := by
  unfold Realm.matchingPlans Realm.setPlan
  cases r.computer with
  | none => rfl
  | some c => exact c.matching_setPlan sort name values

theorem Realm.setPlan_of_none {r : Realm} (h : r.matchingPlans sort name = 0) :
    r.setPlan sort name values = r := by
  unfold Realm.matchingPlans at h
  unfold Realm.setPlan
  cases hc : r.computer with
  | none => rw [Option.map_none, ← hc]
  | some c =>
    rw [hc] at h
    rw [Option.map_some, Computer.setPlan_of_none sort name values h, ← hc]

namespace World

theorem onRealm_eq_self {w : World} {p : Player} {f : Realm → Realm}
    (h : f (w.realm p) = w.realm p) : w.onRealm p f = w := by
  have same : updateAt w.realms p f = w.realms := by
    apply Vector.ext
    intro i hi
    rw [getElem_updateAt]
    split
    · rename_i here
      subst here
      exact h
    · rfl
  unfold onRealm
  rw [same]

theorem matchingPlans_onRealm (w : World) (p q : Player) :
    ((w.onRealm p (Realm.setPlan sort name values)).realm q).matchingPlans sort name =
      (w.realm q).matchingPlans sort name := by
  by_cases h : p = q
  · subst h
    rw [realm_onRealm_self, Realm.matchingPlans_setPlan]
  · rw [realm_onRealm_of_ne w _ h]

/-- The walk counts the plans there were and leaves every player with altered plans. -/
theorem alterPlans_eq (players : List Player) (n : Nat) (w : World) :
    w.alterPlans sort name values players n =
      ((players.map fun p => (w.realm p).matchingPlans sort name).foldl (· + ·) n,
        w.onEach players (Realm.setPlan sort name values)) := by
  induction players generalizing n w with
  | nil => rfl
  | cons p rest ih =>
    rw [alterPlans, ih]
    simp only [matchingPlans_onRealm]
    rfl

theorem le_alterPlans (players : List Player) (n : Nat) (w : World) :
    n ≤ (w.alterPlans sort name values players n).1 := by
  induction players generalizing n w with
  | nil => exact Nat.le_refl n
  | cons p rest ih => exact Nat.le_trans (Nat.le_add_right n _) (ih _ _)

/-- A walk that meets no plan of the name changes nothing on its way. -/
theorem alterPlans_of_none {players : List Player} {n : Nat} {w : World}
    (none : (w.alterPlans sort name values players n).1 = 0) :
    (w.alterPlans sort name values players n).2 = w := by
  induction players generalizing n w with
  | nil => rfl
  | cons p rest ih =>
    have counted : n + (w.realm p).matchingPlans sort name ≤ 0 :=
      none ▸ le_alterPlans sort name values rest _ _
    have here : (w.realm p).matchingPlans sort name = 0 := by omega
    have later : (w.alterPlans sort name values (p :: rest) n).2 =
        w.onRealm p (Realm.setPlan sort name values) := ih none
    rw [later]
    exact onRealm_eq_self (Realm.setPlan_of_none sort name values here)

end World

/-- The order is the walk; it fails where no plan was met, with what the walk has left. -/
theorem Setup.apply_computerPlan (players : Selector) (w : World) :
    ((Setup.computerPlan sort players name values).apply w).value =
      let walked := w.alterPlans sort name values players.everyone 0
      if walked.1 = 0 then .failed (.noPlan sort name) walked.2 else .done walked.2 := by
  simp only [Setup.apply]
  split
  · rename_i met
    rw [met]
    rfl
  · rename_i count w' some met
    rw [met, if_neg some]
    rfl

end Plans

/-- A setup order that fails has changed nothing. -/
theorem Setup.apply_left {order : Setup} {w : World} {f : Fault}
    (failed : (order.apply w).value.fault = some f) : (order.apply w).value.left = w := by
  cases order with
  | computerPlan sort players name values =>
    rw [Setup.apply_computerPlan] at failed ⊢
    by_cases none : (w.alterPlans sort name values players.everyone 0).1 = 0
    · rw [if_pos none]
      exact World.alterPlans_of_none sort name values none
    · rw [if_neg none] at failed
      cases failed
  | swapCreature slot kind =>
    simp only [Setup.apply] at failed ⊢
    split at failed
    · cases failed
    · rename_i beyond
      rw [if_neg beyond]
      rfl
  | startMoney ps amount => cases failed
  | computerPlayer ps model => cases failed
  | music track => cases failed
  | computerGlobals ps values => cases failed

end DungeonScript

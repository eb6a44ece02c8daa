import DungeonScript.World

/-!
The machine. The definitions of the game compute with numbers of any size, and an index comes
with the reason why it is good. The machine is the same program as it is run: a number has 64
bits, an index is looked at when it is used, and what goes wrong is a `Crash` that ends
everything. Its functions are written out wherever an index is used or a number is added to,
subtracted from, negated, divided or counted up. Where sums stop at the ends of their range and a
lookup may find nothing, nothing can go wrong, and the machine takes the definition as it stands;
notes for the journal it leaves out.

For every function of the machine there is an equation that says that it comes to what the
definition comes to, and so does not crash. This module has the operations that can crash, and
when they do not.
-/

namespace DungeonScript

/-- How a program breaks down. -/
inductive Crash where
  /-- An index past the end of a list, or a text cut anywhere but between characters. -/
  | outOfBounds
  /-- A number that its type cannot hold. -/
  | overflow
  /-- A division by 0. -/
  | zeroDivisor
  deriving Repr, DecidableEq

/-- What an operation comes to, unless the program breaks down. -/
abbrev Checked := Except Crash

namespace Machine

variable {α β : Type} {n : Nat}

@[simp] theorem pure_eq_ok (a : α) : (pure a : Checked α) = .ok a := rfl

@[simp] theorem ok_bind (a : α) (f : α → Checked β) : (Except.ok a : Checked α) >>= f = f a := rfl

@[simp] theorem ok_map (a : α) (f : α → β) : f <$> (Except.ok a : Checked α) = .ok (f a) := rfl

/-! ## Numbers -/

/-- The result of an operation on numbers with a sign. -/
def signed (v : Int) : Checked Int := if InRange v then .ok v else .error .overflow

/-- The numbers that a counter can hold: 64 bits without a sign. -/
abbrev counterEnd : Nat := 18446744073709551616

def counter (v : Nat) : Checked Nat := if v < counterEnd then .ok v else .error .overflow

def minus (a b : Nat) : Checked Nat := if b ≤ a then .ok (a - b) else .error .overflow

/-- The quotient of two numbers with a sign. Of the least number and -1 there is none. -/
def quotient (a b : Int) : Checked Int :=
  if b = 0 then .error .zeroDivisor
  else if a = leastNumber ∧ b = -1 then .error .overflow
  else .ok (a.tdiv b)

def remainder (a b : Nat) : Checked Nat := if b = 0 then .error .zeroDivisor else .ok (a % b)

/-- The remainder of two numbers with a sign that is not below 0. -/
def remainderInt (a b : Int) : Checked Int :=
  if b = 0 then .error .zeroDivisor
  else if a = leastNumber ∧ b = -1 then .error .overflow
  else .ok (a % b)

theorem inRange_iff {v : Int} :
    InRange v ↔ -9223372036854775808 ≤ v ∧ v ≤ 9223372036854775807 := Iff.rfl

theorem signed_eq {v : Int} (h : InRange v) : signed v = .ok v := if_pos h

theorem counter_eq {v : Nat} (h : v < counterEnd) : counter v = .ok v := if_pos h

theorem minus_eq {a b : Nat} (h : b ≤ a) : minus a b = .ok (a - b) := if_pos h

/-! ## Indices -/

def found : Option α → Checked α
  | some a => .ok a
  | none => .error .outOfBounds

@[simp] theorem found_some (a : α) : found (some a) = .ok a := rfl

def slot (n i : Nat) : Checked (Fin n) := if h : i < n then .ok ⟨i, h⟩ else .error .outOfBounds

@[simp] theorem slot_val (i : Fin n) : slot n i.val = .ok i := dif_pos i.isLt

/-- The slot of a table that a number falls on, when it is wrapped around at the end. -/
def wrapped (n i : Nat) : Checked (Fin n) := do slot n (← remainder i n)

theorem wrapped_eq (h : 0 < n) (i : Nat) : wrapped n i = .ok (slotOf h i) := by
  have divides : n ≠ 0 := by omega
  unfold wrapped remainder
  rw [if_neg divides]
  exact slot_val (slotOf h i)

/-- A step that needs no more than the slot of a wrapped number does not crash. -/
theorem wrapped_bind (h : 0 < n) (i : Nat) (f : Fin n → α) :
    (wrapped n i >>= fun slot => pure (f slot)) = .ok (f (slotOf h i)) := by
  rw [wrapped_eq h]
  rfl

/-- The slot of a table that a number with a sign falls on. -/
def wrappedInt (n : Nat) (i : Int) : Checked (Fin n) := do slot n (← remainderInt i n).toNat

theorem wrappedInt_eq (h : 0 < n) (i : Int) : wrappedInt n i = .ok (slotOfInt h i) := by
  have divides : (n : Int) ≠ 0 := by omega
  have positive : ¬(i = leastNumber ∧ (n : Int) = -1) := by omega
  have least : 0 ≤ i % n := Int.emod_nonneg i divides
  have below : i % n < n := Int.emod_lt_of_pos i (by omega)
  unfold wrappedInt remainderInt
  rw [if_neg divides, if_neg positive]
  have inside : (i % n).toNat < n := by omega
  have same : slotOfInt h i = ⟨(i % n).toNat, inside⟩ := Fin.ext (Nat.mod_eq_of_lt inside)
  rw [same]
  exact slot_val ⟨(i % n).toNat, inside⟩

def setAt (xs : List α) (i : Nat) (x : α) : Checked (List α) :=
  if i < xs.length then .ok (xs.set i x) else .error .outOfBounds

theorem found_append (xs ys : List α) (x : α) : found (xs ++ x :: ys)[xs.length]? = .ok x := by
  rw [List.getElem?_append_right (Nat.le_refl _), Nat.sub_self]
  rfl

theorem setAt_append (xs ys : List α) (x y : α) :
    setAt (xs ++ x :: ys) xs.length y = .ok (xs ++ y :: ys) := by
  unfold setAt
  rw [if_pos (by simp), List.set_append_right _ _ (Nat.le_refl _), Nat.sub_self]
  rfl

/-- The list with the entry at an index changed. -/
def modifyAt (xs : Array α) (i : Nat) (f : α → α) : Checked (Array α) :=
  if i < xs.size then .ok (xs.modify i f) else .error .outOfBounds

theorem modifyAt_eq {xs : Array α} {i : Nat} (h : i < xs.size) (f : α → α) :
    modifyAt xs i f = .ok (xs.modify i f) := if_pos h

/-! ## Players -/

/-- The players that a command or a condition goes through, by number. -/
def players (allEnd : Nat) (s : Selector) : List Nat :=
  List.range' (s.bounds allEnd).1 ((s.bounds allEnd).2 - (s.bounds allEnd).1)

theorem players_eq (allEnd : Nat) (s : Selector) :
    players allEnd s = (s.players allEnd).map Fin.val := by
  have span : ∀ lo ≤ playerCount, ∀ hi ≤ playerCount, List.range' lo (hi - lo) =
      ((List.finRange playerCount).filter fun p => lo ≤ p.val && p.val < hi).map Fin.val := by
    decide
  cases s with
  | one slot => exact span _ (Nat.min_le_right ..) _ (Nat.min_le_right ..)
  | all => exact span _ (Nat.zero_le _) _ (Nat.min_le_right ..)

def firstPlayers (n : Nat) : Checked (List Player) :=
  if n ≤ playerCount then .ok ((List.finRange playerCount).take n) else .error .outOfBounds

theorem firstPlayers_heroes : firstPlayers heroes.val = .ok World.keepers := rfl

def forPlayers (step : Nat → World → Checked World) (players : List Nat) (w : World) :
    Checked World :=
  players.foldlM (fun w p => step p w) w

/-- Steps that do not crash in worlds that are as they should be do not crash in a row, if they
    leave worlds as they should be. -/
theorem forPlayers_eq {step : Nat → World → Checked World} {f : Player → World → World}
    (I : World → Prop) (each : ∀ p w, I w → step p.val w = .ok (f p w) ∧ I (f p w))
    (players : List Player) {w : World} (start : I w) :
    forPlayers step (players.map Fin.val) w = .ok (players.foldl (fun w p => f p w) w) := by
  induction players generalizing w with
  | nil => rfl
  | cons p rest ih =>
    obtain ⟨stepped, kept⟩ := each p w start
    simp only [forPlayers, List.map_cons, List.foldlM_cons, stepped, ok_bind, List.foldl_cons]
    exact ih kept

/-- A player's realm changed; the player goes by number. -/
def onRealm (f : Realm → Checked Realm) (p : Nat) (w : World) : Checked World := do
  let p ← slot playerCount p
  let realm ← f (w.realm p)
  return w.onRealm p fun _ => realm

theorem onRealm_eq {f : Realm → Checked Realm} {g : Realm → Realm} (each : ∀ r, f r = .ok (g r))
    (p : Player) (w : World) : onRealm f p.val w = .ok (w.onRealm p g) := by
  unfold onRealm
  rw [slot_val, ok_bind, each]
  rfl

/-- A change to realms that does not crash does not crash for several players. -/
theorem onEach_eq {f : Realm → Checked Realm} {g : Realm → Realm} (each : ∀ r, f r = .ok (g r))
    (players : List Player) (w : World) :
    forPlayers (onRealm f) (players.map Fin.val) w = .ok (w.onEach players g) :=
  forPlayers_eq (fun _ => True) (fun p w _ => ⟨onRealm_eq each p w, trivial⟩) players trivial

end Machine

end DungeonScript

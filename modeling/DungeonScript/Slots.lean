/-!
Tables. A table of fixed size has one entry per slot; a number beyond the last
slot wraps around to one of them. A catalogue keeps entries under numbers of any
size and has an entry only where one was put.
-/

namespace DungeonScript

/-! ## Tables of fixed size -/

/-- The slot a number falls on in a table of `n` slots. -/
abbrev slotOf {n : Nat} (h : 0 < n) (i : Nat) : Fin n := ⟨i % n, Nat.mod_lt i h⟩

/-- The slot a number with a sign falls on; -1 is the last slot. -/
def slotOfInt {n : Nat} (h : 0 < n) (i : Int) : Fin n := slotOf h (i % n).toNat

/-- The table with the entry in slot `i` changed by `f`. -/
def updateAt {α : Type} {n : Nat} (t : Vector α n) (i : Fin n) (f : α → α) : Vector α n :=
  t.set i (f t[i])

theorem getElem_updateAt {α : Type} {n : Nat} (t : Vector α n) (i : Fin n) (f : α → α)
    (j : Nat) (hj : j < n) : (updateAt t i f)[j] = if i.val = j then f t[j] else t[j] := by
  unfold updateAt
  rw [Vector.getElem_set]
  by_cases h : i.val = j
  · subst h; simp
  · simp [h]

theorem getElem_updateAt_self {α : Type} {n : Nat} (t : Vector α n) (i : Fin n) (f : α → α) :
    (updateAt t i f)[i.val] = f t[i.val] := by
  rw [getElem_updateAt, if_pos rfl]

theorem getElem_updateAt_of_ne {α : Type} {n : Nat} (t : Vector α n) {i : Fin n} {j : Nat}
    (f : α → α) (hj : j < n) (h : i.val ≠ j) : (updateAt t i f)[j] = t[j] := by
  rw [getElem_updateAt, if_neg h]

theorem updateAt_eq_self {α : Type} {n : Nat} {t : Vector α n} {i : Fin n} {f : α → α}
    (same : f t[i] = t[i]) : updateAt t i f = t := by
  rw [updateAt, same]
  exact Vector.set_getElem_self ..

theorem updateAt_updateAt {α : Type} {n : Nat} (t : Vector α n) (i : Fin n) (f g : α → α) :
    updateAt (updateAt t i f) i g = updateAt t i (g ∘ f) := by
  simp [updateAt]

/-! ## Catalogues -/

/-- Entries under numbers, each number at most once when built by `put`. -/
abbrev Catalogue (α : Type) := List (Nat × α)

namespace Catalogue

variable {α : Type}

def get? (c : Catalogue α) (k : Nat) : Option α := (c.find? (·.1 == k)).map (·.2)

/-- Whether there is an entry under number `k`. -/
def has (c : Catalogue α) (k : Nat) : Bool := (c.get? k).isSome

/-- The catalogue with `v` under number `k`, in the place of an older entry. -/
def put (c : Catalogue α) (k : Nat) (v : α) : Catalogue α :=
  match c with
  | [] => [(k, v)]
  | e :: rest => if e.1 == k then (k, v) :: rest else e :: put rest k v

theorem get?_put_self (c : Catalogue α) (k : Nat) (v : α) : (c.put k v).get? k = some v := by
  induction c with
  | nil => simp [put, get?]
  | cons e rest ih =>
    simp only [put]
    split
    · simp [get?]
    · rename_i h
      simpa [get?, List.find?_cons, h] using ih

theorem get?_put_of_ne (c : Catalogue α) {k j : Nat} (v : α) (h : k ≠ j) :
    (c.put k v).get? j = c.get? j := by
  induction c with
  | nil => simp [put, get?, h]
  | cons e rest ih =>
    simp only [put]
    split
    · rename_i he
      have hk : e.1 = k := by simpa using he
      have hj : (e.1 == j) = false := by simpa [hk] using h
      simp [get?, hj, beq_eq_false_iff_ne.2 h]
    · by_cases hj : (e.1 == j) = true
      · simp [get?, hj]
      · simpa [get?, List.find?_cons, hj] using ih

end Catalogue

end DungeonScript

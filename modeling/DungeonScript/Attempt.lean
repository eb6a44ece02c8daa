import DungeonScript.Fault

/-!
Attempts. An operation that can fail hands its subject back either way, together with
the fault if there is one. That a failed operation has left its subject alone is
nothing the type says: it is a fact about each operation.
-/

namespace DungeonScript

/-- What an operation leaves behind, and why it failed, if it did. -/
structure Attempt (α : Type) where
  left : α
  fault : Option Fault
  deriving Repr, DecidableEq

namespace Attempt

variable {α β : Type}

def done (a : α) : Attempt α := ⟨a, none⟩

def failed (f : Fault) (a : α) : Attempt α := ⟨a, some f⟩

/-- The same attempt, seen as one on something larger. -/
def map (f : α → β) (x : Attempt α) : Attempt β := ⟨f x.left, x.fault⟩

/-- What a done operation comes to. What a failed one leaves behind is out of sight. -/
def outcome (x : Attempt α) : Except Fault α :=
  match x.fault with
  | none => .ok x.left
  | some f => .error f

instance : Coe (Attempt α) (Except Fault α) := ⟨outcome⟩

@[simp] theorem left_done (a : α) : (done a).left = a := rfl

@[simp] theorem fault_done (a : α) : (done a).fault = none := rfl

@[simp] theorem left_failed (f : Fault) (a : α) : (failed f a).left = a := rfl

@[simp] theorem fault_failed (f : Fault) (a : α) : (failed f a).fault = some f := rfl

@[simp] theorem left_map (f : α → β) (x : Attempt α) : (x.map f).left = f x.left := rfl

@[simp] theorem fault_map (f : α → β) (x : Attempt α) : (x.map f).fault = x.fault := rfl

theorem done_inj {a b : α} (h : done a = done b) : a = b := congrArg left h

theorem failed_ne_done {f : Fault} {a b : α} : failed f a ≠ done b := nofun

theorem eq_done {x : Attempt α} (h : x.fault = none) : x = done x.left := by
  obtain ⟨a, fault⟩ := x
  obtain rfl : fault = none := h
  rfl

theorem map_eq_done {x : Attempt α} {f : α → β} {b : β} :
    x.map f = done b ↔ ∃ a, x = done a ∧ b = f a := by
  obtain ⟨a, fault⟩ := x
  cases fault <;> simp [map, done, eq_comm]

end Attempt

end DungeonScript

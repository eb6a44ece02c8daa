import DungeonScript.Journal

/-!
Reading with asides. Making sense of a script line can fail, and can say things on
the way: remarks for the author, notes for the journal, and the quick text a line
sets as soon as it is read. Of the world and of the rest of the store it asks questions
only. All it does is in its asides, up to where it fails, and these are carried out
whether it fails or not (`Game.hear`).
-/

namespace DungeonScript

/-- Something said while a line is read. -/
inductive Aside where
  | remark (r : Remark)
  | caution (c : Caution)
  /-- The line sets this quick text. -/
  | quickText (index : Nat) (text : String)
  deriving Repr, DecidableEq

/-- A reading that may fail, with its asides in order. -/
structure Reading (α : Type) where
  outcome : Except Fault α
  asides : List Aside

namespace Reading

variable {α β : Type}

instance : Monad Reading where
  pure a := ⟨.ok a, []⟩
  bind x f :=
    match x.outcome with
    | .error e => ⟨.error e, x.asides⟩
    | .ok a => ⟨(f a).outcome, x.asides ++ (f a).asides⟩

def fail (f : Fault) : Reading α := ⟨.error f, []⟩

def say (a : Aside) : Reading Unit := ⟨.ok (), [a]⟩

def remark (r : Remark) : Reading Unit := say (.remark r)

def ofOption (f : Fault) : Option α → Reading α
  | some a => pure a
  | none => fail f

/-- Nothing, or a failure where the condition does not hold. -/
def require (c : Bool) (f : Fault) : Reading Unit := if c then pure () else fail f

@[simp] theorem outcome_pure (a : α) : (pure a : Reading α).outcome = .ok a := rfl

@[simp] theorem asides_pure (a : α) : (pure a : Reading α).asides = [] := rfl

theorem bind_of_ok {x : Reading α} {f : α → Reading β} {a : α} (h : x.outcome = .ok a) :
    x >>= f = ⟨(f a).outcome, x.asides ++ (f a).asides⟩ := by
  simp only [Bind.bind, h]

theorem bind_of_error {x : Reading α} {f : α → Reading β} {e : Fault} (h : x.outcome = .error e) :
    x >>= f = ⟨.error e, x.asides⟩ := by
  simp only [Bind.bind, h]

theorem outcome_bind_eq_ok {x : Reading α} {f : α → Reading β} {b : β} :
    (x >>= f).outcome = .ok b ↔ ∃ a, x.outcome = .ok a ∧ (f a).outcome = .ok b := by
  cases h : x.outcome with
  | error e => simp [bind_of_error h]
  | ok a => simp [bind_of_ok h]

end Reading

end DungeonScript

import DungeonScript.Reading

/-!
Rules for readings. `Says P r` holds of a reading `r` if every aside of it has the property
`P`, the fault it ends with counting as a remark; `Gives Q r` holds if its value, when there
is one, has the property `Q`, and `Fails P r` if the fault it ends with does. Each way of
composing readings has a rule for these, so that a property of a long reading is checked where
its asides, its value and its faults are made. An aside that is `Plain` only tells; of all
asides a line can make, one alone does more, and sets a quick text (`Aside.text?`). What is
remarked on while the words of a line are read (`Remark.ofReading`) is told apart by its cause from
what is remarked on while sense is made of it (`Remark.ofMeaning`).
-/

namespace DungeonScript

/-- A result that is there, where faults cannot be compared. -/
theorem eq_ok_of_toOption {ε α : Type} {x : Except ε α} {a : α} (here : x.toOption = some a) :
    x = .ok a := by
  cases x with
  | error e => cases here
  | ok b => exact congrArg Except.ok (Option.some.inj here)

/-! ## Rules -/

namespace Reading

variable {α β : Type} {P : Aside → Prop}

/-- All that the reading says, its fault included, has the property. -/
def Says (P : Aside → Prop) (r : Reading α) : Prop :=
  (∀ f, r.outcome = .error f → P (.remark (.fault f))) ∧ ∀ a ∈ r.asides, P a

@[simp] theorem says_pure (a : α) : Says P (pure a) := by
  simp [Says]

@[simp] theorem says_bind {x : Reading α} {f : α → Reading β} :
    Says P (x >>= f) ↔ Says P x ∧ ∀ a, x.outcome = .ok a → Says P (f a) := by
  cases hx : x.outcome with
  | error e => simp [Says, bind_of_error hx, hx]
  | ok a =>
    simp only [Says, bind_of_ok hx, hx, List.mem_append, reduceCtorEq, false_implies, implies_true,
      true_and, Except.ok.injEq, forall_eq']
    constructor
    · intro h
      obtain ⟨hf, hm⟩ := h
      exact ⟨fun m h => hm m (.inl h), hf, fun m h => hm m (.inr h)⟩
    · intro h
      obtain ⟨hx, hf, hm⟩ := h
      exact ⟨hf, fun m h => h.elim (hx m) (hm m)⟩

@[simp] theorem says_map {x : Reading α} {f : α → β} : Says P (f <$> x) ↔ Says P x := by
  show Says P (x >>= fun a => pure (f a)) ↔ _
  simp

@[simp] theorem says_fail (f : Fault) : Says P (fail f : Reading α) ↔ P (.remark (.fault f)) := by
  simp [Says, fail]

@[simp] theorem says_say (a : Aside) : Says P (say a) ↔ P a := by
  simp [Says, say]

@[simp] theorem says_remark (m : Remark) : Says P (remark m) ↔ P (.remark m) := says_say _

@[simp] theorem says_ofOption {f : Fault} {o : Option α} :
    Says P (ofOption f o) ↔ (o = none → P (.remark (.fault f))) := by
  cases o <;> simp [ofOption]

@[simp] theorem says_require {c : Bool} {f : Fault} :
    Says P (require c f) ↔ (c = false → P (.remark (.fault f))) := by
  cases c <;> simp [require]

@[simp] theorem says_ite {c : Prop} [Decidable c] {x y : Reading α} :
    Says P (if c then x else y) ↔ (c → Says P x) ∧ (¬c → Says P y) := by
  by_cases h : c <;> simp [h]

/-- The value of the reading, if there is one, has the property. -/
def Gives (Q : α → Prop) (r : Reading α) : Prop := ∀ a, r.outcome = .ok a → Q a

variable {Q : α → Prop}

@[simp] theorem gives_pure (a : α) : Gives Q (pure a) ↔ Q a := by
  simp [Gives]

@[simp] theorem gives_bind {x : Reading β} {f : β → Reading α} :
    Gives Q (x >>= f) ↔ ∀ b, x.outcome = .ok b → Gives Q (f b) := by
  simp only [Gives, outcome_bind_eq_ok]
  constructor
  · intro h b hb a ha
    exact h a ⟨b, hb, ha⟩
  · intro h a ha
    obtain ⟨b, hb, ha⟩ := ha
    exact h b hb a ha

@[simp] theorem gives_ite {c : Prop} [Decidable c] {x y : Reading α} :
    Gives Q (if c then x else y) ↔ (c → Gives Q x) ∧ (¬c → Gives Q y) := by
  by_cases h : c <;> simp [h]

theorem ofOption_eq_ok {f : Fault} {o : Option α} {a : α} :
    (ofOption f o).outcome = .ok a ↔ o = some a := by
  cases o <;> simp [ofOption, fail]

theorem require_eq_ok {c : Bool} {f : Fault} {a : Unit} :
    (require c f).outcome = .ok a ↔ c = true := by
  cases c <;> simp [require, fail]

theorem gives_ofOption {f : Fault} {o : Option α} :
    Gives Q (ofOption f o) ↔ ∀ a, o = some a → Q a := by
  simp only [Gives, ofOption_eq_ok]

theorem gives_require {P : Unit → Prop} {c : Bool} {f : Fault} :
    Gives P (require c f) ↔ (c = true → P ()) := by
  simp only [Gives, require_eq_ok]
  exact ⟨fun h => h (), fun h _ => h⟩

/-- What is done with a value may count on what is known of it. -/
theorem Gives.bind {R : β → Prop} {x : Reading β} {f : β → Reading α} (first : Gives R x)
    (then_ : ∀ b, R b → Gives Q (f b)) : Gives Q (x >>= f) :=
  gives_bind.2 fun b found => then_ b (first b found)

theorem gives_say_bind {a : Aside} {y : Reading α} : Gives Q (say a >>= fun _ => y) ↔ Gives Q y :=
  ⟨fun h => gives_bind.1 h () rfl, fun h => gives_bind.2 fun _ _ => h⟩

/-- Whether something is remarked on makes no difference to what is read. -/
theorem gives_remarkIf {c : Prop} [Decidable c] {m : Remark} {y : Reading α} :
    Gives Q (if c then remark m >>= fun _ => y else y) ↔ Gives Q y := by
  split
  · exact gives_say_bind
  · exact Iff.rfl

theorem Gives.after {x : Reading β} {f : β → Reading α} (then_ : ∀ b, Gives Q (f b)) :
    Gives Q (x >>= f) := gives_bind.2 fun b _ => then_ b

end Reading

/-! ## Remarks about blocks -/

/-- A remark on how the blocks of a script open and close. -/
def Remark.onBlocks : Remark → Bool
  | .fault .unexpectedEndif | .missingEndif => true
  | _ => false

@[simp] theorem Remark.onBlocks_eq_false {m : Remark} (hf : m ≠ .fault .unexpectedEndif)
    (hm : m ≠ .missingEndif) : m.onBlocks = false := by
  unfold onBlocks
  split <;> simp_all

/-! ## Remarks of reading -/

/-- A remark that is made while the words of a line are read. -/
def Remark.ofReading : Remark → Bool
  | .oddBound _ | .oddNumber _ _ => true
  | .fault (.scan _) | .fault (.invalidCommand _ _) | .fault (.notEnoughParameters _) => true
  | _ => false

/-! ## Remarks on meaning -/

/-- A remark that is made while sense is made of a line. -/
def Remark.ofMeaning : Remark → Bool
  | .oddLevel _ _ | .oddSwap | .textTooLong | .textReplaced _ => true
  | .fault f => !(fault f).ofReading && !(fault f).onBlocks
  | _ => false

theorem Remark.eq_false_of_ofMeaning {m : Remark} (h : m.ofMeaning = true) :
    m.ofReading = false ∧ m.onBlocks = false := by
  cases m with
  | fault f => simpa only [ofMeaning, Bool.and_eq_true, Bool.not_eq_true'] using h
  | oddLevel | oddSwap | textTooLong | textReplaced => exact ⟨rfl, rfl⟩
  | _ => cases h

/-! ## Asides that only tell -/

namespace Aside

def remark? : Aside → Option Remark
  | .remark r => some r
  | _ => none

def text? : Aside → Option (Nat × String)
  | .quickText index text => some (index, text)
  | _ => none

/-- An aside that only tells: it sets no quick text and says nothing about blocks. -/
def Plain : Aside → Prop
  | .remark r => r.onBlocks = false
  | .caution _ => True
  | .quickText _ _ => False

@[simp] theorem plain_remark (r : Remark) : (remark r).Plain ↔ r.onBlocks = false := Iff.rfl

/-- An aside of reading: it sets no quick text, and remarks only on the words. -/
def OfReading : Aside → Prop
  | .remark r => r.ofReading = true
  | .caution _ => True
  | .quickText _ _ => False

/-- An aside that remarks on what the line means, if on anything. -/
def OfMeaning : Aside → Prop
  | .remark r => r.ofMeaning = true
  | .caution _ | .quickText _ _ => True

theorem OfReading.plain {a : Aside} (h : a.OfReading) : a.Plain := by
  cases a with
  | remark r =>
    refine Remark.onBlocks_eq_false (fun same => ?_) fun same => ?_
    · rw [same] at h
      cases h
    · rw [same] at h
      cases h
  | caution c => trivial
  | quickText index text => cases h

theorem Plain.text?_eq_none {a : Aside} (h : a.Plain) : a.text? = none := by
  cases a with
  | remark r => rfl
  | caution c => rfl
  | quickText index text => cases h

end Aside

namespace Reading

variable {α β : Type}

abbrev Plain (r : Reading α) : Prop := r.Says Aside.Plain

/-! ## Quick texts -/

/-- The quick texts that a reading sets, in order. -/
def texts (r : Reading α) : List (Nat × String) := r.asides.filterMap Aside.text?

theorem texts_of_plain {r : Reading α} (h : r.Plain) : r.texts = [] :=
  List.filterMap_eq_nil_iff.2 fun a ha => (h.2 a ha).text?_eq_none

theorem texts_bind {x : Reading α} {a : α} (hx : x.outcome = .ok a) (f : α → Reading β) :
    (x >>= f).texts = x.texts ++ (f a).texts := by
  rw [bind_of_ok hx]
  exact List.filterMap_append

theorem texts_bind_of_fault {x : Reading α} {e : Fault} (hx : x.outcome = .error e)
    (f : α → Reading β) : (x >>= f).texts = x.texts := by
  rw [bind_of_error hx]
  rfl

theorem texts_bind_plain (x : Reading α) {f : α → Reading β} (h : ∀ a, (f a).Plain) :
    (x >>= f).texts = x.texts := by
  cases hx : x.outcome with
  | error e => exact texts_bind_of_fault hx f
  | ok a => rw [texts_bind hx, texts_of_plain (h a), List.append_nil]

@[simp] theorem texts_ite {c : Prop} [Decidable c] {x y : Reading α} :
    (if c then x else y).texts = if c then x.texts else y.texts := by
  split <;> rfl

@[simp] theorem texts_say_bind (a : Aside) (f : Unit → Reading β) :
    (say a >>= f).texts = a.text?.toList ++ (f ()).texts := by
  have said : (say a).outcome = .ok () := rfl
  rw [texts_bind said]
  cases h : a.text? with
  | none => simp [texts, say, h]
  | some t => simp [texts, say, h]

@[simp] theorem texts_remark_bind (m : Remark) (f : Unit → Reading β) :
    (remark m >>= f).texts = (f ()).texts := texts_say_bind _ _

/-! ## Faults -/

/-- The faults the reading can end with have the property. -/
def Fails (P : Fault → Prop) (r : Reading α) : Prop := ∀ f, r.outcome = .error f → P f

variable {P : Fault → Prop}

@[simp] theorem fails_pure (a : α) : Fails P (pure a) := by
  simp [Fails]

@[simp] theorem fails_bind {x : Reading α} {f : α → Reading β} :
    Fails P (x >>= f) ↔ Fails P x ∧ ∀ a, x.outcome = .ok a → Fails P (f a) := by
  cases hx : x.outcome with
  | error e => simp [Fails, bind_of_error hx, hx]
  | ok a => simp [Fails, bind_of_ok hx, hx]

@[simp] theorem fails_fail (f : Fault) : Fails P (fail f : Reading α) ↔ P f := by
  simp [Fails, fail]

@[simp] theorem fails_say (a : Aside) : Fails P (say a) := by
  simp [Fails, say]

@[simp] theorem fails_remark (m : Remark) : Fails P (remark m) := fails_say _

@[simp] theorem fails_ite {c : Prop} [Decidable c] {x y : Reading α} :
    Fails P (if c then x else y) ↔ (c → Fails P x) ∧ (¬c → Fails P y) := by
  by_cases h : c <;> simp [h]

end Reading

end DungeonScript

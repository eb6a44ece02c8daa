import DungeonScript.Proofs.Command
import DungeonScript.Proofs.Game.Storing

/-!
What goes on record. The remarks that somebody asks about are picked out of the record of a game
(`said`). What a line does once it has been read remarks on its meaning, on a party that is known,
and on a command that has no effect any more; whoever asks about none of these finds the same as
before (`carryOut_said`), but for the fault that the line may end with.
-/

namespace DungeonScript

/-- A kind of remarks that is not made while a line is carried out. -/
structure Remark.Aloof (about : Remark → Bool) : Prop where
  meaning : ∀ {m : Remark}, m.ofMeaning = true → about m = false
  partyAgain : ∀ name, about (.partyAgain name) = false
  withoutEffect : ∀ keyword, about (.withoutEffect keyword) = false

namespace Game

variable {about : Remark → Bool} {g g' : Game}

/-- The remarks of one kind that are on record, with the lines they are about. -/
def said (about : Remark → Bool) (g : Game) : List Diagnostic :=
  g.progress.diagnostics.filter (about ·.remark)

theorem said_noted (about : Remark → Bool) (rs : List Remark) (g : Game) : (g.noted rs).said about =
    g.said about ++ (rs.filter about).map (⟨g.progress.line, ·⟩) := by
  unfold said noted
  simp only [List.filter_append, List.filter_map]
  rfl

theorem said_report (about : Remark → Bool) (r : Remark) (g : Game) : (g.report r).value.said about =
    g.said about ++ if about r then [⟨g.progress.line, r⟩] else [] := by
  refine (said_noted about [r] g).trans ?_
  cases here : about r with
  | true => simp [here]
  | false => simp [here]

theorem said_report_of_not {r : Remark} (other : about r = false) (g : Game) :
    (g.report r).value.said about = g.said about := by
  rw [said_report, other]
  exact List.append_nil _

theorem hear_said (asides : List Aside) (g : Game)
    (other : ∀ m, Aside.remark m ∈ asides → about m = false) :
    (hear asides g).value.said about = g.said about := by
  induction asides generalizing g with
  | nil => rfl
  | cons a rest ih =>
    have later : ∀ m, Aside.remark m ∈ rest → about m = false :=
      fun m hm => other m (List.mem_cons_of_mem _ hm)
    cases a with
    | remark r => exact (ih _ later).trans (said_report_of_not (other r List.mem_cons_self) g)
    | caution c => exact ih g later
    | quickText index text => exact ih _ later

theorem passOver_said (about : Remark → Bool) (v : Verb) (g : Game) :
    (g.passOver v).said about = g.said about := by
  unfold passOver
  split <;> rfl

theorem Registered.said {c : Command} (done : Registered g c g') (aloof : Remark.Aloof about) :
    g'.said about = g.said about := by
  cases done with
  | partyKnown _ => exact said_report_of_not (aloof.partyAgain _) g
  | remarked => exact said_report_of_not (aloof.withoutEffect _) g
  | _ => rfl

theorem hear_resolve_said (aloof : Remark.Aloof about) (w : World) (s : Script) (l : ScriptLine)
    (g : Game) : (hear (Command.resolve w s l).asides g).value.said about = g.said about :=
  hear_said _ g fun m here =>
    aloof.meaning ((Command.resolve_ofMeaning w s l).2 (.remark m) here)

theorem hear_dice (asides : List Aside) (g : Game) : (hear asides g).value.dice = g.dice := by
  induction asides generalizing g with
  | nil => rfl
  | cons a rest ih => cases a <;> exact ih _

theorem passOver_dice (v : Verb) (g : Game) : (g.passOver v).dice = g.dice := by
  unfold passOver
  split <;> rfl

theorem Registered.dice {c : Command} (done : Registered g c g') : g'.dice = g.dice := by
  cases done <;> rfl

/-- Once a line has been read it rolls no more dice, says nothing of such a kind, and has a fault
    only for what it means or because its command is refused. -/
theorem carryOut_said (aloof : Remark.Aloof about) (l : ScriptLine) (g : Game) :
    let end_ := (g.carryOut l).value
    end_.left.said about = g.said about ∧ end_.left.dice = g.dice ∧ ∀ f, end_.fault = some f →
      (Remark.fault f).ofMeaning = true ∨ ∃ h c, Refused h c f := by
  have heard := hear_resolve_said aloof g.world g.script l g
  have dice := hear_dice (Command.resolve g.world g.script l).asides g
  have passedOver := (passOver_said about l.verb _).trans heard
  have rolled := (passOver_dice l.verb _).trans dice
  obtain ⟨f, meaning, end_⟩ | ⟨c, _, ⟨f, refused, end_⟩ | ⟨g', registered, end_⟩⟩ :=
    carryOut_cases l g
  · rw [end_]
    refine ⟨passedOver, rolled, fun f' same => ?_⟩
    obtain rfl := Option.some.inj same
    exact .inl ((Command.resolve_ofMeaning g.world g.script l).1 f meaning)
  · rw [end_]
    refine ⟨passedOver, rolled, fun f' same => ?_⟩
    obtain rfl := Option.some.inj same
    exact .inr ⟨_, c, register_refused refused⟩
  · rw [end_]
    have done := register_registered registered
    refine ⟨(done.said aloof).trans heard, done.dice.trans dice, fun f same => ?_⟩
    cases same

end Game

end DungeonScript

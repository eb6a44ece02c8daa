import DungeonScript.Proofs.Game.Deferral

/-!
Announcing a reusable command. `NEXT_COMMAND_REUSABLE` is about the line right after it and
about no other: whatever that line is, blank, a comment, unreadable, dropped or a command of
any kind, the announcement is used up by it. An announcement inside a block whose contents
are dropped is not made.

The game keeps a number of lines. An announcement sets it to two whatever it was, and every
line lowers it by one before it is looked at (`loadLine_reusableLines`); it is never more than
two, and two only right after an announcement (`atPoint_reusableLines`). So a line finds the
announcement in force exactly if the line before it has made it (`onLine_reusable`), and the
entries that may fire again and again are those of these lines (`reusable_iff_announced`).
-/

namespace DungeonScript

namespace Game

/-! ## One line -/

/-- The line reads as the announcement of a reusable command, and is not dropped. -/
def Announces (text : List Char) (g : Game) : Prop :=
  g.progress.drops = false ∧
    ∃ l, g.lineRead .full text = .ok (some l) ∧ l.verb = .nextCommandReusable

theorem Heard.reusableLines {g h : Game} (heard : Heard g h) :
    h.progress.reusableLines = g.progress.reusableLines := heard.spared.reusableLines

theorem Idle.reusableLines {g g' : Game} (idle : Idle g g') :
    g'.progress.reusableLines = g.progress.reusableLines := by
  cases idle with
  | heard heard => exact heard.reusableLines
  | passedOver v heard => exact (heard.spared.passOver v).reusableLines

theorem lineMeaning_of_announcement {g : Game} {l : ScriptLine}
    (verb : l.verb = .nextCommandReusable) : g.lineMeaning l = pure .nextReusable := by
  simp only [lineMeaning, Command.resolve, verb]

theorem Registered.reusableLines {c : Command} {g g' : Game} (done : Registered g c g')
    (other : c ≠ .nextReusable) : g'.progress.reusableLines = g.progress.reusableLines := by
  cases done with
  | announced => exact absurd rfl other
  | _ => rfl

/-- An announcement is accepted: it never ends in a fault, and is in force for this line and
    the next. -/
theorem LineEnd.of_announces {text : List Char} {g g' : Game} {f : Option Fault}
    (h : LineEnd .full text g g' f) (announces : g.Announces text) :
    f = none ∧ g'.progress.reusableLines = 2 := by
  obtain ⟨taken, l, read, verb⟩ := announces
  have meaning : (g.lineMeaning l).outcome = .ok .nextReusable := by
    rw [lineMeaning_of_announcement verb]
    rfl
  obtain ⟨k, _, refused | done⟩ := h.of_meaning taken read meaning
  · obtain ⟨e, _, refused, _⟩ := refused
    cases refused
  · obtain ⟨rfl, registered⟩ := done
    obtain rfl := Attempt.done_inj registered
    exact ⟨rfl, rfl⟩

theorem LineEnd.of_not_announces {text : List Char} {g g' : Game} {f : Option Fault}
    (h : LineEnd .full text g g' f) (other : ¬g.Announces text) :
    g'.progress.reusableLines = g.progress.reusableLines := by
  rcases h.idle_or_registered with idle | ⟨l, c, k, read, taken, meaning, heard, registered⟩
  · exact idle.reusableLines
  · refine ((register_registered registered).reusableLines fun same => other ?_).trans
      heard.reusableLines
    subst same
    have verb := Command.resolve_nextReusable g.world g.script l _ meaning rfl
    refine ⟨eq_false_of_ne_true fun drops => ?_, l, read, verb⟩
    -- inside a dropped block the line would be an `ENDIF`
    rw [taken drops] at verb
    cases verb

/-- The number of lines after a line: two if the line was an announcement, and otherwise one
    less than before it. -/
theorem loadLine_reusableLines (line : Nat × List Char) (g : Game) :
    (g.Announces line.2 → (loadLine .full line g).value.progress.reusableLines = 2) ∧
    (¬g.Announces line.2 → (loadLine .full line g).value.progress.reusableLines =
      g.progress.reusableLines - 1) := by
  have ends := scanLine_ends .full line.2 { g with progress := g.progress.atLine line.1 }
  have kept := (loadLine_heard .full line g).reusableLines
  constructor
  · intro announces
    exact kept.trans (ends.of_announces announces).2
  · intro other
    exact kept.trans (ends.of_not_announces other)

/-! ## A whole text -/

/-- Line `n` of the full pass announces a reusable command, and is accepted. -/
def AnnouncesAt (text : String) (g : Game) (n : Nat) : Prop :=
  ∃ line, (scriptLines text)[n]? = some line ∧ (g.atPoint text n).Announces line.2

/-- The game as line `n` of the full pass is looked at. -/
def onLine (text : String) (g : Game) (n : Nat) (line : Nat × List Char) : Game :=
  { g.atPoint text n with progress := (g.atPoint text n).progress.atLine line.1 }

theorem announcesAt_iff {text : String} {g : Game} {n : Nat} {line : Nat × List Char}
    (here : (scriptLines text)[n]? = some line) :
    g.AnnouncesAt text n ↔ (g.atPoint text n).Announces line.2 := by
  simp only [AnnouncesAt, here, Option.some.injEq, exists_eq_left']

/-- Line `n` comes right after an announcement. -/
def AfterAnnouncement (text : String) (g : Game) (n : Nat) : Prop :=
  ∃ m, n = m + 1 ∧ g.AnnouncesAt text m

theorem afterAnnouncement_succ {text : String} {g : Game} {n : Nat} :
    g.AfterAnnouncement text (n + 1) ↔ g.AnnouncesAt text n := by
  constructor
  · intro h
    obtain ⟨m, same, announces⟩ := h
    obtain rfl := Nat.succ.inj same
    exact announces
  · intro announces
    exact ⟨n, rfl, announces⟩

/-- Up to the end of the text the number of lines is at most two, and it is two exactly right
    after an announcement. -/
theorem atPoint_reusableLines (text : String) (g : Game) {n : Nat}
    (inside : n ≤ (scriptLines text).length) : (g.atPoint text n).progress.reusableLines ≤ 2 ∧
      ((g.atPoint text n).progress.reusableLines = 2 ↔ g.AfterAnnouncement text n) := by
  induction n with
  | zero =>
    -- the full pass starts without an announcement, whatever was read before
    have none : (g.atPoint text 0).progress.reusableLines = 0 := rfl
    rw [none]
    refine ⟨by omega, fun two => by omega, fun h => ?_⟩
    obtain ⟨m, after, _⟩ := h
    omega
  | succ n ih =>
    rw [afterAnnouncement_succ]
    rcases atPoint_succ text n g with ⟨line, here, next⟩ | ⟨ended, _⟩
    · have step := loadLine_reusableLines line (g.atPoint text n)
      rw [announcesAt_iff here, next]
      by_cases announces : (g.atPoint text n).Announces line.2
      · have two := step.1 announces
        exact ⟨by omega, fun _ => announces, fun _ => two⟩
      · have fewer := step.2 announces
        have bound := (ih (by omega)).1
        exact ⟨by omega, fun two => by omega, fun h => absurd h announces⟩
    · omega

/-- A line finds an announcement in force exactly if the line before it has made it. -/
theorem onLine_reusable {text : String} (g : Game) {n : Nat} {line : Nat × List Char}
    (here : (scriptLines text)[n]? = some line) :
    (g.onLine text n line).progress.reusable = true ↔ g.AfterAnnouncement text n := by
  have inside : n ≤ (scriptLines text).length :=
    Nat.le_of_lt (List.getElem?_eq_some_iff.1 here).1
  obtain ⟨bound, after⟩ := atPoint_reusableLines text g inside
  rw [← after]
  -- of the two lines the announcement itself is one, and a number below two leaves none
  show decide (0 < (g.atPoint text n).progress.reusableLines - 1) = true ↔ _
  rw [decide_eq_true_eq]
  omega

theorem faultAt?_of_announcesAt {text : String} {g : Game} {n : Nat}
    (announces : g.AnnouncesAt text n) : g.faultAt? text n = none := by
  obtain ⟨line, here, announces⟩ := announces
  have ends := scanLine_ends .full line.2 (g.onLine text n line)
  rw [faultAt?, here]
  exact (ends.of_announces announces).1

/-! ## Entries -/

/-- A list that grows at its end, step by step, gets each entry in one step. -/
theorem getElem?_of_growing {α : Type} {xs : Nat → List α} {P : Nat → α → Prop} (start : xs 0 = [])
    (grows : ∀ n, ∃ new, xs (n + 1) = xs n ++ new ∧ ∀ e ∈ new, P n e) {count k : Nat} {e : α}
    (found : (xs count)[k]? = some e) :
    ∃ n < count, (xs n).length ≤ k ∧ k < (xs (n + 1)).length ∧ P n e := by
  induction count with
  | zero =>
    rw [start] at found
    cases found
  | succ count ih =>
    obtain ⟨new, next, marked⟩ := grows count
    by_cases old : k < (xs count).length
    · rw [next, List.getElem?_append_left old] at found
      obtain ⟨n, below, rest⟩ := ih found
      exact ⟨n, Nat.lt_succ_of_lt below, rest⟩
    · have old := Nat.le_of_not_lt old
      have short : k < (xs (count + 1)).length := (List.getElem?_eq_some_iff.1 found).1
      rw [next, List.getElem?_append_right old] at found
      exact ⟨count, Nat.lt_succ_self count, old, short, marked e (List.mem_of_getElem? found)⟩

/-- Line `n` of the full pass puts entry number `k` on the shelf. -/
structure Puts {α : Type} (shelf : Script → List α) (text : String) (g : Game) (n k : Nat) :
    Prop where
  notBefore : (shelf (g.atPoint text n).script).length ≤ k
  notAfter : k < (shelf (g.atPoint text (n + 1)).script).length

/-- The entries of the shelf that may fire again and again are exactly those put there by lines
    right after an announcement. -/
def MarksAnnounced {α : Type} (shelf : Script → List (Gated α)) (text : String) (g : Game) : Prop :=
  ∀ k e, (shelf (g.load text).value.script)[k]? = some e →
    ∃ n, Puts shelf text g n k ∧ (e.use.reusable = true ↔ g.AfterAnnouncement text n)

theorem load_script_atPoint (text : String) (g : Game) : (g.load text).value.script =
    (g.atPoint text (scriptLines text).length).script := by
  rw [load_script, atPoint, List.take_length]

theorem marksAnnounced {α : Type} {shelf : Script → List (Gated α)} (text : String) (g : Game)
    (start : shelf g.cleared.script = [])
    (queued : ∀ {p : Progress} {s s' : Script}, p.Queues s s' →
      ∃ new, shelf s' = shelf s ++ new ∧ ∀ e ∈ new, p.Marks e) :
    MarksAnnounced shelf text g := by
  have grows : ∀ n, ∃ new, shelf (g.atPoint text (n + 1)).script =
      shelf (g.atPoint text n).script ++ new ∧
      ∀ e ∈ new, (e.use.reusable = true ↔ g.AfterAnnouncement text n) := by
    intro n
    rcases atPoint_succ text n g with ⟨line, here, next⟩ | ⟨_, next⟩
    · obtain ⟨new, added, marks⟩ := queued (loadLine_stores .full line (g.atPoint text n)).queues
      refine ⟨new, by rw [next, added], fun e he => ?_⟩
      rw [(marks e he).reusable]
      exact onLine_reusable g here
    · exact ⟨[], by rw [next, List.append_nil], fun e he => absurd he List.not_mem_nil⟩
  intro k e found
  rw [load_script_atPoint] at found
  obtain ⟨n, _, notBefore, notAfter, marked⟩ :=
    @getElem?_of_growing _ (fun n => shelf (g.atPoint text n).script) _ start grows _ _ _ found
  exact ⟨n, ⟨notBefore, notAfter⟩, marked⟩

/-- **An announcement is about the next line alone.** Whatever was read before, a line of the
    full pass finds a reusable command announced exactly if the line right before it reads as
    the announcement and is not dropped; such a line is always accepted. Any other line, of
    whatever kind and whatever comes of it, leaves nothing announced for the next. So of the
    spawns, tunnellers and effects in the store that is loaded, exactly those may fire again and
    again that were put there by a line right after an announcement. -/
theorem reusable_iff_announced (text : String) (g : Game) :
    (∀ n line, (scriptLines text)[n]? = some line →
      ((g.onLine text n line).progress.reusable = true ↔ g.AfterAnnouncement text n)) ∧
    (∀ n, g.AnnouncesAt text n → g.faultAt? text n = none) ∧
    MarksAnnounced (·.spawns) text g ∧ MarksAnnounced (·.tunnellers) text g ∧
    MarksAnnounced (·.effects) text g :=
  ⟨fun _ _ here => onLine_reusable g here, fun _ => faultAt?_of_announcesAt,
    marksAnnounced text g rfl fun queues => queues.spawns,
    marksAnnounced text g rfl fun queues => queues.tunnellers,
    marksAnnounced text g rfl fun queues => queues.effects⟩

/-- A blank line uses an announcement up. -/
theorem announcement_used_up_by_blank_line :
    let text := "NEXT_COMMAND_REUSABLE\n\nADD_GOLD_TO_PLAYER(PLAYER0,1)\n"
    AfterAnnouncement text default 1 ∧ ¬AfterAnnouncement text default 2 := by
  intro text
  have whole : scriptLines text = [(1, "NEXT_COMMAND_REUSABLE".toList), (2, []),
      (3, "ADD_GOLD_TO_PLAYER(PLAYER0,1)".toList)] := by decide +kernel
  have announced := (reusable_iff_announced text default).1
  constructor
  · exact (announced 1 (2, []) (by rw [whole]; rfl)).1 (by decide +kernel)
  · intro after
    have inForce := (announced 2 _ (by rw [whole]; rfl)).2 after
    revert inForce
    decide +kernel

end Game

end DungeonScript

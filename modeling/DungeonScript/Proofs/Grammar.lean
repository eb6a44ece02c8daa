import DungeonScript.Grammar
import Mathlib.Data.List.Basic

/-!
The tables of the grammar. No keyword stands in a table twice, so looking a keyword up
finds its entry (`find?_of_mem`), and no entry asks for more arguments than one command
may take.
-/

namespace DungeonScript

theorem Usage.classic?_keyword {u v : Usage} (older : u.classic? = some v) :
    v.keyword = u.keyword := by
  unfold classic? at older
  split at older
  all_goals first
    | cases older; rfl
    | cases older

namespace Grammar

theorem extended_nodup : (extended.map Usage.keyword).Nodup := by decide +kernel

/-- The keywords of the classic grammar are some of those of the extended one, in the same
    order. -/
theorem classic_sublist : (classic.map Usage.keyword).Sublist (extended.map Usage.keyword) := by
  unfold classic
  induction extended with
  | nil => exact List.Sublist.refl []
  | cons u rest ih =>
    cases older : u.classic? with
    | none =>
      rw [List.filterMap_cons_none older]
      exact ih.cons _
    | some v =>
      rw [List.filterMap_cons_some older, List.map_cons, Usage.classic?_keyword older]
      exact ih.cons_cons _

theorem ofVersion_sublist (levelVersion : Int) :
    ((ofVersion levelVersion).map Usage.keyword).Sublist (extended.map Usage.keyword) := by
  unfold ofVersion
  split
  · exact List.Sublist.refl _
  · exact classic_sublist

theorem find?_keyword_of_nodup {table : List Usage} (nodup : (table.map Usage.keyword).Nodup)
    {u : Usage} (known : u ∈ table) : table.find? (·.keyword == u.keyword) = some u := by
  induction table with
  | nil => cases known
  | cons v rest ih =>
    rw [List.map_cons, List.nodup_cons] at nodup
    rcases List.mem_cons.1 known with rfl | later
    · exact List.find?_cons_of_pos (by simp)
    · have other : v.keyword ≠ u.keyword := fun same =>
        nodup.1 (same ▸ List.mem_map_of_mem later)
      rw [List.find?_cons_of_neg (by simpa using other)]
      exact ih nodup.2 later

theorem find?_of_mem {levelVersion : Int} {u : Usage} (known : u ∈ ofVersion levelVersion) :
    find? levelVersion u.keyword = some u :=
  find?_keyword_of_nodup (extended_nodup.sublist (ofVersion_sublist levelVersion)) known

theorem arguments_le_limit (levelVersion : Int) :
    ∀ u ∈ ofVersion levelVersion, u.arguments.length ≤ argumentLimit := by
  unfold ofVersion
  split <;> decide

theorem argumentCount_of_mem {levelVersion : Int} {u : Usage} (known : u ∈ ofVersion levelVersion) :
    u.argumentCount = u.arguments.length :=
  Nat.min_eq_left (arguments_le_limit levelVersion u known)

end Grammar

end DungeonScript

import DungeonScript.Text.Ascii

/-!
Vocabularies: the closed sets of words a script can use. Each value has a number,
a title for listings, and the spellings under which a script may name it. A value
without a spelling is reached only from inside the game, never by a word and
never by its number.
-/

namespace DungeonScript

/-- How one value of a vocabulary is numbered, listed and spelled. -/
structure Entry where
  /-- Number in the game's own tables. -/
  code : Nat
  /-- Name in listings and logs. -/
  title : String
  /-- Words a script may use for it. -/
  spellings : List String
  deriving Repr, DecidableEq

/-- A finite set of named values. -/
class Vocabulary (α : Type) where
  /-- Every value, in the order of the game's tables. -/
  all : List α
  /-- Number, title and spellings of a value. -/
  entry : α → Entry

namespace Vocabulary

variable {α : Type} [Vocabulary α]

def code (v : α) : Nat := (entry v).code

def title (v : α) : String := (entry v).title

/-- The first spelling of a value, empty when it has none. -/
def keyword (v : α) : String := (entry v).spellings.headD ""

/-- The value a script word names, in any case. -/
def ofWord? (word : String) : Option α :=
  all.find? fun v => (entry v).spellings.any (sameWord · word)

/-- The value with this number, among those a script can name. -/
def ofCode? (n : Nat) : Option α :=
  all.find? fun v => (entry v).code == n && !(entry v).spellings.isEmpty

def ofTitle? (name : String) : Option α :=
  all.find? fun v => (entry v).title == name

end Vocabulary

end DungeonScript

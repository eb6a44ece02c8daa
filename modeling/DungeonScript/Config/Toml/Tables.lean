import DungeonScript.Config.Value

/-!
Tables of a TOML document while it is read. What may still be said about a table
depends on how it came about: a header states a table once, and the tables on the way
to it are implied until a header of their own states them; keys with points may add to
tables that came from such keys only. A value, and with it a table or a list written as
a value, is never added to.
-/

namespace DungeonScript

namespace Toml

open Config (Value)

/-- How a table came about. -/
inductive Origin where
  /-- On the way to a table that has a header. -/
  | implied
  /-- On the way of a key with points. -/
  | dotted
  /-- By a header of its own. -/
  | stated
  deriving Repr, DecidableEq

/-- What stands under a key. -/
inductive Node where
  | value (v : Value)
  | table (origin : Origin) (entries : List (String × Node))
  /-- Tables that share a header, at least one. -/
  | series (tables : List (List (String × Node)))
  deriving Inhabited, Repr

namespace Node

mutual

def toValue : Node → Value
  | .value v => v
  | .table _ es => .table (entriesToValues es)
  | .series ts => .list (tablesToValues ts)

def entriesToValues : List (String × Node) → List (String × Value)
  | [] => []
  | (key, n) :: rest => (key, n.toValue) :: entriesToValues rest

def tablesToValues : List (List (String × Node)) → List Value
  | [] => []
  | es :: rest => .table (entriesToValues es) :: tablesToValues rest

end

end Node

abbrev Entries := List (String × Node)

namespace Entries

/-- Changes the table under a path, with its origin before it. Tables that are missing on
    the way are made. A series leads to its last table. Keys with points do not lead
    through a table that a header stated. -/
def change? (origin : Origin) (change : Origin → Entries → Option Entries) :
    List String → Origin → Entries → Option Entries
  | [], here, es => change here es
  | key :: path, _, es =>
    match Config.find? key es with
    | none =>
      (change? origin change path origin []).map fun inner =>
        Config.put key (.table origin inner) es
    | some (.table here inner) =>
      if origin = .dotted && here = .stated then none
      else
        (change? origin change path here inner).map fun inner =>
          Config.put key (.table here inner) es
    | some (.series ts) =>
      (change? origin change path .stated (ts.getLast?.getD [])).map fun inner =>
        Config.put key (.series (ts.dropLast ++ [inner])) es
    | some (.value _) => none

/-- Gives a key, at the end of the keys before it, a value. The key must be new, and the
    table it stands in must come from keys with points just if there are some. -/
def addPair? (path : List String) (v : Value) (es : Entries) : Option Entries :=
  match path.getLast? with
  | none => none
  | some key =>
    change? .dotted (fun here es =>
      if (here == .dotted) == path.dropLast.isEmpty || (Config.find? key es).isSome then none
      else some (Config.put key (.value v) es)) path.dropLast .stated es

/-- States a table: a new one, or one that was implied. -/
def openTable? (path : List String) (es : Entries) : Option Entries :=
  match path.getLast? with
  | none => none
  | some key =>
    change? .implied (fun _ es =>
      match Config.find? key es with
      | none => some (Config.put key (.table .stated []) es)
      | some (.table .implied inner) => some (Config.put key (.table .stated inner) es)
      | some _ => none) path.dropLast .stated es

/-- Adds a table to a series, which may be new. -/
def extendSeries? (path : List String) (es : Entries) : Option Entries :=
  match path.getLast? with
  | none => none
  | some key =>
    change? .implied (fun _ es =>
      match Config.find? key es with
      | none => some (Config.put key (.series [[]]) es)
      | some (.series ts) => some (Config.put key (.series (ts ++ [[]])) es)
      | some _ => none) path.dropLast .stated es

/-- Changes the table that the last header opened. -/
def within? (header : List String) (change : Entries → Option Entries) (es : Entries) :
    Option Entries :=
  change? .implied (fun _ es => change es) header .stated es

def toValues (es : Entries) : List (String × Value) := Node.entriesToValues es

end Entries

end Toml

end DungeonScript

import DungeonScript.Config.Toml.Scalar
import DungeonScript.Config.Toml.Tables

/-!
TOML: the format of settings files. A document is a row of statements, which state a
table, add a table to a series, or give a key its value. Values are words, texts, lists
and tables.

The readers take the characters to come and return what is left of them.
-/

namespace DungeonScript

namespace Toml

open Config (Value)

/-! ## Values -/

mutual

def value? (fuel : Nat) (cs : List Char) : Option (Value × List Char) :=
  match fuel with
  | 0 => none
  | fuel + 1 =>
    match cs with
    | '[' :: rest => (items? fuel (skipSpace false rest)).map fun r => (.list r.1, r.2)
    | '{' :: rest =>
      (pairs? fuel [] (skipSpace false rest)).map fun r => (.table r.1.toValues, r.2)
    | '"' :: rest => (text? ('"' :: rest)).map fun r => (.text (String.ofList r.1), r.2)
    | '\'' :: rest => (text? ('\'' :: rest)).map fun r => (.text (String.ofList r.1), r.2)
    | cs => (word? (splitWord cs).1).map fun v => (v, (splitWord cs).2)

/-- The rest of a list, read with at most `fuel` steps. -/
def items? (fuel : Nat) (cs : List Char) : Option (List Value × List Char) :=
  match fuel with
  | 0 => none
  | fuel + 1 =>
    match cs with
    | ']' :: rest => some ([], rest)
    | cs => do
      let (v, rest) ← value? fuel cs
      match skipSpace false rest with
      | ',' :: rest => do
        let (vs, rest) ← items? fuel (skipSpace false rest)
        return (v :: vs, rest)
      | ']' :: rest => return ([v], rest)
      | _ => none

/-- The rest of a table that is a value, read with at most `fuel` steps; `seen` holds
    what stands before. -/
def pairs? (fuel : Nat) (seen : Entries) (cs : List Char) : Option (Entries × List Char) :=
  match fuel with
  | 0 => none
  | fuel + 1 =>
    match cs with
    | '}' :: rest => some (seen, rest)
    | cs => do
      let (path, rest) ← keys? cs.length cs
      match rest with
      | '=' :: rest => do
        let (v, rest) ← value? fuel (skipBlanks rest)
        let seen ← seen.addPair? path v
        match skipSpace false rest with
        | ',' :: rest => pairs? fuel seen (skipSpace false rest)
        | '}' :: rest => return (seen, rest)
        | _ => none
      | _ => none

end

/-! ## Statements -/

/-- A statement of a document. -/
inductive Statement where
  | table (path : List String)
  | series (path : List String)
  | pair (path : List String) (v : Value)
  deriving Inhabited, Repr

def statement? (cs : List Char) : Option (Statement × List Char) :=
  match cs with
  | '[' :: '[' :: rest => do
    let (path, rest) ← keys? rest.length rest
    match rest with
    | ']' :: ']' :: rest => return (.series path, ← endLine? rest)
    | _ => none
  | '[' :: rest => do
    let (path, rest) ← keys? rest.length rest
    match rest with
    | ']' :: rest => return (.table path, ← endLine? rest)
    | _ => none
  | cs => do
    let (path, rest) ← keys? cs.length cs
    match rest with
    | '=' :: rest => do
      let rest := skipBlanks rest
      let (v, rest) ← value? (2 * rest.length + 2) rest
      return (.pair path v, ← endLine? rest)
    | _ => none

/-- The statements of a document, at most `fuel` of them. -/
def statements? (fuel : Nat) (cs : List Char) : Option (List Statement) :=
  match skipSpace false cs with
  | [] => some []
  | cs =>
    match fuel with
    | 0 => none
    | fuel + 1 => do
      let (s, rest) ← statement? cs
      let more ← statements? fuel rest
      return s :: more

/-! ## Documents -/

/-- What the statements so far have built. -/
structure Built where
  root : Entries
  /-- The table that pairs go into. -/
  here : List String
  deriving Inhabited, Repr

namespace Built

def start : Built := ⟨[], []⟩

def take? (b : Built) : Statement → Option Built
  | .table path => do return ⟨← b.root.openTable? path, path⟩
  | .series path => do return ⟨← b.root.extendSeries? path, path⟩
  | .pair path v => do return { b with root := ← b.root.within? b.here (·.addPair? path v) }

end Built

/-- The entries of a document, if it is one. A mark of the order of octets may stand
    before the first line. -/
def parse? (text : String) : Option (List (String × Value)) := do
  let cs := match text.toList with
    | '\uFEFF' :: cs => cs
    | cs => cs
  let statements ← statements? cs.length cs
  let built ← statements.foldlM Built.take? Built.start
  return built.root.toValues

end Toml

end DungeonScript

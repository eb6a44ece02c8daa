import DungeonScript.Config.Toml
import DungeonScript.Text.Utf8

/-!
The settings file: where it may be, and what its octets say. It is looked for under the
path that is given, and then under the same name with `.toml` after it. Octets that are
no UTF-8 are read leniently, and a mark of the order of octets is passed over.
-/

namespace DungeonScript

namespace Settings

/-! ## Where it may be -/

/-- A path, turned around, without slashes and lone points at its end: those name no
    file, but the place before them. -/
def bareFromEnd : List Char → List Char
  | '/' :: rest => bareFromEnd rest
  | '.' :: '/' :: rest => bareFromEnd rest
  | cs => cs

/-- Whether a path, turned around, ends with the name of a file. -/
def endsWithName : List Char → Bool
  | [] => false
  | ['.'] => false
  | ['.', '.'] => false
  | '.' :: '.' :: '/' :: _ => false
  | _ => true

/-- The path with `.toml` after the name it ends with, if it ends with one. -/
def withSuffix? (path : String) : Option String :=
  let body := bareFromEnd path.toList.reverse
  if endsWithName body then some (String.ofList body.reverse ++ ".toml") else none

/-- Where the file of a path may be, the likelier place first. -/
def filePlaces (path : String) : List String := path :: (withSuffix? path).toList

/-! ## What it says -/

/-- Octets without the mark of their order. -/
def dropMark : List UInt8 → List UInt8
  | 0xEF :: 0xBB :: 0xBF :: rest => rest
  | octets => octets

/-- The entries of a settings file, if it can be read. -/
def entries? (octets : List UInt8) : Option (List (String × Config.Value)) :=
  Toml.parse? (Utf8.decode (dropMark octets))

end Settings

end DungeonScript

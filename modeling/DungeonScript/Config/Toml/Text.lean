/-!
Characters, texts and keys of TOML. Besides tabs and ends of lines no control may stand
in a document; a line ends with a line feed, perhaps with a carriage return before it.

The readers take the characters to come and return what is left of them.
-/

namespace DungeonScript

namespace Toml

/-! ## Blanks -/

def isBlank (c : Char) : Bool := c = ' ' || c = '\t'

/-- Whether a character may stand in a text or a comment as it is. -/
def isPlain (c : Char) : Bool := c = '\t' || (0x20 ≤ c.toNat && c.toNat != 0x7F)

def skipBlanks (cs : List Char) : List Char := cs.dropWhile isBlank

/-- What follows blanks, ends of lines and comments. A character that may not stand in a
    comment ends it and is left, where nothing can be read. -/
def skipSpace (inComment : Bool) : List Char → List Char
  | [] => []
  | '\n' :: rest => skipSpace false rest
  | '\r' :: '\n' :: rest => skipSpace false rest
  | c :: rest =>
    if inComment && isPlain c || c = '#' then skipSpace true rest
    else if isBlank c && !inComment then skipSpace false rest
    else c :: rest

/-- What follows the end of a line, on which nothing but a comment may stand. -/
def endLine? (cs : List Char) : Option (List Char) :=
  match skipBlanks cs with
  | [] => some []
  | '\n' :: rest => some rest
  | '\r' :: '\n' :: rest => some rest
  | '#' :: rest => some (skipSpace true rest)
  | _ => none

/-! ## Texts -/

def isHexDigit (c : Char) : Bool := c.isDigit || ('a' ≤ c.toLower && c.toLower ≤ 'f')

def valueOf (base : Nat) (digits : List Char) : Nat :=
  digits.foldl (fun v c =>
    v * base + if c.isDigit then c.toNat - '0'.toNat else c.toLower.toNat - 'a'.toNat + 10) 0

/-- The character that hexadecimal digits name. -/
def namedChar? (digits : List Char) : Option Char :=
  if digits.all isHexDigit && (valueOf 16 digits).isValidChar then
    some (.ofNat (valueOf 16 digits))
  else none

def escaped? : Char → Option Char
  | 'b' => some '\x08'
  | 't' => some '\t'
  | 'n' => some '\n'
  | 'f' => some '\x0c'
  | 'r' => some '\r'
  | 'e' => some '\x1b'
  | '"' => some '"'
  | '\\' => some '\\'
  | _ => none

/-- A character of a text with what is read after it. -/
def onto (c : Char) (more : Option (List Char × List Char)) : Option (List Char × List Char) :=
  more.map fun r => (c :: r.1, r.2)

def quotedText? : List Char → Option (List Char × List Char)
  | '"' :: rest => some ([], rest)
  | '\\' :: 'x' :: a :: b :: rest => do onto (← namedChar? [a, b]) (quotedText? rest)
  | '\\' :: 'u' :: a :: b :: c :: d :: rest => do
    onto (← namedChar? [a, b, c, d]) (quotedText? rest)
  | '\\' :: 'U' :: a :: b :: c :: d :: e :: f :: g :: h :: rest => do
    onto (← namedChar? [a, b, c, d, e, f, g, h]) (quotedText? rest)
  | '\\' :: c :: rest => do onto (← escaped? c) (quotedText? rest)
  | c :: rest => if isPlain c then onto c (quotedText? rest) else none
  | [] => none

def literalText? : List Char → Option (List Char × List Char)
  | '\'' :: rest => some ([], rest)
  | c :: rest => if isPlain c then onto c (literalText? rest) else none
  | [] => none

/-- Whether nothing but blanks is left of the line. -/
def atLineEnd (cs : List Char) : Bool :=
  match skipBlanks cs with
  | '\n' :: _ => true
  | '\r' :: '\n' :: _ => true
  | _ => false

/-- The rest of a text over several lines in three double quotes. With `passing`, blanks
    and ends of lines are passed over, as they are after a backslash at the end of a
    line. Up to two quotes may stand before the three that end the text. -/
def longText? (passing : Bool) : List Char → Option (List Char × List Char)
  | '"' :: '"' :: '"' :: '"' :: '"' :: rest => some (['"', '"'], rest)
  | '"' :: '"' :: '"' :: '"' :: rest => some (['"'], rest)
  | '"' :: '"' :: '"' :: rest => some ([], rest)
  | '\\' :: 'x' :: a :: b :: rest => do onto (← namedChar? [a, b]) (longText? false rest)
  | '\\' :: 'u' :: a :: b :: c :: d :: rest => do
    onto (← namedChar? [a, b, c, d]) (longText? false rest)
  | '\\' :: 'U' :: a :: b :: c :: d :: e :: f :: g :: h :: rest => do
    onto (← namedChar? [a, b, c, d, e, f, g, h]) (longText? false rest)
  | '\\' :: c :: rest =>
    if atLineEnd (c :: rest) then longText? true (c :: rest)
    else do onto (← escaped? c) (longText? false rest)
  | '\r' :: '\n' :: rest =>
    if passing then longText? true rest else onto '\n' (longText? false rest)
  | c :: rest =>
    if passing && (isBlank c || c = '\n') then longText? true rest
    else if isPlain c || c = '\n' then onto c (longText? false rest)
    else none
  | [] => none

/-- The rest of a text over several lines in three single quotes. -/
def longLiteral? : List Char → Option (List Char × List Char)
  | '\'' :: '\'' :: '\'' :: '\'' :: '\'' :: rest => some (['\'', '\''], rest)
  | '\'' :: '\'' :: '\'' :: '\'' :: rest => some (['\''], rest)
  | '\'' :: '\'' :: '\'' :: rest => some ([], rest)
  | '\r' :: '\n' :: rest => onto '\n' (longLiteral? rest)
  | c :: rest => if isPlain c || c = '\n' then onto c (longLiteral? rest) else none
  | [] => none

/-- What follows the end of the line with which a text over several lines may start. -/
def dropLineEnd : List Char → List Char
  | '\n' :: rest => rest
  | '\r' :: '\n' :: rest => rest
  | cs => cs

/-- A text in quotes of either kind, if one starts here. -/
def text? : List Char → Option (List Char × List Char)
  | '"' :: '"' :: '"' :: rest => longText? false (dropLineEnd rest)
  | '"' :: rest => quotedText? rest
  | '\'' :: '\'' :: '\'' :: rest => longLiteral? (dropLineEnd rest)
  | '\'' :: rest => literalText? rest
  | _ => none

/-! ## Keys -/

/-- A character of a key that stands without quotes. -/
def isKeyChar (c : Char) : Bool := c.isAlphanum || c = '_' || c = '-'

def key? : List Char → Option (String × List Char)
  | '"' :: rest => (quotedText? rest).map fun r => (String.ofList r.1, r.2)
  | '\'' :: rest => (literalText? rest).map fun r => (String.ofList r.1, r.2)
  | cs =>
    if (cs.takeWhile isKeyChar).isEmpty then none
    else some (String.ofList (cs.takeWhile isKeyChar), cs.dropWhile isKeyChar)

/-- Keys that points divide, at most `fuel` of them, and what follows the blanks after
    them. -/
def keys? (fuel : Nat) (cs : List Char) : Option (List String × List Char) :=
  match fuel with
  | 0 => none
  | fuel + 1 => do
    let (key, rest) ← key? (skipBlanks cs)
    match skipBlanks rest with
    | '.' :: rest => do
      let (keys, rest) ← keys? fuel rest
      return (key :: keys, rest)
    | rest => return ([key], rest)

end Toml

end DungeonScript

/-!
Control sequences: what tells a terminal how to show a text and is not shown itself. A
log that goes to no terminal is written without them, and without any other control
than those that only move on: tabs, ends of lines and of pages.

A sequence starts with an escape character. What follows says how it ends: most end
with a letter or a sign, commands for the terminal itself with a bell, and strings for
devices with an escape character that starts the next sequence.
-/

namespace DungeonScript

namespace ControlSequence

/-- Where in a text or in a sequence the next character stands. -/
inductive State where
  /-- Outside of sequences. -/
  | text
  /-- After an escape character. -/
  | escape
  /-- In a short sequence that a letter, digit or sign ends. -/
  | short
  /-- In a sequence with parameters, that a letter or sign ends. -/
  | parameters
  /-- In a command for the terminal. -/
  | command
  /-- At the head of a string for a device. -/
  | device
  /-- Among the numbers at the head of a string for a device. -/
  | deviceNumbers
  /-- Among the signs at the head of a string for a device. -/
  | deviceSigns
  /-- In a string that is passed on, or over. -/
  | string
  deriving Repr, DecidableEq

def isControl (c : Char) : Bool := c.toNat < 0x20 || c.toNat == 0x7F

def isSpacing (c : Char) : Bool := c = '\t' || c = '\n' || c = '\x0c' || c = '\r'

/-- Whether a string for a device ends with a character: one of its octets is the end
    of strings among the controls of eight bits. -/
def endsString (c : Char) : Bool := (String.utf8EncodeChar c).contains 0x9C

namespace State

/-- Whether a spacing control ends the sequence and is written. -/
def yields : State → Bool
  | text | escape | short | parameters => true
  | _ => false

/-- The state after a character that is no control. -/
def next (s : State) (c : Char) : State :=
  match s with
  | text => text
  | escape =>
    if c = '[' then parameters
    else if c = ']' then command
    else if c = 'P' then device
    else if c = 'X' || c = '^' || c = '_' then string
    else if c ≤ '/' then short
    else if c ≤ '~' then text
    else escape
  | short => if '/' < c && c ≤ '~' then text else short
  | parameters => if '@' ≤ c && c ≤ '~' then text else parameters
  | command => command
  | device =>
    if c ≤ '/' then deviceSigns
    else if c ≤ '?' then deviceNumbers
    else if c ≤ '~' then string
    else device
  | deviceNumbers =>
    if c ≤ '/' then deviceSigns
    else if c ≤ ';' then deviceNumbers
    else if c ≤ '~' then string
    else deviceNumbers
  | deviceSigns => if '/' < c && c ≤ '~' then string else deviceSigns
  | string => if endsString c then text else string

/-- The state after a control, if it is not written. -/
def afterControl (s : State) (c : Char) : State :=
  if c = '\x1b' then escape
  else if c = '\x18' || c = '\x1a' then text
  else if s = command && c = '\x07' then text
  else s

end State

/-- What is written of a text that goes on from a state. -/
def written (s : State) : List Char → List Char
  | [] => []
  | c :: rest =>
    if isControl c then
      if s.yields && isSpacing c then c :: written .text rest
      else written (s.afterControl c) rest
    else if s = .text then c :: written .text rest
    else written (s.next c) rest

end ControlSequence

/-- A text as a log without a terminal shows it. -/
def withoutControls (text : String) : String :=
  String.ofList (ControlSequence.written .text text.toList)

end DungeonScript

import SexprShell.Source.Error
import SexprShell.Source.Token

/-!
# Data

The items of a text with their brackets matched, before they are given a meaning. Tokens are taken
one by one onto a stack of unfinished items; an item that is complete goes to the topmost of them.
-/

namespace SexprShell.Source

inductive Datum where
  | atom (a : Atom)
  /-- Items between brackets, and the position of the opening one. -/
  | group (b : Bracket) (position : Position) (items : List Datum)
  /-- An item with a mark in front, and the mark's position. -/
  | deref (position : Position) (item : Datum)

/-- An unfinished item. -/
inductive Frame where
  /-- An open bracket with the items behind it so far, the latest first. -/
  | opened (b : Bracket) (position : Position) (items : List Datum)
  /-- A mark whose item is still to come. -/
  | deref (position : Position)

/-- Unfinished items, innermost first, and the finished ones outside all of them, latest first. -/
structure Stack where
  frames : List Frame
  items : List Datum

/-- Add a finished item. It also finishes the marks right in front of it. -/
def Stack.add (d : Datum) : List Frame → List Datum → Stack
  | [], top => ⟨[], d :: top⟩
  | .opened b p items :: frames, top => ⟨.opened b p (d :: items) :: frames, top⟩
  | .deref p :: frames, top => Stack.add (.deref p d) frames top

/-- Take one token. Only a closing bracket can fail: it has to close the innermost item. -/
def Stack.take (s : Stack) (p : Position) : Token → Except ReadError Stack
  | .opening b => .ok ⟨.opened b p [] :: s.frames, s.items⟩
  | .deref => .ok ⟨.deref p :: s.frames, s.items⟩
  | .atom a => .ok (Stack.add (.atom a) s.frames s.items)
  | .closing b =>
    match s.frames with
    | .opened b' q items :: frames =>
      if b = b' then .ok (Stack.add (.group b q items.reverse) frames s.items)
      else .error (.unexpectedClosing b p)
    | _ => .error (.unexpectedClosing b p)

/-- Take tokens up to the end of a scan; `last` is the position of the token before them. -/
def Stack.run (s : Stack) (last : Position) (ending : Ending) :
    List (Position × Token) → Except ReadError (List Datum)
  | (p, token) :: rest =>
    match s.take p token with
    | .ok s' => s'.run p ending rest
    | .error e => .error e
  | [] =>
    match ending with
    | .stuck c p => .error (.unmatched c p)
    | .complete => if s.frames.isEmpty then .ok s.items.reverse else .error (.unexpectedEnd last)

/-- The items of a text. -/
def parse (cs : List Char) : Except ReadError (List Datum) :=
  let (tokens, ending) := scan 0 .start cs
  Stack.run ⟨[], []⟩ .start ending tokens

end SexprShell.Source

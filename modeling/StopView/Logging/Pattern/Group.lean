import StopView.Logging.Pattern.Mode
import StopView.Text.Figure

/-!
# Groups in patterns

A group stands in parentheses.  It may have a name, or switch something on or off for what is
in it.  Switches alone in parentheses hold for the rest of the group around them.
-/

namespace StopView.Pattern

/-- Read switches up to the end of a group or a colon.  No switch comes twice, and a dash
stands in front of those that are switched off. -/
def switch? (mode : Mode) (seen : List Char) : List Char → Option (Mode × List Char)
  | [] => none
  | c :: rest =>
      if c = ')' || c = ':' then
        if seen.head? = some '-' then none else some (mode, c :: rest)
      else if seen.contains c then
        none
      else if c = '-' || Mode.switches.contains c then
        switch? (if c = '-' then mode else mode.switch c (!seen.contains '-')) (c :: seen) rest
      else
        none

/-- Whether a character may begin the name of a group. -/
def beginsName (c : Char) : Bool :=
  c == '_' || Text.isAlphabetic c

/-- Whether a character may occur in the name of a group. -/
def continuesName (c : Char) : Bool :=
  c == '_' || c == '.' || c == '[' || c == ']' || Text.isAlphanumeric c

/-- Read the name of a group up to its closing bracket. -/
def groupName? (chars : List Char) : Option (List Char × List Char) :=
  let name := chars.takeWhile (· != '>')
  match name, chars.drop name.length with
  | first :: others, '>' :: rest =>
      if beginsName first && others.all continuesName then some (name, rest) else none
  | _, _ => none

/-- What a parenthesis opens: a group, perhaps with a name, or a switch for the rest of
the group around it. -/
inductive Opening where
  | group (mode : Mode) (name : Option (List Char))
  | switched (mode : Mode)
deriving Repr, DecidableEq

/-- Read what follows an opening parenthesis and perhaps blanks. -/
def openingFrom? (mode : Mode) : List Char → Option (Opening × List Char)
  | '?' :: 'P' :: '<' :: rest =>
      (groupName? rest).map fun (name, rest) => (.group mode (some name), rest)
  | '?' :: '<' :: rest =>
      (groupName? rest).map fun (name, rest) => (.group mode (some name), rest)
  | '?' :: ')' :: _ => none
  | '?' :: rest => do
      match ← switch? mode [] rest with
      | (inner, ':' :: rest) => return (.group inner none, rest)
      | (inner, _ :: rest) => return (.switched inner, rest)
      | _ => none
  | rest => some (.group mode none, rest)

/-- Read what follows an opening parenthesis. -/
def opening? (mode : Mode) (chars : List Char) : Option (Opening × List Char) :=
  openingFrom? mode (mode.skip chars)

end StopView.Pattern

import StopView.Symbol.Cursor
import StopView.Text.Quoted

/-!
# Writing down what a structured name says

The press reads a name and writes its meaning as it goes.  It can be muted, so that
a part is read without being written.  Once the name turns out to be broken, the press
says so in place and goes on with question marks for whatever it still has to write.

Names can refer back to their own earlier parts, so a short name can have a very long
meaning.  The press stops when it has written too much.
-/

namespace StopView.Symbol

/-- The most that is written, in bytes. -/
def longestText : Nat := 1000000

/-- Where writing stands: the reading place or why there is none, whether writing is
muted, the text so far, the room that is left, and how many lifetimes are bound. -/
structure Press where
  cursor : Except Broken Cursor
  muted : Bool
  written : String
  room : Nat
  bound : Nat

/-- Writing that ran out of room, with what had been written. -/
structure OutOfRoom where
  written : String

/-- A step of writing. -/
abbrev Writer := StateT Press (Except OutOfRoom)

namespace Writer

variable {α : Type}

/-- Write a text, unless writing is muted. -/
def put (text : String) : Writer Unit := do
  let press ← get
  if press.muted then
    return ()
  else if press.room < text.utf8ByteSize then
    throw ⟨press.written⟩
  else
    set { press with
      written := press.written ++ text
      room := press.room - text.utf8ByteSize }

/-- Write several texts. -/
def putAll (texts : List String) : Writer Unit :=
  texts.forM put

/-- Note that the name is broken, and say so. -/
def fault (broken : Broken) : Writer Unit := do
  put broken.text
  modify fun press => { press with cursor := .error broken }

/-- Read something and go on with it.  When the name is broken, now or before, write
that and end with the given result. -/
def reading {β : Type} (result : β) (reader : Reader α) (next : α → Writer β) : Writer β := do
  match (← get).cursor with
  | .error _ =>
      put "?"
      return result
  | .ok cursor =>
      match reader.run cursor with
      | .ok (value, cursor) =>
          modify fun press => { press with cursor := .ok cursor }
          next value
      | .error broken =>
          fault broken
          return result

/-- Go past a character if it is the next one. -/
def eat (c : Char) : Writer Bool := do
  match (← get).cursor with
  | .error _ => return false
  | .ok cursor =>
      match (Reader.eat c).run cursor with
      | .ok (eaten, cursor) =>
          modify fun press => { press with cursor := .ok cursor }
          return eaten
      | .error _ => return false

/-- Go one level up again. -/
def leave : Writer Unit :=
  modify fun press =>
    { press with
      cursor := press.cursor.map fun cursor => { cursor with depth := cursor.depth - 1 } }

/-- Read without writing. -/
def muted (writer : Writer Unit) : Writer Unit := do
  let before := (← get).muted
  modify fun press => { press with muted := true }
  writer
  modify fun press => { press with muted := before }

/-- Follow a reference to an earlier part, write that part, and return.  Muted writing
does not follow it. -/
def referring (name : List Char) (result : α) (writer : Writer α) : Writer α :=
  reading result (Reader.back name) fun target => do
    let press ← get
    if press.muted then
      return result
    else
      set { press with cursor := .ok target }
      let value ← writer
      modify fun after => { after with cursor := press.cursor }
      return value

/-- Write the elements of a list up to its end mark, and count them.  Every element
takes at least one character, so `fuel` need not exceed the characters left. -/
def elements (separator : String) (element : Writer Unit) : Nat → Nat → Writer Nat
  | 0, count => return count
  | fuel + 1, count => do
      match (← get).cursor with
      | .error _ => return count
      | .ok _ =>
          if ← eat 'E' then
            return count
          else
            if 0 < count then put separator
            element
            elements separator element fuel (count + 1)

/-- Write a list of elements. -/
def list (separator : String) (element : Writer Unit) : Writer Nat := do
  match (← get).cursor with
  | .error _ => return 0
  | .ok cursor => elements separator element (cursor.rest.length + 1) 0

/-- Write what may stand instead of what was written, up to the end mark.  A broken name
is faulted once more in place of the alternatives that cannot be read. -/
def furtherAlternatives (alternative : Writer Unit) : Nat → Writer Unit
  | 0 => return ()
  | fuel + 1 => do
      if ← eat 'E' then
        leave
      else
        match (← get).cursor with
        | .error _ => fault .invalid
        | .ok _ =>
            put " | "
            alternative
            furtherAlternatives alternative fuel

/-- Write further alternatives.  Each takes at least one character, and the fault at the
end of the name one more step. -/
def alternatives (alternative : Writer Unit) : Writer Unit := do
  match (← get).cursor with
  | .error _ => furtherAlternatives alternative 1
  | .ok cursor => furtherAlternatives alternative (cursor.rest.length + 2)

/-- Write the lifetime that a binder introduced, counted from the innermost one.
Zero stands for a lifetime without a name. -/
def lifetime (index : Nat) : Writer Unit := do
  let press ← get
  if press.muted then
    return ()
  else
    put "'"
    if index = 0 then
      put "_"
    else if press.bound < index then
      fault .invalid
    else
      let number := press.bound - index
      if number < 26 then
        put (Char.ofNat ('a'.toNat + number)).toString
      else
        put "_"
        put (toString number)

/-- Write the lifetimes of a binder. -/
def binderLifetimes : Nat → Bool → Writer Unit
  | 0, _ => return ()
  | count + 1, first => do
      if !first then put ", "
      modify fun press => { press with bound := press.bound + 1 }
      lifetime 1
      binderLifetimes count false

/-- Write a part whose binder introduces lifetimes. -/
def bound (writer : Writer Unit) : Writer Unit :=
  reading () (Reader.taggedInteger62 'G') fun count => do
    if (← get).muted then
      writer
    else
      if 0 < count then
        put "for<"
        binderLifetimes count true
        put "> "
      writer
      modify fun press => { press with bound := press.bound - count }

/-- Write an identifier. -/
def ident (ident : Ident) : Writer Unit :=
  putAll ident.shown

/-- A character as it stands in a literal between quotation marks of one kind.  The
other kind needs no escape. -/
def literalChar (mark : Char) (c : Char) : List Char :=
  if (mark = '\'' ∧ c = '"') ∨ (mark = '"' ∧ c = '\'') then [c] else Text.escapeWithin mark c

/-- Write characters as a literal. -/
def literal (mark : Char) (chars : List Char) : Writer Unit := do
  put mark.toString
  putAll ((chars.flatMap (literalChar mark)).map Char.toString)
  put mark.toString

end Writer

end StopView.Symbol

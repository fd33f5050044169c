import StopView.Symbol.Press

/-!
# Structured symbol names

A structured name begins with `_R` and describes a path with its generic arguments,
types and constants, each behind a letter that tells its kind.  It is shown the way
it would be written in source text, without the numbers that only tell equal names
apart.
-/

namespace StopView.Symbol.Structured

open Writer

/-- The types that one letter stands for. -/
def basicTypes : List (Char × String) :=
  [('b', "bool"), ('c', "char"), ('e', "str"), ('u', "()"), ('a', "i8"), ('s', "i16"),
   ('l', "i32"), ('x', "i64"), ('n', "i128"), ('i', "isize"), ('h', "u8"), ('t', "u16"),
   ('m', "u32"), ('y', "u64"), ('o', "u128"), ('j', "usize"), ('f', "f32"), ('d', "f64"),
   ('z', "!"), ('p', "_"), ('v', "...")]

/-- The number that hexadecimal digits write, if it fits in a machine word. -/
def wordOf? (nibbles : List Char) : Option Nat :=
  let significant := nibbles.dropWhile (· == '0')
  if 16 < significant.length then none
  else some ((Hashed.lowerHexValue? significant).getD 0)

/-- The bytes that pairs of hexadecimal digits write. -/
def bytesOf? : List Char → Option (List UInt8)
  | [] => some []
  | [_] => none
  | high :: low :: rest => do
      let high ← Hashed.lowerHexDigit? high
      let low ← Hashed.lowerHexDigit? low
      return (high * 16 + low).toUInt8 :: (← bytesOf? rest)

/-- The text that pairs of hexadecimal digits encode. -/
def textOf? (nibbles : List Char) : Option (List Char) := do
  let bytes ← bytesOf? nibbles
  let text ← String.fromUTF8? ⟨bytes.toArray⟩
  return text.toList

/-- Write an unsigned number.  One that does not fit in a machine word keeps its
digits. -/
def unsigned : Writer Unit :=
  reading () Reader.hexNibbles fun nibbles =>
    match wordOf? nibbles with
    | some value => put (toString value)
    | none => do
        put "0x"
        put (String.ofList nibbles)

/-- Write a text constant. -/
def textLiteral : Writer Unit :=
  reading () Reader.hexNibbles fun nibbles =>
    match textOf? nibbles with
    | some chars => literal '"' chars
    | none => fault .invalid

/-- What a special namespace is called. -/
def namespaceName (tag : Char) : String :=
  if tag = 'C' then "closure" else if tag = 'S' then "shim" else tag.toString

/-- Write the last name of a nested path. -/
def nestedName (tag : Option Char) (number : Nat) (name : Ident) : Writer Unit :=
  match tag with
  | some tag => do
      put "::\x7b"
      put (namespaceName tag)
      if !name.isEmpty then
        put ":"
        ident name
      put "#"
      put (toString number)
      put "\x7d"
  | none => do
      if !name.isEmpty then
        put "::"
        ident name

/-- Write the convention of a function type, whose dashes are written as underscores. -/
def convention (name : List Char) : Writer Unit := do
  put "extern \""
  putAll (((Text.pieces (· == '_') name).map String.ofList).intersperse "-")
  put "\" "

/-- Read and write the convention of a function type, if it has one, and go on. -/
def withConvention (isUnsafe : Bool) (next : Writer Unit) : Writer Unit := do
  let unsafety : Writer Unit := if isUnsafe then put "unsafe " else return ()
  if ← eat 'K' then
    if ← eat 'C' then
      unsafety
      convention ['C']
      next
    else
      reading () Reader.ident fun name =>
        if name.ascii.isEmpty || !name.punycode.isEmpty then
          fault .invalid
        else do
          unsafety
          convention name.ascii
          next
  else
    unsafety
    next

/-- Write a reference's lifetime, if it has one with a name. -/
def referenceLifetime (next : Writer Unit) : Writer Unit := do
  if ← eat 'L' then
    reading () Reader.integer62 fun index => do
      if index ≠ 0 then
        lifetime index
        put " "
      next
  else
    next

/-- Close the brackets of a list of one element with a comma, as a tuple needs. -/
def closeTuple (count : Nat) : Writer Unit := do
  if count = 1 then put ","
  put ")"

mutual

/-- Write a path.  Within a value its generic arguments stand behind a separator. -/
def path (name : List Char) (fuel : Nat) (inValue : Bool) : Writer Unit :=
  match fuel with
  | 0 => return ()
  | fuel + 1 =>
      reading () Reader.enter fun _ => reading () Reader.next fun tag => do
        if tag = 'C' then
          reading () Reader.disambiguator fun _ => reading () Reader.ident fun root =>
            ident root
        else if tag = 'N' then
          reading () Reader.namespaceTag fun space => do
            path name fuel inValue
            if let .error _ := (← get).cursor then put "::"
            reading () Reader.disambiguator fun number => reading () Reader.ident fun last =>
              nestedName space number last
        else if tag = 'M' then
          reading () Reader.disambiguator fun _ => do
            muted (path name fuel false)
            put "<"
            type name fuel
            put ">"
        else if tag = 'X' then
          reading () Reader.disambiguator fun _ => do
            muted (path name fuel false)
            put "<"
            type name fuel
            put " as "
            path name fuel false
            put ">"
        else if tag = 'Y' then
          put "<"
          type name fuel
          put " as "
          path name fuel false
          put ">"
        else if tag = 'I' then
          path name fuel inValue
          if inValue then put "::"
          put "<"
          let _ ← list ", " (genericArgument name fuel)
          put ">"
        else if tag = 'B' then
          referring name () (path name fuel inValue)
        else
          fault .invalid
        leave

/-- Write a generic argument: a lifetime, a constant or a type. -/
def genericArgument (name : List Char) (fuel : Nat) : Writer Unit :=
  match fuel with
  | 0 => return ()
  | fuel + 1 => do
      if ← eat 'L' then
        reading () Reader.integer62 lifetime
      else if ← eat 'K' then
        constant name fuel false
      else
        type name fuel

/-- Write a type, and in front of it the mark that its parts are passed one by one. -/
def type (name : List Char) (fuel : Nat) : Writer Unit :=
  match fuel with
  | 0 => return ()
  | fuel + 1 => do
      if ← eat 'w' then put "#[splat] "
      let before := (← get).cursor
      reading () Reader.next fun tag =>
        match basicTypes.lookup tag with
        | some basic => put basic
        | none =>
            reading () Reader.enter fun _ => do
              if tag = 'R' then
                put "&"
                referenceLifetime (type name fuel)
              else if tag = 'Q' then
                put "&"
                referenceLifetime do
                  put "mut "
                  type name fuel
              else if tag = 'P' then
                put "*"
                put "const "
                type name fuel
              else if tag = 'O' then
                put "*"
                put "mut "
                type name fuel
              else if tag = 'A' then
                put "["
                type name fuel
                put "; "
                constant name fuel true
                put "]"
              else if tag = 'S' then
                put "["
                type name fuel
                put "]"
              else if tag = 'T' then
                put "("
                closeTuple (← list ", " (type name fuel))
              else if tag = 'F' then
                bound do
                  let isUnsafe ← eat 'U'
                  withConvention isUnsafe do
                    put "fn("
                    let _ ← list ", " (type name fuel)
                    put ")"
                    if !(← eat 'u') then
                      put " -> "
                      type name fuel
              else if tag = 'D' then
                put "dyn "
                bound do
                  let _ ← list " + " (boundTrait name fuel)
                if ← eat 'L' then
                  reading () Reader.integer62 fun index => do
                    if index ≠ 0 then
                      put " + "
                      lifetime index
                else
                  fault .invalid
              else if tag = 'B' then
                referring name () (type name fuel)
              else if tag = 'W' then
                type name fuel
                put " is "
                pattern name fuel
              else
                modify fun press =>
                  { press with
                    cursor := press.cursor.bind fun cursor => before.map fun start =>
                      { start with depth := cursor.depth } }
                path name fuel false
              leave

/-- Write a trait of a trait object, leaving the list of its generic arguments open.
The result tells whether there is an open list. -/
def openTrait (name : List Char) (fuel : Nat) : Writer Bool :=
  match fuel with
  | 0 => return false
  | fuel + 1 => do
      if ← eat 'B' then
        referring name false (openTrait name fuel)
      else if ← eat 'I' then
        path name fuel false
        put "<"
        let _ ← list ", " (genericArgument name fuel)
        return true
      else
        path name fuel false
        return false

/-- Write the associated types and constants of a trait of a trait object, and close
their list. -/
def associated (name : List Char) (fuel : Nat) (isOpen : Bool) : Writer Unit :=
  match fuel with
  | 0 => return ()
  | fuel + 1 => do
      if ← eat 'p' then
        put (if isOpen then ", " else "<")
        reading () Reader.ident fun member => do
          ident member
          put " = "
          if ← eat 'K' then
            constant name fuel false
          else
            type name fuel
          associated name fuel true
      else
        if isOpen then put ">"

/-- Write a trait of a trait object. -/
def boundTrait (name : List Char) (fuel : Nat) : Writer Unit :=
  match fuel with
  | 0 => return ()
  | fuel + 1 => do
      associated name fuel (← openTrait name fuel)

/-- Write a pattern that narrows a type. -/
def pattern (name : List Char) (fuel : Nat) : Writer Unit :=
  match fuel with
  | 0 => return ()
  | fuel + 1 =>
      reading () Reader.next fun tag => do
        if tag = 'R' then
          constant name fuel false
          put "..="
          constant name fuel false
        else if tag = 'O' then
          reading () Reader.enter fun _ => do
            pattern name fuel
            alternatives (pattern name fuel)
        else if tag = 'N' then
          put "!null"
        else
          fault .invalid

/-- Write a constant.  Outside a value, all but plain literals stand in braces. -/
def constant (name : List Char) (fuel : Nat) (inValue : Bool) : Writer Unit :=
  match fuel with
  | 0 => return ()
  | fuel + 1 =>
      reading () Reader.next fun tag => reading () Reader.enter fun _ => do
        let opening : Writer Unit := if inValue then return () else put "\x7b"
        let closing : Writer Unit := do
          if !inValue then put "\x7d"
          leave
        if tag = 'p' then
          put "_"
          leave
        else if "htmyoj".toList.contains tag then
          unsigned
          leave
        else if "aslxni".toList.contains tag then
          if ← eat 'n' then put "-"
          unsigned
          leave
        else if tag = 'b' then
          reading () Reader.hexNibbles fun nibbles => do
            match wordOf? nibbles with
            | some 0 => put "false"
            | some 1 => put "true"
            | _ => fault .invalid
            leave
        else if tag = 'c' then
          reading () Reader.hexNibbles fun nibbles => do
            match (wordOf? nibbles).bind Hashed.charOfCode? with
            | some c => literal '\'' [c]
            | none => fault .invalid
            leave
        else if tag = 'e' then
          opening
          put "*"
          textLiteral
          closing
        else if tag = 'R' || tag = 'Q' then
          if ← (if tag = 'R' then eat 'e' else return false) then
            textLiteral
            leave
          else
            opening
            put "&"
            if tag = 'Q' then put "mut "
            constant name fuel true
            closing
        else if tag = 'A' then
          opening
          put "["
          let _ ← list ", " (constant name fuel true)
          put "]"
          closing
        else if tag = 'T' then
          opening
          put "("
          closeTuple (← list ", " (constant name fuel true))
          closing
        else if tag = 'V' then
          opening
          path name fuel true
          reading () Reader.next fun shape => do
            if shape = 'U' then
              closing
            else if shape = 'T' then
              put "("
              let _ ← list ", " (constant name fuel true)
              put ")"
              closing
            else if shape = 'S' then
              put " \x7b "
              let _ ← list ", " do
                reading () Reader.disambiguator fun _ => reading () Reader.ident fun field => do
                  ident field
                  put ": "
                  constant name fuel true
              put " \x7d"
              closing
            else
              fault .invalid
        else if tag = 'B' then
          referring name () (constant name fuel inValue)
          leave
        else
          fault .invalid

end

/-- How deep reading can get: each level of nesting passes few kinds of parts, and the
associated types of one trait are read one inside the other. -/
def fuelFor (name : List Char) : Nat :=
  (Reader.deepest + 1) * (name.length + 8)

/-- Where the reading of a path ends. -/
def pathEnd (name : List Char) (cursor : Cursor) : Except Broken Cursor :=
  match (path name (fuelFor name) false).run ⟨.ok cursor, true, "", 0, 0⟩ with
  | .ok (_, press) => press.cursor
  | .error _ => .error .invalid

/-- What follows the path of a name and the path of the unit it was made for. -/
def rest? (name : List Char) : Except Broken (List Char) := do
  let afterPath ← pathEnd name ⟨0, name, 0⟩
  match afterPath.rest with
  | c :: _ =>
      if 'A' ≤ c && c ≤ 'Z' then
        return (← pathEnd name afterPath).rest
      else
        return afterPath.rest
  | [] => return []

/-- A path as it is shown. -/
def shown (name : List Char) : String :=
  match (path name (fuelFor name) true).run ⟨.ok ⟨0, name, 0⟩, false, "", longestText, 0⟩ with
  | .ok (_, press) => press.written
  | .error stopped => stopped.written ++ "\x7bsize limit reached\x7d"

/-- The beginnings of a structured name. -/
def openings : List String :=
  ["_R", "R", "__R"]

/-- A structured name as it is shown, and what follows it. -/
def read? (name : List Char) : Option (List Char × List Char) :=
  match Hashed.afterOpening? openings name with
  | none => none
  | some inner =>
      match inner with
      | [] => none
      | c :: _ =>
          if ('A' ≤ c && c ≤ 'Z') && inner.all (fun c => c.toNat < 0x80) then
            match rest? inner with
            | .ok rest => some ((shown inner).toList, rest)
            | .error _ => none
          else
            none

end StopView.Symbol.Structured

import StopView.Count
import StopView.Logging.Level
import StopView.Logging.Pattern
import StopView.Text.Pieces

/-!
# Which log events are let through

A filter is a list of directives.  Each names a family of targets by how they begin,
perhaps a field that an event must have, and the most detailed level let through for
them.  Of the directives that cover an event the one with the longest beginning governs
it, then one that names a field, and of two equal ones the later.  What no directive
covers is not let through.

A directive is written as a level, as a target, or as both with an equals sign in
between; a target alone lets everything through.  Brackets behind the target hold the
name of a span, a field in braces, or both.  Directives are separated by commas.
-/

namespace StopView

/-- Something that was logged. -/
structure LogEvent where
  target : String
  level : LogLevel
  message : String
deriving Repr, DecidableEq

/-- The most detailed level that is let through, if any is. -/
abbrev Threshold := Option LogLevel

namespace Threshold

/-- Whether a level is let through. -/
def admits (threshold : Threshold) (level : LogLevel) : Bool :=
  match threshold with
  | some most => decide (level.detail ≤ most.detail)
  | none => false

/-- The numbers for thresholds. -/
def numbers : List (Nat × Threshold) :=
  [(0, none), (1, some .error), (2, some .warn), (3, some .info), (4, some .debug),
   (5, some .trace)]

/-- The names of thresholds. -/
def names : List (String × Threshold) :=
  [("off", none), ("error", some .error), ("warn", some .warn), ("info", some .info),
   ("debug", some .debug), ("trace", some .trace)]

/-- Read a threshold from its number or its name, whose ASCII letters may have any
case. -/
def parse? (text : String) : Option Threshold :=
  match (parseCount? text).bind fun number => numbers.lookup number with
  | some threshold => some threshold
  | none => names.lookup (String.ofList (text.toList.map Char.toLower))

end Threshold

/-- The threshold for events whose targets begin in a certain way and which have a
certain field, if one is named. -/
structure Directive where
  beginning : String
  field : Option String
  threshold : Threshold
deriving Repr, DecidableEq

namespace Directive

/-- The only field of an event: what it says. -/
def messageField : String :=
  "message"

/-- Whether an event has what a directive asks for. -/
def covers (directive : Directive) (event : LogEvent) : Bool :=
  directive.beginning.toList.isPrefixOf event.target.toList &&
    (directive.field.getD messageField == messageField)

/-- Whether a directive is at most as particular as another one: the longer beginning
counts, then a field. -/
def atMostAsParticular (directive other : Directive) : Bool :=
  decide (directive.beginning.length < other.beginning.length) ||
    (directive.beginning.length == other.beginning.length &&
      (directive.field.isNone || other.field.isSome))

end Directive

/-- What a part of a filter is about: events, or only spans, and nothing is ever logged
within a span. -/
inductive FilterPart where
  | events (directive : Directive)
  | spans
deriving Repr, DecidableEq

namespace FilterPart

/-! ## Reading one part

A part is read from its first character that is no blank to its last one.  The places
found on the way are counted in bytes from there, but the pieces between them are taken
from the beginning of the part, its leading blanks included. -/

/-- Drop the characters in front of a place that is counted in bytes. -/
def dropBytes : Nat → List Char → List Char
  | _, [] => []
  | count, c :: rest =>
      if count = 0 then c :: rest else dropBytes (count - c.utf8Size) rest

/-- The characters in front of a place that is counted in bytes. -/
def takeBytes : Nat → List Char → List Char
  | _, [] => []
  | count, c :: rest => if count = 0 then [] else c :: takeBytes (count - c.utf8Size) rest

/-- The piece between two places. -/
def piece (text : List Char) (start stop : Nat) : List Char :=
  dropBytes start (takeBytes stop text)

/-- A field that a part asks for. -/
structure Field where
  name : String
  hasValue : Bool
deriving Repr, DecidableEq

/-- How far a part has been read. -/
inductive Stage where
  | start
  | word
  | span (start : Nat)
  | field (start : Nat)
  | fieldClosed
  | spanClosed
  | level (start : Nat)
deriving Repr, DecidableEq

/-- What has been read of a part. -/
structure Draft where
  stage : Stage
  beginning : String
  hasSpan : Bool
  field : Option Field
deriving Repr, DecidableEq

/-- Before anything was read. -/
def Draft.empty : Draft :=
  ⟨.start, "", false, none⟩

/-- Whether a part can begin with a character, other than the bracket of a span. -/
def opens (c : Char) : Bool :=
  c == '-' || c == ':' || c == '_' || Text.isAlphanumeric c

/-- Whether a text is a number behind a plus sign. -/
def isPlusNumber (text : List Char) : Bool :=
  match text with
  | '+' :: rest =>
      let word := String.ofList (rest.map Char.toLower)
      let whole := rest.takeWhile Char.isDigit
      let afterWhole := rest.drop whole.length
      let part :=
        if afterWhole.head? = some '.' then (afterWhole.drop 1).takeWhile Char.isDigit else []
      let afterPart :=
        if afterWhole.head? = some '.' then afterWhole.drop (part.length + 1) else afterWhole
      let power := afterPart.drop 1
      let figures :=
        if power.head? = some '+' || power.head? = some '-' then power.drop 1 else power
      ["inf", "infinity", "nan"].contains word ||
        (!(whole.isEmpty && part.isEmpty) &&
          (afterPart.isEmpty ||
            ((afterPart.head? = some 'e' || afterPart.head? = some 'E') &&
              !figures.isEmpty && figures.all Char.isDigit)))
  | _ => false

/-- Read a field: its name, and behind an equals sign a value, which is a number or a
pattern.  What follows a second equals sign does not count. -/
def Field.ofText? (text : List Char) : Option Field :=
  match (Text.pieces (· == '=') text) with
  | name :: value :: _ =>
      if isPlusNumber value || isPattern (String.ofList value) then
        some ⟨String.ofList name, true⟩
      else
        none
  | [name] => some ⟨String.ofList name, false⟩
  | [] => none

/-- Read the character at a place. -/
def Draft.step (text : List Char) (draft : Draft) (place : Nat) (c : Char) : Option Draft :=
  match draft.stage with
  | .start =>
      if c = '[' then some { draft with stage := .span (place + 1) }
      else if opens c then some { draft with stage := .word }
      else none
  | .word =>
      let beginning := String.ofList (piece text 0 place)
      if c = '=' then some { draft with stage := .level (place + 1), beginning }
      else if c = '[' then some { draft with stage := .span (place + 1), beginning }
      else some draft
  | .span start =>
      if c = ']' then some { draft with stage := .spanClosed, hasSpan := true }
      else if c = '\x7b' then
        some { draft with
          stage := .field (place + 1)
          hasSpan := !(piece text start place).isEmpty }
      else some draft
  | .field start =>
      if c = '\x7d' then
        let inner := piece text start place
        if inner.isEmpty then none
        else
          (Field.ofText? inner).map fun field =>
            { draft with stage := .fieldClosed, field := some field }
      else some draft
  | .fieldClosed => if c = ']' then some { draft with stage := .spanClosed } else none
  | .spanClosed => if c = '=' then some { draft with stage := .level (place + 1) } else none
  | .level _ => some draft

/-- Read characters from a place on. -/
def Draft.steps (text : List Char) (draft : Draft) : Nat → List Char → Option Draft
  | _, [] => some draft
  | place, c :: rest =>
      (draft.step text place c).bind fun draft => draft.steps text (place + c.utf8Size) rest

/-- The part that has been read, with the threshold that it sets.  A part that names a
span or the value of a field is about spans. -/
def Draft.close (draft : Draft) (threshold : Threshold) : FilterPart :=
  if draft.hasSpan || draft.field.any Field.hasValue then .spans
  else .events ⟨draft.beginning, draft.field.map Field.name, threshold⟩

/-- A part written as one word: a level for all targets, or else a target. -/
def ofWord (word : String) : FilterPart :=
  match Threshold.parse? word with
  | some threshold => .events ⟨"", none, threshold⟩
  | none => .events ⟨word, none, some .trace⟩

/-- Read one part.  No level at all lets everything through. -/
def parse? (text : String) : Option FilterPart := do
  let draft ← Draft.empty.steps text.toList 0 (Text.trimChars text.toList)
  match draft.stage with
  | .word => return ofWord text
  | .spanClosed => return draft.close (some .trace)
  | .level start =>
      let level := dropBytes start text.toList
      if level.isEmpty then return draft.close (some .trace)
      else return draft.close (← Threshold.parse? (String.ofList level))
  | _ => none

/-- The directive of a part that is about events. -/
def directive? : FilterPart → Option Directive
  | .events directive => some directive
  | .spans => none

end FilterPart

/-- The directives in force, in the order in which they were given. -/
structure Filter where
  directives : List Directive
deriving Repr, DecidableEq

namespace Filter

/-- One threshold for all targets. -/
def ofLevel (level : LogLevel) : Filter :=
  ⟨[⟨"", none, some level⟩]⟩

/-- Read a filter. -/
def parse? (text : String) : Option Filter :=
  let words := (Text.pieces (· == ',') text.toList).filter fun word => !word.isEmpty
  (words.mapM fun word => FilterPart.parse? (String.ofList word)).map fun parts =>
    ⟨parts.filterMap FilterPart.directive?⟩

/-- Prefer a directive that covers an event to a less particular one. -/
def prefer (event : LogEvent) (best : Option Directive) (directive : Directive) :
    Option Directive :=
  if directive.covers event then
    match best with
    | some other => if other.atMostAsParticular directive then some directive else best
    | none => some directive
  else
    best

/-- The directive that governs an event. -/
def governing? (filter : Filter) (event : LogEvent) : Option Directive :=
  filter.directives.foldl (prefer event) none

/-- Whether an event is let through. -/
def admits (filter : Filter) (event : LogEvent) : Bool :=
  match filter.governing? event with
  | some directive => directive.threshold.admits event.level
  | none => false

end Filter

end StopView

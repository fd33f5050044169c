import StopView.Lifecycle
import StopView.Report
import StopView.Section.Block
import StopView.Settings.Change

/-!
# Sessions

A session is everything that outlives one view: the settings, the register snapshot,
the source cache, the record of the latest lifecycle event, and the channel on which
events wait.

A view is made in stages.  Waiting events are recorded; the request is reduced to a
list of sections; the sections are rendered, those with a destination of their own
first; the lines are put together to batches; the batches are delivered.

Starting or ending a debugging session forgets what was remembered and recorded.  The
settings stay, and so does the channel with the events that wait on it.
-/

namespace StopView

/-- A channel and the events that wait on it.  Channels are numbered as they are
opened. -/
structure EventChannel where
  number : Nat
  waiting : List LifecycleEvent
deriving Repr, DecidableEq

/-- The state of a session. -/
structure Session where
  settings : Settings
  memory : ViewMemory
  lifecycle : LifecycleRecord
  channel : Option EventChannel
  opened : Nat
  highlighter : Highlighter
  width : BannerWidth

/-- A session after an operation: its result, and how often the inspector's extensions
were asked for. -/
structure Turn (α : Type) where
  session : Session
  checks : Nat
  result : α

namespace Session

/-- A session in which nothing has happened. -/
def fresh (settings : Settings) (highlighter : Highlighter) (width : BannerWidth) : Session where
  settings
  memory := .empty
  lifecycle := .empty
  channel := none
  opened := 0
  highlighter
  width

/-- The palette that the settings ask for. -/
def palette (session : Session) : Palette :=
  ⟨session.settings.colour, session.width.columns⟩

/-- The session once the terminal answers otherwise when it is asked for its width. -/
def resize (session : Session) (answer : Option Nat) : Session :=
  { session with width := session.width.resized answer }

/-- Apply a change of the settings that was read or refused. -/
def applyRead (session : Session) (change : Except Failure Change) : Session :=
  { session with settings := session.settings.applyRead change }

/-! ## Lifecycle -/

/-- Open a channel, in place of any earlier one. -/
def subscribe (session : Session) : Session :=
  { session with channel := some ⟨session.opened, []⟩, opened := session.opened + 1 }

/-- Let an event wait on a channel.  Only the latest channel takes events. -/
def send (session : Session) (number : Nat) (event : LifecycleEvent) : Session × Bool :=
  match session.channel with
  | some channel =>
      if channel.number = number then
        ({ session with channel := some { channel with waiting := channel.waiting ++ [event] } },
          true)
      else
        (session, false)
  | none => (session, false)

/-- The events that wait. -/
def waiting (session : Session) : List LifecycleEvent :=
  match session.channel with
  | some channel => channel.waiting
  | none => []

/-- Forget what was remembered and recorded. -/
def reset (session : Session) : Session :=
  { session with memory := .empty, lifecycle := .empty }

/-- A debugging session starts. -/
def start (session : Session) : Noted Session :=
  ⟨session.reset, [.sessionStarted]⟩

/-- A debugging session ends. -/
def finish (session : Session) : Noted Session :=
  ⟨session.reset, [.sessionEnded]⟩

/-- Record events in order. -/
def recordEvents (session : Session) (inspector : Inspector) (events : List LifecycleEvent) :
    Noted (Turn Unit) :=
  let recorded := session.lifecycle.recordAll inspector session.palette events
  ⟨⟨{ session with lifecycle := recorded.record }, recorded.checks, ()⟩,
    events.map fun _ => .lifecycleRecorded⟩

/-- Record the events that wait. -/
def pollEvents (session : Session) (inspector : Inspector) : Noted (Turn Unit) :=
  let channel := session.channel.map fun channel => { channel with waiting := [] }
  recordEvents { session with channel } inspector session.waiting

/-- Record an event that the host reports directly, after those that wait. -/
def onEvent (session : Session) (inspector : Inspector) (event : LifecycleEvent) :
    Noted (Turn Unit) := do
  let polled ← session.pollEvents inspector
  let recorded ← polled.session.recordEvents inspector [event]
  return ⟨recorded.session, polled.checks + recorded.checks, ()⟩

/-! ## Views -/

/-- The sections that keys ask for, each once; a letter without a section is left out
with a warning. -/
def sectionsOfKeys (keys : List SectionKey) : Noted (List Section) :=
  ⟨firstOccurrences (keys.filterMap SectionKey.part?),
    keys.filterMap fun key =>
      match key with
      | .known _ => none
      | .unknown letter => some (.sectionUnknown letter)⟩

/-- The sections of a request.  Without tokens these are the sections of the settings. -/
def requestedSections (settings : Settings) (tokens : List String) : Noted (List Section) :=
  if tokens.isEmpty then
    sectionsOfKeys (settings.sections.map .known)
  else
    sectionsOfKeys (tokens.filterMap SectionKey.ofToken?)

/-- The order in which sections are rendered: those with a destination of their own
first. -/
def renderingOrder (settings : Settings) (sections : List Section) : List Section :=
  sections.filter (fun part => !isMain settings.sectionOutputs part) ++
    sections.filter (isMain settings.sectionOutputs)

/-- The scene that a session renders. -/
def scene (session : Session) (inspector : Inspector) (files : FileSystem) : Scene :=
  ⟨inspector, session.settings, session.palette, files, session.highlighter⟩

/-- The lines of sections, in the order of rendering, and the session afterwards. -/
def renderSections (session : Session) (inspector : Inspector) (files : FileSystem)
    (sections : List Section) : Noted (List SectionLines × Session) := do
  let order := renderingOrder session.settings sections
  let (blocks, memory) ← (session.scene inspector files).blocks order session.memory
  return (List.zipWith SectionLines.mk order blocks, { session with memory })

/-- The batches of a view, and the session after it. -/
def compose (session : Session) (inspector : Inspector) (files : FileSystem)
    (terminal : Option Path) (tokens : List String) : Noted (Turn (List Batch)) := do
  let polled ← session.pollEvents inspector
  let sections ← requestedSections polled.session.settings tokens
  let (lines, session) ← polled.session.renderSections inspector files sections
  let batches ←
    assemble session.settings session.palette terminal lines session.lifecycle.lines
  return ⟨session, polled.checks, batches⟩

/-- Make a view and deliver it. -/
def refresh (session : Session) (inspector : Inspector) (world : World)
    (tokens : List String) : Noted (Turn Delivery) := do
  let composed ← session.compose inspector world.files world.terminal tokens
  let delivery ← world.deliverAll composed.result composed.session.settings.clearScreen
  return ⟨composed.session, composed.checks, delivery⟩

/-- The lines of the register view alone. -/
def renderRegisters (session : Session) (inspector : Inspector) (asked : Option (List String)) :
    Noted (Turn (List String)) := do
  let lines ←
    StopView.renderRegisters inspector session.settings session.palette session.memory.snapshot
      asked
  let memory := { session.memory with snapshot := inspector.snapshot }
  return ⟨{ session with memory }, 0, lines⟩

/-- Write lines to the primary stream, wherever the main batch goes. -/
def writePrimary (world : World) (lines : List String) : Noted Delivery :=
  world.deliverAll [⟨.primary, lines⟩] false

end Session

end StopView

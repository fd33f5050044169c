import Mathlib.Data.List.Infix
import StopView.Proofs.Register.Lines
import StopView.Proofs.Source.Alike

/-!
# The same view again

A view leaves a session in which the same view finds nothing more to do: no event waits, the
snapshot is that of what can be seen, and the source cache has the current file if it can be
read at all.  As long as the inspector answers the same and the current source file keeps its
content, or stays unreadable, the view then hands the same batches to the router however often
it is repeated, and leaves the session as it is.  What becomes of the deliveries has no part in
this.
-/

namespace StopView

/-! ## Settled sessions -/

namespace Session

variable {session : Session} {inspector : Inspector} {files : FileSystem} {tokens : List String}

/-- A session in which a view finds nothing to do: no event waits, and what the view would
remember is remembered already. -/
structure Settled (session : Session) (inspector : Inspector) (files : FileSystem)
    (tokens : List String) : Prop where
  idle : session.waiting = []
  snapshot : .registers ∈ namedSections session.settings tokens →
    session.memory.snapshot = inspector.snapshot
  sources : .code ∈ namedSections session.settings tokens →
    (session.scene inspector files).sourcesAfter session.memory.sources = session.memory.sources

theorem waiting_pollEvents (session : Session) (inspector : Inspector) :
    (session.pollEvents inspector).value.session.waiting = [] := by
  rcases session with ⟨settings, memory, lifecycle, channel, opened, highlighter, width⟩
  cases channel <;> rfl

theorem pollEvents_of_idle (idle : session.waiting = []) (inspector : Inspector) :
    session.pollEvents inspector = ⟨⟨session, 0, ()⟩, []⟩ := by
  rcases session with ⟨settings, memory, lifecycle, channel, opened, highlighter, width⟩
  have emptied : channel.map (fun channel => { channel with waiting := [] }) = channel := by
    cases channel with
    | none => rfl
    | some channel =>
        rcases channel with ⟨number, waiting⟩
        cases idle
        rfl
  simp only [pollEvents, idle, emptied]
  rfl

theorem settled_refresh (session : Session) (inspector : Inspector) (world : World)
    (tokens : List String) :
    (session.refresh inspector world tokens).value.session.Settled inspector world.files
      tokens where
  idle := session.waiting_pollEvents inspector
  snapshot named := by
    rw [session.memory_refresh inspector world tokens]
    exact if_pos named
  sources named := by
    -- The second view is of the same scene, which does not hold what is remembered.
    let scene := session.scene inspector world.files
    change .code ∈ namedSections session.settings tokens at named
    change scene.sourcesAfter _ = _
    rw [session.memory_refresh inspector world tokens]
    simp only [if_pos named]
    exact SourceCache.use_view_again scene.highlighter session.memory.sources scene

/-- The batches of a view are the same wherever the source file reads alike. -/
theorem result_refresh_of_sourceAlike (session : Session) {world : World}
    (alike : inspector.SourceAlike files world.files) (tokens : List String) :
    (session.refresh inspector world tokens).value.result =
      (world.deliverAll (session.compose inspector files world.terminal tokens).value.result
        session.settings.clearScreen).value := by
  rw [← session.result_compose_of_sourceAlike alike]
  rfl

namespace Settled

variable (settled : session.Settled inspector files tokens)

section Alike

variable {world : World} (alike : inspector.SourceAlike files world.files)

include settled alike

theorem memory_refresh :
    (session.refresh inspector world tokens).value.session.memory = session.memory := by
  rw [session.memory_refresh, session.sourcesAfter_of_sourceAlike alike]
  congr 1
  · split
    · next named => exact (settled.snapshot named).symm
    · rfl
  · split
    · next named => exact settled.sources named
    · rfl

theorem refresh_eq :
    (session.refresh inspector world tokens).value =
      ⟨session, 0,
        (world.deliverAll (session.compose inspector files world.terminal tokens).value.result
          session.settings.clearScreen).value⟩ := by
  have polled := pollEvents_of_idle settled.idle inspector
  have rests : (session.refresh inspector world tokens).value.session = session := by
    calc
      (session.refresh inspector world tokens).value.session =
          { (session.pollEvents inspector).value.session with
            memory := (session.refresh inspector world tokens).value.session.memory } := rfl
      _ = session := by
          rw [settled.memory_refresh alike, polled]
  have checks : (session.refresh inspector world tokens).value.checks = 0 := by
    change (session.pollEvents inspector).value.checks = 0
    rw [polled]
  calc
    (session.refresh inspector world tokens).value =
        ⟨(session.refresh inspector world tokens).value.session,
          (session.refresh inspector world tokens).value.checks,
          (session.refresh inspector world tokens).value.result⟩ := rfl
    _ = _ := by
        rw [rests, checks, session.result_refresh_of_sourceAlike alike]

end Alike

include settled

/-- The batches of a settled session are put together from its sections and from what is
recorded, and its registers have all kept their values. -/
theorem result_compose (terminal : Option Path) :
    let shown := linesOf (session.rendered inspector files tokens)
    (session.compose inspector files terminal tokens).value.result =
        viewBatches session.settings session.palette terminal
          (requestedSections session.settings tokens).value shown session.lifecycle.lines ∧
      (.registers ∈ namedSections session.settings tokens →
        shown .registers =
          session.palette.banner "registers" ::
            (inspector.shownRegisters session.settings none).map
              (inspector.steadyLine session.settings session.palette)) := by
  intro shown
  constructor
  · rw [session.result_compose, pollEvents_of_idle settled.idle]
  · intro named
    change linesOf (session.rendered inspector files tokens) .registers = _
    rw [session.linesOf_rendered_registers inspector named, settled.snapshot named,
      inspector.value_renderRegisters_snapshot]

end Settled

end Session

/-! ## Repeating a view -/

/-- An operation that repeats a view, directly or by a command, or that puts another world
around the session, on the same terminal. -/
def Operation.Repeats (inspector : Inspector) (tokens : List String) (terminal : Option Path)
    (operation : Operation) : Prop :=
  operation.command? inspector = some (.context tokens) ∨
    ∃ world, operation = .outside world ∧ world.terminal = terminal

namespace Situation

/-- Between two situations at most the world has changed, and not its terminal. -/
structure Unmoved (before after : Situation) : Prop where
  session : after.session = before.session
  checks : after.checks = before.checks
  terminal : after.world.terminal = before.world.terminal

theorem Unmoved.trans {first second third : Situation} (early : first.Unmoved second)
    (late : second.Unmoved third) : first.Unmoved third where
  session := late.session.trans early.session
  checks := late.checks.trans early.checks
  terminal := late.terminal.trans early.terminal

variable {situation : Situation} {inspector : Inspector} {files : FileSystem}
  {tokens : List String} {operation : Operation}

theorem perform_of_context (view : operation.command? inspector = some (.context tokens)) :
    (situation.perform inspector operation).value =
      (situation.perform inspector (.refresh tokens)).value := by
  cases operation with
  | refresh asked =>
      cases view
      rfl
  | command words =>
      exact situation.perform_command_of_context inspector (toOption_eq_some_iff.mp view)
  | _ => contradiction

theorem batches_of_context (view : operation.command? inspector = some (.context tokens)) :
    situation.batches inspector operation =
      (situation.session.compose inspector situation.world.files situation.world.terminal
        tokens).value.result := by
  cases operation with
  | refresh asked =>
      cases view
      rfl
  | command words =>
      simp only [batches, view]
      rfl
  | _ => contradiction

section Settled

variable (settled : situation.session.Settled inspector files tokens)
  (alike : inspector.SourceAlike files situation.world.files)

include settled alike

/-- Refreshing a settled session delivers its batches, and nothing else happens. -/
theorem perform_refresh_of_settled :
    (situation.perform inspector (.refresh tokens)).value =
      situation.afterDelivery
        (situation.world.deliverAll
          (situation.session.compose inspector files situation.world.terminal tokens).value.result
          situation.session.settings.clearScreen).value := by
  change (situation.afterTurn _).afterDelivery _ = _
  rw [settled.refresh_eq alike]
  rfl

/-- A settled session stays as it is when its view is repeated. -/
theorem unmoved_perform
    (again : operation.Repeats inspector tokens situation.world.terminal) :
    situation.Unmoved (situation.perform inspector operation).value.1 := by
  rcases again with view | ⟨world, rfl, attached⟩
  · rw [perform_of_context view, perform_refresh_of_settled settled alike]
    exact ⟨rfl, rfl, Delivery.terminal_deliverAll ⟨situation.world, .empty⟩ _ _⟩
  · exact ⟨rfl, rfl, attached⟩

omit settled in
theorem batches_of_repeats
    (again : operation.Repeats inspector tokens situation.world.terminal) :
    situation.batches inspector operation =
      if (operation.command? inspector).isSome then
        (situation.session.compose inspector files situation.world.terminal tokens).value.result
      else [] := by
  rcases again with view | ⟨world, rfl, attached⟩
  · rw [batches_of_context view, view, situation.session.result_compose_of_sourceAlike alike]
    rfl
  · rfl

end Settled

/-- The situation after some operations, with the same inspector at all of them. -/
def afterwards (situation : Situation) (inspector : Inspector) (operations : List Operation) :
    Situation :=
  (situation.run (operations.map (Prod.mk inspector))).value.1

/-- However often the view of a settled session is repeated, the session stays as it is and
the same batches are delivered every time. -/
theorem unmoved_run (operations : List Operation)
    (settled : situation.session.Settled inspector files tokens)
    (again : ∀ operation ∈ operations, operation.Repeats inspector tokens situation.world.terminal)
    (steady : ∀ earlier, earlier <+: operations →
      inspector.SourceAlike files (situation.afterwards inspector earlier).world.files) :
    situation.Unmoved (situation.afterwards inspector operations) ∧
      situation.deliveries (operations.map (Prod.mk inspector)) =
        operations.map fun operation =>
          if (operation.command? inspector).isSome then
            (situation.session.compose inspector files situation.world.terminal
              tokens).value.result
          else [] := by
  induction operations generalizing situation with
  | nil => exact ⟨⟨rfl, rfl, rfl⟩, rfl⟩
  | cons operation rest ih =>
      have alike : inspector.SourceAlike files situation.world.files :=
        steady [] List.nil_prefix
      have first := again operation List.mem_cons_self
      have step := unmoved_perform settled alike first
      have further := fun other listed => again other (List.mem_cons_of_mem operation listed)
      rw [← step.session] at settled
      rw [← step.terminal] at further
      obtain ⟨later, delivered⟩ := ih settled further fun earlier before =>
        steady (operation :: earlier) (List.cons_prefix_cons.mpr ⟨rfl, before⟩)
      constructor
      · exact step.trans later
      · rw [step.session, step.terminal] at delivered
        rw [List.map_cons, List.map_cons, deliveries, batches_of_repeats alike first, delivered]

/-- After one refresh the same view can be repeated as often as one likes, directly or by a
command, and whatever else becomes of the world.  As long as the inspector and the terminal are
the same and the current source file keeps its content, or stays unreadable, every repetition
hands the same batches to the router, and what the router does with them is all that happens:
the session is the one that the first refresh left.  In the batches every register has kept its
value: blanks stand where the marker would be, and no bit is shown as flipped. -/
theorem refresh_is_stationary_after_the_first (situation : Situation) (inspector : Inspector)
    (tokens : List String) (operations : List Operation) :
    let once := situation.afterwards inspector [.refresh tokens]
    let last := once.afterwards inspector operations
    let settings := situation.session.settings
    let palette := situation.session.palette
    let files := situation.world.files
    let terminal := situation.world.terminal
    let shown := Session.linesOf (once.session.rendered inspector files tokens)
    let batches := viewBatches settings palette terminal
      (Session.requestedSections settings tokens).value shown once.session.lifecycle.lines
    (∀ operation ∈ operations, operation.Repeats inspector tokens terminal) →
    (∀ earlier, earlier <+: operations →
      inspector.SourceAlike files (once.afterwards inspector earlier).world.files) →
      once.Unmoved last ∧
      once.deliveries (operations.map (Prod.mk inspector)) =
        operations.map (fun operation =>
          if (operation.command? inspector).isSome then batches else []) ∧
      (last.perform inspector (.refresh tokens)).value =
        last.afterDelivery (last.world.deliverAll batches settings.clearScreen).value ∧
      (.registers ∈ Session.namedSections settings tokens →
        shown .registers = palette.banner "registers" ::
          (inspector.shownRegisters settings none).map
            (inspector.steadyLine settings palette)) := by
  intro once last settings palette files terminal shown batches again steady
  have settled : once.session.Settled inspector files tokens :=
    situation.session.settled_refresh inspector situation.world tokens
  have attached : once.world.terminal = terminal := by
    change (situation.perform inspector (.refresh tokens)).value.1.world.terminal = _
    rw [situation.world_perform]
    exact Delivery.terminal_deliverAll ⟨situation.world, .empty⟩ _ _
  obtain ⟨composed, registers⟩ := settled.result_compose terminal
  rw [← attached] at again
  obtain ⟨unmoved, delivered⟩ := unmoved_run operations settled again steady
  rw [attached] at delivered
  have settledLast := settled
  rw [← unmoved.session] at settledLast
  constructor
  · exact unmoved
  constructor
  · rw [delivered, composed]
    rfl
  constructor
  · rw [perform_refresh_of_settled settledLast (steady operations List.prefix_rfl),
      unmoved.terminal, unmoved.session, attached, composed]
    rfl
  · exact registers

/-- A program that has stopped in the first line of a file, with some value in its flag
register. -/
def flaggedScript (pc flags : UInt64) : Script :=
  { Session.firstLineScript with registers := [("rip", pc), ("eflags", flags)] }

/-- A world in which the first line of the file can be read. -/
def firstLineWorld (mood : StreamMood) : World :=
  ⟨FileSystem.initial.put ["work", "main.c"] (.file "one\ntwo\n".toUTF8),
    { PrimaryStream.fresh with mood }, none⟩

/-- The registers were seen, with other values than those that they have later. -/
def seenBefore : Situation :=
  let outputs := { SectionOutputs.together with registers := .split (.path ⟨"registers"⟩) }
  let settings :=
    { Settings.initial with colour := false, showFlags := true, sectionOutputs := outputs }
  let start : Situation :=
    ⟨.fresh settings plainHighlighter 12, firstLineWorld .accepting, 0⟩
  (start.perform (flaggedScript 1 64).inspector (.refresh ["r"])).value.1

/-- The registers were seen with other values before the first refresh, which marks them.  The
view is then repeated by a command while the stream is closed, and once more by a refresh:
both times nothing is marked, and the session stays as the first refresh left it. -/
theorem only_first_refresh_marks_registers :
    let inspector := (flaggedScript 16 1).inspector
    let tokens := ["r", "c"]
    let once := seenBefore.afterwards inspector [.refresh tokens]
    let operations : List Operation :=
      [.outside (firstLineWorld .refusing), .command ["context", "r", "c"], .refresh tokens]
    let batches := fun registers : List String =>
      [⟨.primary,
        [(⟨false, 12⟩ : Palette).legend, "[ SOURCE (CODE) ]", "In file: main.c", " ► 1 one",
          "   2 two", "────────────"]⟩,
        (⟨.path ⟨"registers"⟩, "[ REGISTERS ]" :: registers⟩ : Batch)]
    (∀ operation ∈ operations, operation.Repeats inspector tokens seenBefore.world.terminal) ∧
      (∀ earlier, earlier <+: operations →
        inspector.SourceAlike seenBefore.world.files
          (once.afterwards inspector earlier).world.files) ∧
      seenBefore.batches inspector (.refresh tokens) =
        batches ["*RIP  0x10", "*EFLAGS 0x1 [ CF pf af zf sf if df of ]"] ∧
      once.deliveries (operations.map (Prod.mk inspector)) =
        [[], batches [" RIP  0x10", " EFLAGS 0x1 [ CF pf af zf sf if df of ]"],
          batches [" RIP  0x10", " EFLAGS 0x1 [ CF pf af zf sf if df of ]"]] ∧
      once.Unmoved (once.afterwards inspector operations) := by
  intro inspector tokens once operations batches
  have again : ∀ operation ∈ operations,
      operation.Repeats inspector tokens seenBefore.world.terminal := by
    have attached : none = seenBefore.world.terminal := by decide +kernel
    intro operation listed
    simp only [operations, List.mem_cons, List.not_mem_nil, or_false] at listed
    rcases listed with rfl | rfl | rfl
    · exact .inr ⟨_, rfl, attached⟩
    · exact .inl rfl
    · exact .inl rfl
  have steady : ∀ earlier, earlier <+: operations →
      inspector.SourceAlike seenBefore.world.files
        (once.afterwards inspector earlier).world.files := by
    have everywhere : ∀ earlier ∈ operations.inits,
        (seenBefore.world.files.read ⟨"main.c"⟩).toOption =
          ((once.afterwards inspector earlier).world.files.read ⟨"main.c"⟩).toOption := by
      decide +kernel
    intro earlier before frame location selected located
    cases selected
    cases located
    exact everywhere earlier ((List.mem_inits earlier operations).mpr before)
  obtain ⟨unmoved, delivered, -, -⟩ :=
    seenBefore.refresh_is_stationary_after_the_first inspector tokens operations again steady
  constructor
  · exact again
  constructor
  · exact steady
  constructor
  · decide +kernel
  constructor
  · rw [delivered]
    decide +kernel
  · exact unmoved

end Situation

end StopView

import StopView.Failure
import StopView.Section
import StopView.Text.Quoted

/-!
# Notices

While it works, the view tells its host what it noticed.  Warnings report what had
to be left out or refused; details report the course of events.  A notice names what
was noticed; its text is a function of that.
-/

namespace StopView

/-- How much a notice matters. -/
inductive Severity where
  | warning
  | detail
deriving Repr, DecidableEq

/-- What was noticed. -/
inductive Notice where
  | settingGiven
  | valueRefused (setting value : String)
  | sectionsHidden
  | sectionRefused (word : String)
  | sectionsHint
  | sectionUnknown (letter : Char)
  | registerUnknown (name : String)
  | registerUnreadable (name : String)
  | disassemblyUnavailable (cause : Failure)
  | argumentsUnavailable (cause : Failure)
  | stackUnavailable (cause : Failure)
  | decompilerFailed (pc : Address) (cause : Failure)
  | noSelectedFrame (cause : Failure)
  | backtraceStopped (index : Nat) (cause : Failure)
  | frameWalkStopped (steps : Nat) (cause : Failure)
  | sourceRead
  | sourceUnavailable (file : String) (cause : Failure)
  | lifecycleRecorded
  | sessionStarted
  | sessionEnded
  | terminalMerged
  | commandRun
  | deliveryFailed (cause : Failure)
deriving Repr, DecidableEq

namespace Notice

/-- How much a notice matters. -/
def severity : Notice → Severity
  | .valueRefused .. | .sectionsHidden | .sectionRefused _ | .sectionsHint | .sectionUnknown _
  | .registerUnknown _ | .registerUnreadable _ | .disassemblyUnavailable _
  | .argumentsUnavailable _ | .stackUnavailable _ | .decompilerFailed .. | .sourceUnavailable ..
  | .deliveryFailed _ => .warning
  | .settingGiven | .noSelectedFrame _ | .backtraceStopped .. | .frameWalkStopped ..
  | .sourceRead | .lifecycleRecorded | .sessionStarted | .sessionEnded | .terminalMerged
  | .commandRun => .detail

/-- The text of a notice. -/
def text : Notice → String
  | .settingGiven => "updating context setting"
  | .valueRefused setting value =>
      "Invalid value " ++ Text.quoted value ++ " for " ++ setting ++
        ", keeping the previous value"
  | .sectionsHidden =>
      "Sections set to be empty. FYI valid values are: " ++ Section.namesText
  | .sectionRefused word =>
      "Invalid section: " ++ word ++ ", valid values: " ++ Section.namesText
  | .sectionsHint => "(setting none of them like '' will make sections not appear)"
  | .sectionUnknown letter => "Unknown context section: " ++ letter.toString
  | .registerUnknown name => "Unknown register: " ++ Text.quoted name
  | .registerUnreadable name => "Register " ++ name ++ " could not be read"
  | .disassemblyUnavailable cause => "disassembly unavailable: " ++ cause.message
  | .argumentsUnavailable cause => "call arguments unavailable: " ++ cause.message
  | .stackUnavailable cause => "stack unavailable: " ++ cause.message
  | .decompilerFailed pc cause => "decompiler failed at " ++ pc.text ++ ": " ++ cause.message
  | .noSelectedFrame cause => "no selected frame for backtrace: " ++ cause.message
  | .backtraceStopped index cause =>
      "backtrace stopped at frame " ++ toString index ++ ": " ++ cause.message
  | .frameWalkStopped steps cause =>
      "frame walk stopped after " ++ toString steps ++ " steps: " ++ cause.message
  | .sourceRead => "cached source file"
  | .sourceUnavailable file cause =>
      (Failure.sourceUnavailable (file ++ ": " ++ cause.message)).message
  | .lifecycleRecorded => "recorded lifecycle event"
  | .sessionStarted => "context session started"
  | .sessionEnded => "context session ended"
  | .terminalMerged => "split output targets stdout terminal, merging"
  | .commandRun => "running command"
  | .deliveryFailed cause => cause.message

end Notice

/-- A value together with what was noticed on the way to it, in order. -/
structure Noted (α : Type) where
  value : α
  notices : List Notice

namespace Noted

variable {α β : Type}

instance : Monad Noted where
  pure value := ⟨value, []⟩
  bind first next :=
    ⟨(next first.value).value, first.notices ++ (next first.value).notices⟩

@[simp]
theorem value_pure (value : α) : (pure value : Noted α).value = value :=
  rfl

@[simp]
theorem notices_pure (value : α) : (pure value : Noted α).notices = [] :=
  rfl

@[simp]
theorem value_bind (first : Noted α) (next : α → Noted β) :
    (first >>= next).value = (next first.value).value :=
  rfl

@[simp]
theorem notices_bind (first : Noted α) (next : α → Noted β) :
    (first >>= next).notices = first.notices ++ (next first.value).notices :=
  rfl

/-- Notice one thing. -/
def note (notice : Notice) : Noted Unit :=
  ⟨(), [notice]⟩

@[simp]
theorem notices_note (notice : Notice) : (note notice).notices = [notice] :=
  rfl

/-- The lists that a function gives for each element, one after the other. -/
def flatMap (items : List α) (f : α → Noted (List β)) : Noted (List β) :=
  ⟨items.flatMap fun item => (f item).value, items.flatMap fun item => (f item).notices⟩

@[simp]
theorem value_flatMap (items : List α) (f : α → Noted (List β)) :
    (flatMap items f).value = items.flatMap fun item => (f item).value :=
  rfl

@[simp]
theorem notices_flatMap (items : List α) (f : α → Noted (List β)) :
    (flatMap items f).notices = items.flatMap fun item => (f item).notices :=
  rfl

end Noted

end StopView

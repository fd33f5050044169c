import StopView.Logging
import StopView.Proofs.Text.Escape

/-!
# Sinks are chosen once

What a call may do to the logging of a process is said by `perform_cases`: it is refused and
leaves the sinks as they are, or it chooses the first ones.  Hence over a whole run of calls
at most one succeeds, and the sinks that it chose stay.  No file is ever written in colour.

In text meant for reading no character is left that could give orders to a terminal.
-/

namespace StopView

/-! ## Calls -/

/-- A call that sets up logging, with what the environment says and the day. -/
inductive LoggingCall where
  | toConsole (environment : LogEnvironment) (day : String) (level : LogLevel)
      (format : LogFormat)
  | fromEnvironment (environment : LogEnvironment) (day : String)
  | toDirectory (environment : LogEnvironment) (day : String) (directory : Path)
      (level : Option LogLevel) (format : LogFormat)

/-- What a call does, and whether it succeeds. -/
def LoggingCall.perform (logging : Logging) :
    LoggingCall → Logging × Except LoggingFailure Unit
  | .toConsole environment day level format => logging.toConsole environment day level format
  | .fromEnvironment environment day => logging.fromEnvironment environment day
  | .toDirectory environment day directory level format =>
      let (after, outcome) := logging.toDirectory environment day directory level format
      (after, outcome.map fun _ => ())

namespace Logging

variable {logging : Logging} {sinks : List Sink}

/-- Calls one after the other. -/
def performAll (logging : Logging) (calls : List LoggingCall) : Logging :=
  calls.foldl (fun reached call => (call.perform reached).1) logging

/-- How many of some calls succeed. -/
def successes (logging : Logging) : List LoggingCall → Nat
  | [] => 0
  | call :: calls =>
      let (after, outcome) := call.perform logging
      (if outcome.isOk then 1 else 0) + after.successes calls

theorem performAll_cons (logging : Logging) (call : LoggingCall) (calls : List LoggingCall) :
    logging.performAll (call :: calls) = (call.perform logging).1.performAll calls :=
  rfl

theorem successes_cons (logging : Logging) (call : LoggingCall) (calls : List LoggingCall) :
    logging.successes (call :: calls) =
      (if (call.perform logging).2.isOk then 1 else 0) +
        (call.perform logging).1.successes calls :=
  rfl

/-- Sinks that write no file in colour. -/
def PlainFiles (sinks : List Sink) : Prop :=
  ∀ sink ∈ sinks, ∀ place, sink.output = .file place → sink.form ≠ .coloured

/-! ## One call -/

/-- A call either is refused and leaves the sinks, or it chooses the first ones. -/
inductive Attempt (logging after : Logging) : Except LoggingFailure Unit → Prop
  | refused (failure : LoggingFailure) (same : after.sinks = logging.sinks) :
      Attempt logging after (.error failure)
  | chosen {sinks : List Sink} (unset : logging.sinks = none)
      (now : after.sinks = some sinks) (plain : PlainFiles sinks) : Attempt logging after (.ok ())

theorem attempt_choose (files : FileSystem) (plain : PlainFiles sinks) :
    Attempt logging ({ logging with files }.choose sinks).1
      ({ logging with files }.choose sinks).2 := by
  rw [choose]
  split
  · rename_i unset
    exact .chosen unset rfl plain
  · exact .refused _ rfl

theorem attempt_toConsole (logging : Logging) (environment : LogEnvironment) (day : String)
    (level : LogLevel) (format : LogFormat) :
    Attempt logging (logging.toConsole environment day level format).1
      (logging.toConsole environment day level format).2 := by
  unfold toConsole
  extract_lets filter console
  split
  · refine attempt_choose logging.files ?_
    simp [PlainFiles, console]
  · split
    · exact .refused _ rfl
    · refine attempt_choose _ ?_
      simp [PlainFiles, console]

theorem inFile_ne_coloured (format : LogFormat) : EntryForm.inFile format ≠ .coloured := by
  cases format <;> decide

theorem map_path (outcome : Except LoggingFailure Unit) (path : Path) :
    (outcome.map fun _ => path).map (fun _ => ()) = outcome := by
  cases outcome <;> rfl

theorem attempt_toDirectory (logging : Logging) (environment : LogEnvironment) (day : String)
    (directory : Path) (level : Option LogLevel) (format : LogFormat) :
    Attempt logging (logging.toDirectory environment day directory level format).1
      ((logging.toDirectory environment day directory level format).2.map fun _ => ()) := by
  unfold toDirectory
  split
  · exact .refused _ rfl
  · dsimp only
    split
    · exact .refused _ rfl
    · rename_i files place _
      have plain (filter : Filter) :
          PlainFiles [⟨.file place, EntryForm.inFile format, filter⟩] := by
        simpa [PlainFiles] using inFile_ne_coloured format
      rw [map_path]
      exact attempt_choose files (plain _)

/-- What a call can do. -/
theorem perform_cases (logging : Logging) (call : LoggingCall) :
    Attempt logging (call.perform logging).1 (call.perform logging).2 := by
  cases call with
  | toConsole environment day level format =>
      exact attempt_toConsole logging environment day level format
  | fromEnvironment environment day =>
      exact attempt_toConsole logging environment day _ _
  | toDirectory environment day directory level format =>
      exact attempt_toDirectory logging environment day directory level format

/-! ## Runs of calls -/

/-- Sinks that were chosen stay as they are, and every later call is refused. -/
theorem perform_of_chosen (chosen : logging.sinks = some sinks) (call : LoggingCall) :
    (call.perform logging).1.sinks = some sinks ∧
      (call.perform logging).2.isOk = false := by
  have attempt := perform_cases logging call
  generalize call.perform logging = result at attempt
  obtain ⟨after, outcome⟩ := result
  cases attempt with
  | refused failure same => exact ⟨same.trans chosen, rfl⟩
  | chosen unset => simp [unset] at chosen

/-- So they are after any calls. -/
theorem performAll_of_chosen (chosen : logging.sinks = some sinks) (calls : List LoggingCall) :
    (logging.performAll calls).sinks = some sinks ∧ logging.successes calls = 0 := by
  induction calls generalizing logging with
  | nil => exact ⟨chosen, rfl⟩
  | cons call calls ih =>
      obtain ⟨kept, refused⟩ := perform_of_chosen chosen call
      rw [performAll_cons, successes_cons, refused]
      simpa using ih kept

/-- Of all calls that a process makes, one succeeds if sinks are chosen in the end, and none
otherwise. -/
theorem successes_of_unset (unset : logging.sinks = none) (calls : List LoggingCall) :
    logging.successes calls = if (logging.performAll calls).sinks.isSome then 1 else 0 := by
  induction calls generalizing logging with
  | nil => simp [successes, performAll, unset]
  | cons call calls ih =>
      have attempt := perform_cases logging call
      rw [performAll_cons, successes_cons]
      generalize call.perform logging = result at attempt ⊢
      obtain ⟨after, outcome⟩ := result
      cases attempt with
      | refused failure same => simpa [Except.isOk, Except.toBool] using ih (same.trans unset)
      | chosen _ now _ =>
          obtain ⟨kept, none⟩ := performAll_of_chosen now calls
          simp [kept, none, Except.isOk, Except.toBool]

/-- Whatever calls a process makes, the sinks that it comes to write no file in colour. -/
theorem plainFiles_performAll (before : ∀ sinks, logging.sinks = some sinks → PlainFiles sinks)
    (calls : List LoggingCall) (chosen : (logging.performAll calls).sinks = some sinks) :
    PlainFiles sinks := by
  induction calls generalizing logging with
  | nil => exact before sinks chosen
  | cons call calls ih =>
      have attempt := perform_cases logging call
      rw [performAll_cons] at chosen
      generalize call.perform logging = result at attempt chosen
      obtain ⟨after, outcome⟩ := result
      refine ih (fun reached now => ?_) chosen
      cases attempt with
      | refused failure same => exact before reached (same.symm.trans now)
      | chosen _ first plain =>
          obtain rfl := Option.some.inj (first.symm.trans now)
          exact plain

end Logging

/-! ## Messages -/

namespace EntryForm

/-- Whether a character could give orders to a terminal. -/
def givesOrders (c : Char) : Bool :=
  (writtenControls.lookup c).isSome || decide (0x80 ≤ c.toNat ∧ c.toNat ≤ 0x9f)

/-- Characters none of which gives orders. -/
def Calm (chars : List Char) : Prop :=
  ∀ c ∈ chars, givesOrders c = false

theorem Calm.of_all {chars : List Char} (all : chars.all (fun c => !givesOrders c) = true) :
    Calm chars := by
  simpa [Calm] using all

theorem Calm.append {front back : List Char} (left : Calm front) (right : Calm back) :
    Calm (front ++ back) :=
  List.forall_mem_append.mpr ⟨left, right⟩

theorem calm_digitChar (digit : Nat) : givesOrders digit.digitChar = false := by
  by_cases small : digit < 16
  · have each : ∀ digit < 16, givesOrders (Nat.digitChar digit) = false := by decide
    exact each digit small
  · have star : digit.digitChar = '*' := by
      rw [Nat.digitChar]
      iterate 16 rw [if_neg (by omega)]
    rw [star]
    decide

theorem calm_toDigits (n : Nat) : Calm (Nat.toDigits 16 n) := by
  induction n using Nat.strongRecOn with
  | ind n ih =>
      have digit (d : Nat) : Calm [Nat.digitChar d] := by simp [Calm, calm_digitChar]
      rw [Nat.toDigits_eq_if (by decide)]
      split
      · exact digit n
      · exact (ih (n / 16) (by omega)).append (digit _)

/-- A character that gives orders is written with characters that do not, and every other one
stands for itself. -/
theorem writtenChar_of_calm {c : Char} (calm : givesOrders c = false) : writtenChar c = [c] := by
  rw [givesOrders, Bool.or_eq_false_iff, decide_eq_false_iff_not] at calm
  have unlisted : writtenControls.lookup c = none := by simpa using calm.1
  rw [writtenChar, unlisted]
  exact if_neg (by simpa using calm.2)

theorem calm_writtenChar (c : Char) : Calm (writtenChar c) := by
  cases orders : givesOrders c with
  | false => simp [writtenChar_of_calm orders, Calm, orders]
  | true =>
      rw [writtenChar]
      split
      · rename_i text found
        have table : (writtenControls.all fun entry =>
            entry.2.toList.all fun c => !givesOrders c) = true := by decide
        exact .of_all (List.all_eq_true.mp table _ (Text.mem_of_lookup_eq_some found))
      · rename_i unlisted
        rw [givesOrders, unlisted, Option.isSome_none, Bool.false_or, decide_eq_true_eq] at orders
        rw [if_pos (by simpa using orders), Text.numberForm]
        exact (Calm.append (.of_all (by decide)) (calm_toDigits _)).append (.of_all (by decide))

/-- In a form that people read, a message holds nothing that gives orders to a terminal. -/
theorem calm_message {form : EntryForm} (readable : form ≠ .json) (text : String) :
    Calm (form.message text).toList := by
  have written : Calm (text.toList.flatMap writtenChar) := by
    intro c listed
    obtain ⟨source, -, inside⟩ := List.mem_flatMap.mp listed
    exact calm_writtenChar source c inside
  cases form with
  | json => exact absurd rfl readable
  | plain | coloured => simpa [message] using written

theorem message_of_calm (form : EntryForm) {text : String} (calm : Calm text.toList) :
    form.message text = text := by
  have same : text.toList.flatMap writtenChar = text.toList := by
    generalize text.toList = chars at calm
    induction chars with
    | nil => rfl
    | cons c chars ih =>
        obtain ⟨here, later⟩ := List.forall_mem_cons.mp calm
        rw [List.flatMap_cons, writtenChar_of_calm here, ih later]
        rfl
  cases form with
  | json => rfl
  | plain | coloured => simp [message, same]

/-- What was written once stays as it is when it is written again. -/
theorem message_message (form : EntryForm) (text : String) :
    form.message (form.message text) = form.message text := by
  cases form with
  | json => rfl
  | plain => exact message_of_calm _ (calm_message (by decide) text)
  | coloured => exact message_of_calm _ (calm_message (by decide) text)

end EntryForm

end StopView

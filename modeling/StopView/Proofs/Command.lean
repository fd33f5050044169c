import StopView.Command

/-!
# Which words are a command

The grammar of commands, without reference to how words are read: a command's name, and after
it arguments that are no options, or that stand behind a double dash.  Reading accepts exactly
the words of this grammar, and all other words are an invalid argument.
-/

namespace StopView.Command

/-- A word that is no option: it does not begin with a dash, or is nothing but one. -/
def IsArgument (word : String) : Prop :=
  word = "-" ∨ word.toList.head? ≠ some '-'

/-- Words that stand for some arguments.  Behind a double dash all words do. -/
inductive StandFor : List String → List String → Prop
  | none : StandFor [] []
  | word {word : String} {rest arguments : List String} (plain : IsArgument word)
      (further : StandFor rest arguments) : StandFor (word :: rest) (word :: arguments)
  | separator (rest : List String) : StandFor ("--" :: rest) rest

/-- Words that are a command. -/
inductive Spell : List String → Command → Prop
  | context {rest sections : List String} (arguments : StandFor rest sections) :
      Spell ("context" :: rest) (.context sections)
  | shortContext {rest sections : List String} (arguments : StandFor rest sections) :
      Spell ("ctx" :: rest) (.context sections)
  | registers {rest names : List String} (arguments : StandFor rest names) :
      Spell ("regs" :: rest) (.registers names)

/-! ## Words -/

theorem Word.ofText_eq_plain_iff (word : String) :
    Word.ofText word = .plain ↔ IsArgument word := by
  have alone : word = "-" ↔ word.toList = ['-'] := (@String.toList_inj word "-").symm
  rw [Word.ofText, IsArgument, alone]
  generalize word.toList = chars
  split
  · simp
  · dsimp only
    split
    · split <;> simp
    · split <;> simp
  · split <;> simp
  · rename_i _ longer other
    simp only [true_iff]
    rcases chars with _ | ⟨first, _ | ⟨second, rest⟩⟩
    · exact .inr nofun
    · by_cases dash : first = '-'
      · exact .inl (by rw [dash])
      · exact .inr (by simpa using dash)
    · apply Or.inr
      intro dash
      rw [List.head?_cons, Option.some.injEq] at dash
      exact other second rest (by rw [dash])

theorem Word.ofText_eq_separator_iff (word : String) :
    Word.ofText word = .separator ↔ word = "--" := by
  rw [Word.ofText, ← String.toList_inj, show "--".toList = ['-', '-'] from rfl]
  generalize word.toList = chars
  split
  · simp
  · rename_i rest other
    dsimp only
    have longer : rest ≠ [] := fun none => other (by rw [none])
    split
    · split <;> simp [longer]
    · split <;> simp [longer]
  · rename_i letter tail _ single
    have other : letter ≠ '-' := single
    split <;> simp [other]
  · rename_i other _ _
    simp only [reduceCtorEq, false_iff]
    exact other

/-! ## Arguments -/

/-- Reading accepts the words that stand for arguments, with these arguments. -/
theorem readArguments_eq_ok_iff {verb : Verb} {filled : Bool} {words arguments : List String} :
    readArguments verb filled words = .ok arguments ↔ StandFor words arguments := by
  induction words generalizing filled arguments with
  | nil =>
      constructor
      · intro read
        cases read
        exact .none
      · intro stand
        cases stand
        rfl
  | cons word rest ih =>
      rw [readArguments]
      constructor
      · intro read
        split at read
        · rename_i kind
          cases further : readArguments verb true rest with
          | error usage =>
              rw [further] at read
              contradiction
          | ok others =>
              rw [further] at read
              cases read
              exact .word ((Word.ofText_eq_plain_iff word).mp kind) (ih.mp further)
        · rename_i kind
          cases read
          rw [(Word.ofText_eq_separator_iff word).mp kind]
          exact .separator rest
        all_goals contradiction
      · intro stand
        cases stand with
        | @word _ _ others plain further =>
            rw [(Word.ofText_eq_plain_iff word).mpr plain, ih.mpr further]
            rfl
        | separator =>
            rw [(Word.ofText_eq_separator_iff "--").mpr rfl]

/-! ## Commands -/

theorem Verb.ofName?_eq_some_iff {name : String} {verb : Verb} :
    Verb.ofName? name = some verb ↔
      (name = "context" ∨ name = "ctx") ∧ verb = .context ∨ name = "regs" ∧ verb = .registers := by
  rw [Verb.ofName?, verbNames, List.lookup_cons, List.lookup_cons, List.lookup_cons]
  by_cases full : name = "context"
  · simp [full, eq_comm]
  · by_cases short : name = "ctx"
    · simp [short, eq_comm]
    · by_cases registers : name = "regs"
      · simp [registers, eq_comm]
      · have unknown : ∀ {other : String}, name ≠ other → (name == other) = false :=
          fun differs => beq_eq_false_iff_ne.mpr differs
        simp [unknown full, unknown short, unknown registers, full, short, registers]

/-- Reading accepts the words that are a command, as this command. -/
theorem ofWords_eq_ok_iff {words : List String} {command : Command} :
    ofWords words = .ok command ↔ Spell words command := by
  cases words with
  | nil =>
      constructor
      · intro read
        cases read
      · intro spell
        cases spell
  | cons name rest =>
      rw [ofWords]
      constructor
      · intro read
        split at read
        · rename_i verb known
          cases further : readArguments verb false rest with
          | error usage =>
              rw [further] at read
              contradiction
          | ok arguments =>
              rw [further] at read
              cases read
              have stand := readArguments_eq_ok_iff.mp further
              rcases Verb.ofName?_eq_some_iff.mp known with
                ⟨rfl | rfl, rfl⟩ | ⟨rfl, rfl⟩
              · exact .context stand
              · exact .shortContext stand
              · exact .registers stand
        · split at read <;> contradiction
      · intro spell
        cases spell with
        | context stand =>
            rw [Verb.ofName?_eq_some_iff.mpr (.inl ⟨.inl rfl, rfl⟩)]
            dsimp only
            rw [readArguments_eq_ok_iff.mpr stand]
            rfl
        | shortContext stand =>
            rw [Verb.ofName?_eq_some_iff.mpr (.inl ⟨.inr rfl, rfl⟩)]
            dsimp only
            rw [readArguments_eq_ok_iff.mpr stand]
            rfl
        | registers stand =>
            rw [Verb.ofName?_eq_some_iff.mpr (.inr ⟨rfl, rfl⟩)]
            dsimp only
            rw [readArguments_eq_ok_iff.mpr stand]
            rfl

/-- Words are read as the command that they are. -/
theorem parse_eq_ok_iff {words : List String} {command : Command} :
    parse words = .ok command ↔ Spell words command := by
  rw [← ofWords_eq_ok_iff, parse]
  cases ofWords words with
  | error usage => exact ⟨nofun, nofun⟩
  | ok other =>
      constructor
      · rintro ⟨⟩
        rfl
      · rintro ⟨⟩
        rfl

theorem parse_cases (words : List String) :
    (∃ command, Spell words command ∧ parse words = .ok command) ∨
      (∀ command, ¬Spell words command) ∧
        ∃ usage, parse words = .error (.invalidArgument usage) := by
  cases read : parse words with
  | ok command => exact .inl ⟨command, parse_eq_ok_iff.mp read, rfl⟩
  | error cause =>
      apply Or.inr
      constructor
      · intro command spell
        rw [parse_eq_ok_iff.mpr spell] at read
        contradiction
      · rw [parse] at read
        cases refused : ofWords words with
        | error usage =>
            rw [refused] at read
            cases read
            exact ⟨usage, rfl⟩
        | ok command =>
            rw [refused] at read
            contradiction

example : parse ["ctx", "-", "--", "-s"] = .ok (.context ["-", "-s"]) := rfl

end StopView.Command

import StopView.Command.Similarity
import StopView.Failure
import StopView.Text.Controls

/-!
# Commands

The user has two commands: one makes the view or some of its sections, the other shows
registers.  Words after the command's name are its arguments.  A word that begins with
a dash is an option, and there is no option but the one for help; behind a double dash
every word is an argument.

What is not a command is refused with a text that tells how to use the commands.  Words
are repeated there without the terminal controls in them.
-/

namespace StopView

/-- What the user asks for. -/
inductive Command where
  | context (sections : List String)
  | registers (names : List String)
deriving Repr, DecidableEq

namespace Command

/-- The commands, without their arguments. -/
inductive Verb where
  | context
  | registers
deriving Repr, DecidableEq

/-- The names of the commands. -/
def verbNames : List (String × Verb) :=
  [("context", .context), ("ctx", .context), ("regs", .registers)]

/-- The command with a name. -/
def Verb.ofName? (name : String) : Option Verb :=
  verbNames.lookup name

/-- The full name of a command. -/
def Verb.name : Verb → String
  | .context => "context"
  | .registers => "regs"

/-- What the place of a command's arguments is called. -/
def Verb.place : Verb → String
  | .context => "SUBCONTEXT"
  | .registers => "REGS"

/-- How a command is used together with some options.  The place of arguments is shown
as filled when there have been some. -/
def Verb.usageWith (verb : Verb) (filled : Bool) (options : String) : String :=
  "Usage: " ++ verb.name ++ options ++
    (if filled then " <" ++ verb.place ++ ">..." else " [" ++ verb.place ++ "]...")

/-- How a command is used. -/
def Verb.usage (verb : Verb) : String :=
  verb.usageWith false ""

/-- What a command is for. -/
def Verb.purpose : Verb → String
  | .context => "Print out the current register, instruction, and stack context"
  | .registers => "Print out all registers and enhance the information"

/-- What a command's arguments are. -/
def Verb.arguments : Verb → String
  | .context => "[SUBCONTEXT]...  Sections to display, e.g. `regs stack` or `r s`"
  | .registers => "[REGS]...  Registers to display instead of the default set"

/-- The help on a command. -/
def Verb.help (verb : Verb) : String :=
  verb.purpose ++ "\n\n" ++ verb.usage ++ "\n\nArguments:\n  " ++ verb.arguments ++
    "\n\nOptions:\n  -h, --help  Print help"

/-- How the commands are used together with some options. -/
def usageWith (options : String) : String :=
  "Usage: vantage-core" ++ options ++ " <COMMAND>"

/-- How the commands are used. -/
def usage : String :=
  usageWith ""

/-- The help on all commands. -/
def help : String :=
  usage ++ "\n\nCommands:\n  context  " ++ Verb.context.purpose ++ " [alias: ctx]\n  regs     " ++
    Verb.registers.purpose ++ "\n\nOptions:\n  -h, --help  Print help"

/-- A refusal: the fault, a tip if there is one, how to use the command, and where to
find help. -/
def refusal (fault : String) (tip : Option String) (usage : String) : String :=
  "error: " ++ fault ++ "\n\n" ++
    (match tip with
      | some tip => "  tip: " ++ tip ++ "\n\n"
      | none => "") ++
    usage ++ "\n\nFor more information, try '--help'."

/-- The tip for a word that is like some names of commands. -/
def similarTip (names : List String) : Option String :=
  let shown := ", ".intercalate (names.map fun name => "'" ++ name ++ "'")
  match names with
  | [] => none
  | [_] => some ("a similar subcommand exists: " ++ shown)
  | _ => some ("some similar subcommands exist: " ++ shown)

/-- A word as it is repeated in a refusal. -/
def repeatedWord (word : String) : String :=
  "'" ++ Text.withoutControls word ++ "'"

/-- The refusal of a word that is no command. -/
def unrecognized (word : String) : String :=
  refusal ("unrecognized subcommand " ++ repeatedWord word)
    (similarTip (suggestions word (verbNames.map Prod.fst))) usage

/-- What a word is before any double dash. -/
inductive Word where
  | plain
  | separator
  | help
  | helpWithValue (value : String)
  | nearHelp (name : String)
  | long (name : String)
  | short (letter : Char)
deriving Repr, DecidableEq

/-- Whether a long option's name is like the one for help. -/
def isNearHelp (name : String) : Bool :=
  !(suggestions name ["help"]).isEmpty

/-- The kind of a word.  An option's value behind an equals sign does not belong to its
name, and of several letters behind one dash the first one counts. -/
def Word.ofText (word : String) : Word :=
  match word.toList with
  | ['-', '-'] => .separator
  | '-' :: '-' :: rest =>
      let name := rest.takeWhile (· != '=')
      let value := rest.drop (name.length + 1)
      if name = "help".toList then
        if name.length < rest.length then .helpWithValue (String.ofList value) else .help
      else if isNearHelp (String.ofList name) then
        .nearHelp (String.ofList ('-' :: '-' :: name))
      else
        .long (String.ofList ('-' :: '-' :: name))
  | '-' :: letter :: _ =>
      if letter = 'h' then .help else .short letter
  | _ => .plain

/-- The refusal of a value for the option for help. -/
def helpTakesNoValue (value : String) (usageWith : String → String) : String :=
  refusal
    ("unexpected value " ++ repeatedWord value ++ " for '--help' found; no more were expected")
    none (usageWith " --help")

/-- What is wrong with an option that nobody knows. -/
def unexpected (name : String) : String :=
  "unexpected argument " ++ repeatedWord name ++ " found"

/-- The refusal of an option that is like the one for help. -/
def helpSuggested (name : String) (usageWith : String → String) : String :=
  refusal (unexpected name) (some "a similar argument exists: '--help'") (usageWith " --help")

/-- The refusal of an option among arguments. -/
def optionRefused (name usage : String) : String :=
  refusal (unexpected name)
    (some ("to pass " ++ repeatedWord name ++ " as a value, use " ++ repeatedWord ("-- " ++ name)))
    usage

/-- A short option as it is written. -/
def shortName (letter : Char) : String :=
  String.ofList ['-', letter]

/-- Read the arguments of a command, or find out why they are refused.  Refusing a long
option takes into account whether there have been arguments before it; a short one and
a value for the option for help are refused before that is known. -/
def readArguments (verb : Verb) (filled : Bool) : List String → Except String (List String)
  | [] => .ok []
  | word :: rest =>
      match Word.ofText word with
      | .plain => (readArguments verb true rest).map (word :: ·)
      | .separator => .ok rest
      | .help => .error verb.help
      | .helpWithValue value => .error (helpTakesNoValue value (verb.usageWith false))
      | .nearHelp name => .error (helpSuggested name (verb.usageWith filled))
      | .long name => .error (optionRefused name (verb.usageWith filled ""))
      | .short letter => .error (optionRefused (shortName letter) verb.usage)

/-- A command with its arguments. -/
def ofArguments : Verb → List String → Command
  | .context, words => .context words
  | .registers, words => .registers words

/-- The refusal of words behind a leading double dash. -/
def afterSeparator : List String → String
  | [] => help
  | word :: _ =>
      match Verb.ofName? word with
      | some _ =>
          refusal (unexpected word)
            (some ("subcommand '" ++ word ++ "' exists; to use it, remove the '--' before it"))
            usage
      | none => unrecognized word

/-- Read a command, or find out why it is refused. -/
def ofWords : List String → Except String Command
  | [] => .error help
  | word :: rest =>
      match Verb.ofName? word with
      | some verb => (readArguments verb false rest).map (ofArguments verb)
      | none =>
          match Word.ofText word with
          | .plain => .error (unrecognized word)
          | .separator => .error (afterSeparator rest)
          | .help => .error help
          | .helpWithValue value => .error (helpTakesNoValue value usageWith)
          | .nearHelp name => .error (helpSuggested name usageWith)
          | .long name => .error (refusal (unexpected name) none usage)
          | .short letter => .error (refusal (unexpected (shortName letter)) none usage)

/-- Read a command.  Words that are refused are an invalid argument. -/
def parse (words : List String) : Except Failure Command :=
  (ofWords words).mapError .invalidArgument

end Command

end StopView

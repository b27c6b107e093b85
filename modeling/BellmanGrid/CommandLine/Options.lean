import BellmanGrid.Text.LineEnd
import BellmanGrid.Value.Conversion

/-!
The options of the command line, and how arguments are read as options.

All arguments are first looked at one by one: is it an option, perhaps cut short, or not?  Then they
are taken from the left.  Arguments that are no options are collected, and refused in the end.  The
texts about the use of the command line stand in `Usage`.
-/

namespace BellmanGrid

inductive CommandOption where
  | help
  | config
  | workers
  | output
  | noFigure
  | verbose
deriving Repr, DecidableEq

namespace CommandOption

def all : List CommandOption :=
  [help, config, workers, output, noFigure, verbose]

def spellings : CommandOption → List String
  | help => ["-h", "--help"]
  | config => ["--config"]
  | workers => ["--workers"]
  | output => ["--output"]
  | noFigure => ["--no-plot"]
  | verbose => ["-v", "--verbose"]

def argument? : CommandOption → Option String
  | config => some "CONFIG"
  | workers => some "WORKERS"
  | output => some "OUTPUT"
  | _ => none

def purpose : CommandOption → String
  | help => "show this help message and exit"
  | config => "Path to problem config YAML"
  | workers => "Threads per backward time step (overrides config)"
  | output => "Output directory (overrides config)"
  | noFigure => "Do not save the trajectory plots"
  | verbose => "Debug logging"

/-- All spellings with their options, in order. -/
def dictionary : List (String × CommandOption) :=
  all.flatMap fun option => option.spellings.map fun spelling => (spelling, option)

def ofSpelling? (spelling : String) : Option CommandOption :=
  dictionary.lookup spelling

/-- An option in messages. -/
def name (option : CommandOption) : String :=
  "/".intercalate option.spellings

/-- An option as it is called, with the name of its argument. -/
def call (option : CommandOption) (spelling : String) : String :=
  match option.argument? with
  | some argument => spelling ++ " " ++ argument
  | none => spelling

end CommandOption

/-- Why arguments are refused. -/
inductive UsageError where
  /-- a shortened option that could be any of several -/
  | ambiguous (given : String) (candidates : List String)
  | argumentMissing (option : CommandOption)
  /-- an argument for an option that takes none -/
  | argumentIgnored (option : CommandOption) (argument : String)
  | notAnInteger (option : CommandOption) (argument : String)
  | unrecognized (arguments : List String)
deriving Repr, DecidableEq

def UsageError.text : UsageError → String
  | ambiguous given candidates =>
      s!"ambiguous option: {given} could match " ++ ", ".intercalate candidates
  | argumentMissing option => s!"argument {option.name}: expected one argument"
  | argumentIgnored option argument =>
      s!"argument {option.name}: ignored explicit argument {Text.quoted argument}"
  | notAnInteger option argument =>
      s!"argument {option.name}: invalid int value: {Text.quoted argument}"
  | unrecognized arguments => "unrecognized arguments: " ++ " ".intercalate arguments

structure Settings where
  config : Option String := none
  workers : Option Int := none
  output : Option String := none
  figure : Bool := true
  verbose : Bool := false
deriving Repr, DecidableEq

/-- What stops the reading of arguments. -/
inductive Interruption where
  | help
  | usage (error : UsageError)
deriving Repr, DecidableEq

/-- What an argument is taken for. -/
inductive ArgumentWord where
  /-- no option -/
  | plain (text : String)
  /-- the mark after which there are no options -/
  | endOfOptions
  /-- what looks like an option and is none -/
  | unknown (text : String)
  /-- an option, with an argument attached to it by an equality sign or directly -/
  | known (option : CommandOption) (isLong : Bool) (attached : Option String)
deriving Repr, DecidableEq

namespace ArgumentWord

/-- Splits a text at the first equality sign. -/
def splitEquality (text : String) : String × Option String :=
  match text.splitOn "=" with
  | [] => (text, none)
  | [whole] => (whole, none)
  | first :: rest => (first, some ("=".intercalate rest))

/-- Is a text a negative number: digits after a minus, with at most one point before the last of
them?  A line end after it is ignored. -/
def isNegativeNumber (text : String) : Bool :=
  let isDigit (character : Char) : Bool := (Text.digitValue? character).isSome
  match text.toList with
  | '-' :: body =>
      match (Text.withoutLineEnd body).dropWhile isDigit with
      | [] => !(Text.withoutLineEnd body).isEmpty
      | '.' :: part => !part.isEmpty && part.all isDigit
      | _ => false
  | _ => false

/-- The long spellings that begin with a text. -/
def completions (shortened : String) : List (String × CommandOption) :=
  CommandOption.dictionary.filter fun entry => entry.1.startsWith shortened

def isLongSpelling (spelling : String) : Bool :=
  spelling.startsWith "--"

/-- What an argument is that is written like an option and is no spelling of one. -/
def ofShortened (text : String) : Except UsageError ArgumentWord :=
  let (shortened, attached) := splitEquality text
  let otherwise : ArgumentWord :=
    if isNegativeNumber text || text.contains ' ' then .plain text else .unknown text
  if isLongSpelling text then
    match completions shortened with
    | [] => .ok otherwise
    | [(spelling, option)] =>
        .ok (.known option (isLongSpelling spelling) attached)
    | several => .error (.ambiguous text (several.map Prod.fst))
  else
    let characters := text.toList
    match CommandOption.ofSpelling? (String.ofList (characters.take 2)) with
    | some option => .ok (.known option false (some (String.ofList (characters.drop 2))))
    | none => .ok otherwise

/-- What one argument is taken for. -/
def ofArgument (text : String) : Except UsageError ArgumentWord :=
  if !text.startsWith "-" then .ok (.plain text)
  else match CommandOption.ofSpelling? text with
    | some option => .ok (.known option (isLongSpelling text) none)
    | none =>
        if text = "-" then .ok (.plain text)
        else
          let (spelling, attached) := splitEquality text
          match attached, CommandOption.ofSpelling? spelling with
          | some argument, some option =>
              .ok (.known option (isLongSpelling spelling) (some argument))
          | _, _ => ofShortened text

/-- What the arguments are taken for.  After the mark for it there are no options. -/
def ofArguments : List String → Except UsageError (List ArgumentWord)
  | [] => .ok []
  | text :: rest =>
      if text = "--" then .ok (.endOfOptions :: rest.map plain)
      else do return (← ofArgument text) :: (← ofArguments rest)

end ArgumentWord

namespace Settings

def take (settings : Settings) (option : CommandOption) (argument : String) :
    Except Interruption Settings :=
  match option with
  | .help => .error .help
  | .config => .ok { settings with config := some argument }
  | .workers =>
      match integerOfText argument with
      | .ok count => .ok { settings with workers := some count }
      | .error _ => .error (.usage (.notAnInteger option argument))
  | .output => .ok { settings with output := some argument }
  | .noFigure => .ok { settings with figure := false }
  | .verbose => .ok { settings with verbose := true }

/-- The options of one letter in a chain: the letters attached to an option that takes no argument
are options themselves. -/
def chain (option : CommandOption) (isLong : Bool) (attached : List Char) :
    Except UsageError (List CommandOption) :=
  let refused := .error (.argumentIgnored option (String.ofList attached))
  match attached with
  | [] => refused
  | letter :: rest =>
      match isLong, CommandOption.ofSpelling? (String.ofList ['-', letter]) with
      | false, some next =>
          if rest.isEmpty then .ok [option, next]
          else do return option :: (← chain next false rest)
      | _, _ => refused

/-- Takes words from the left.  `left` has the unrecognized arguments so far, the last one first. -/
def takeWords (settings : Settings) (left : List String) :
    List ArgumentWord → Except Interruption (Settings × List String)
  | [] => .ok (settings, left.reverse)
  | .plain text :: rest => takeWords settings (text :: left) rest
  | .unknown text :: rest => takeWords settings (text :: left) rest
  | .endOfOptions :: rest => takeWords settings ("--" :: left) rest
  | .known option isLong attached :: rest =>
      match option.argument?, attached with
      | some _, some argument => do takeWords (← settings.take option argument) left rest
      | some _, none =>
          match rest with
          | .plain argument :: rest => do takeWords (← settings.take option argument) left rest
          | _ => .error (.usage (.argumentMissing option))
      | none, none => do takeWords (← settings.take option "") left rest
      | none, some argument => do
          let options ← (chain option isLong argument.toList).mapError Interruption.usage
          let settings ← options.foldlM (fun settings option => settings.take option "") settings
          takeWords settings left rest

def ofArguments (arguments : List String) : Except Interruption Settings := do
  let words ← (ArgumentWord.ofArguments arguments).mapError Interruption.usage
  let (settings, left) ← takeWords {} [] words
  if left.isEmpty then return settings else throw (.usage (.unrecognized left))

end Settings

namespace Usage

/-- The name that the program calls itself. -/
def program : String :=
  "main.py"

def width : Nat :=
  78

/-- Words in lines that begin with an indentation, no longer than the width. -/
def wrap (indentation : String) (line : String) : List String → List String
  | [] => [line]
  | word :: rest =>
      if width < line.length + 1 + word.length ∧ indentation.length < line.length then
        line :: wrap indentation (indentation ++ word) rest
      else wrap indentation (line ++ " " ++ word) rest

/-- How the program is called. -/
def usage : String :=
  let words := CommandOption.all.map fun option =>
    "[" ++ option.call ((option.spellings.head?).getD "") ++ "]"
  let start := s!"usage: {program}"
  String.join ((wrap ("".pushn ' ' (start.length + 1)) start words).map (· ++ "\n"))

def purposeColumn : Nat :=
  21

def optionLine (option : CommandOption) : String :=
  let calls := "  " ++ ", ".intercalate (option.spellings.map option.call)
  calls ++ "".pushn ' ' (purposeColumn - calls.length) ++ option.purpose ++ "\n"

/-- The text that describes the program and its options. -/
def help : String :=
  usage ++ "\nFinite-horizon optimal control by grid dynamic programming\n\noptions:\n" ++
    String.join (CommandOption.all.map optionLine)

def complaint (error : UsageError) : String :=
  usage ++ s!"{program}: error: {error.text}\n"

end Usage

end BellmanGrid

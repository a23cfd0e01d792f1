import PageScript.Text.Cut
import PageScript.Text.Digit
import PageScript.Text.Quoted

/-!
# Options of the command

An argument that starts with a dash is an option if it names one, in full or by a start that only one
option has; behind two dashes alone every argument is a word. The first words that stand together are
the page and the program, and all other words are too many.
-/

namespace PageScript.Command

/-- An option. -/
inductive Flag where
  | help
  | config
  | logLevel
  | run
  | version
deriving DecidableEq, Repr

/-- The names of the options. -/
def flagNames : List (String × Flag) :=
  [("-h", .help), ("--help", .help), ("--config", .config), ("--log-level", .logLevel),
    ("--run", .run), ("--version", .version)]

namespace Flag

/-- The option as messages name it. -/
def label (flag : Flag) : String :=
  "/".intercalate ((flagNames.filter (·.2 == flag)).map (·.1))

def takesValue : Flag → Bool
  | .config | .logLevel => true
  | _ => false

end Flag

/-- What is attached to the name of an option. -/
inductive Attached where
  /-- A value behind an equals sign. -/
  | value (text : String)
  /-- The letters behind an option of one letter, with or without an equals sign. -/
  | letters (text : List Char)
deriving DecidableEq, Repr

/-- What an argument is. -/
inductive Argument where
  | word (text : String)
  /-- Two dashes, which end the options. -/
  | separator
  | flag (flag : Flag) (attached : Option Attached)
  | unknown (text : String)
deriving DecidableEq, Repr

/-- Why there is nothing to compile. -/
inductive Stop where
  | help
  | version
  | misuse (message : String)
deriving DecidableEq, Repr

/-- Whether a text is a negative number: digits, with a point in front of the last ones or without. A
line feed at the end does not count. -/
def isNegativeNumber (text : List Char) : Bool :=
  match text with
  | '-' :: body =>
    let body := if body.getLast? = some '\n' then body.dropLast else body
    match body.dropWhile Text.isDecimal with
    | [] => !body.isEmpty
    | '.' :: rest => !rest.isEmpty && rest.all Text.isDecimal
    | _ => false
  | _ => false

/-- The options that an argument may mean, with their names. -/
def candidates (text : List Char) : List (String × Argument) :=
  match text with
  | '-' :: '-' :: _ =>
    let (start, value) := Text.cutFirst '=' text
    (flagNames.filter fun (name, _) => start.isPrefixOf name.toList).map fun (name, flag) =>
      (name, .flag flag (value.map fun v => .value (String.ofList v)))
  | _ =>
    flagNames.filterMap fun (name, flag) =>
      if name.toList = text.take 2 then some (name, .flag flag (some (.letters (text.drop 2))))
      else if text.isPrefixOf name.toList then some (name, .flag flag none)
      else none

/-- What an argument in front of the separator is. -/
def classify (text : String) : Except Stop Argument :=
  let chars := text.toList
  if chars.head? ≠ some '-' || chars.length = 1 then .ok (.word text)
  else
    match flagNames.lookup text with
    | some flag => .ok (.flag flag none)
    | none =>
      let (name, value) := Text.cutFirst '=' chars
      match flagNames.lookup (String.ofList name), value with
      | some flag, some value =>
        .ok (.flag flag (some (if name.length = 2 then .letters value
          else .value (String.ofList value))))
      | _, _ =>
        match candidates chars with
        | [] =>
          .ok (if isNegativeNumber chars || chars.contains ' ' then .word text else .unknown text)
        | [(_, argument)] => .ok argument
        | several =>
          .error (.misuse ("ambiguous option: " ++ text ++ " could match " ++
            ", ".intercalate (several.map (·.1))))

/-- What the arguments are. -/
def classifyAll : List String → Except Stop (List Argument)
  | [] => .ok []
  | text :: rest =>
    if text = "--" then .ok (.separator :: rest.map .word)
    else do
      let first ← classify text
      return first :: (← classifyAll rest)

/-- What the command is asked for. -/
structure Options where
  source : Option String := none
  output : Option String := none
  /-- The name of the settings file; it is missing if two dashes alone were given for it. -/
  config : Option (Option String) := none
  logLevel : Option String := none
  run : Bool := false
deriving DecidableEq, Repr

/-- The names of the levels, sorted. -/
def levelNames : List String := ["critical", "debug", "error", "info", "warn", "warning"]

/-- How far the arguments are read. -/
structure Progress where
  options : Options := {}
  /-- Whether the page and the program are still to come. -/
  awaitsWords : Bool := true
  /-- The arguments that mean nothing. -/
  extras : List String := []

/-- The message about an option. -/
def misuseOf {α : Type} (flag : Flag) (what : String) : Except Stop α :=
  .error (.misuse ("argument " ++ flag.label ++ ": " ++ what))

/-- The message about a value for an option that takes none. -/
def ignored {α : Type} (flag : Flag) (value : String) : Except Stop α :=
  misuseOf flag ("ignored explicit argument " ++ Text.quoted value)

/-- What letters behind the help option lead to: help, if all of them ask for it again. -/
def readLetters {α : Type} (letters : List Char) : Except Stop α :=
  match letters, letters.dropWhile (· == 'h') with
  | _ :: _, [] => .error .help
  | _, rest => ignored .help (String.ofList rest)

namespace Progress

/-- Takes the value of an option. Of two dashes alone nothing is left. -/
def store (progress : Progress) (flag : Flag) (value : String) : Except Stop Progress :=
  match flag with
  | .config =>
    .ok { progress with options.config := some (if value = "--" then none else some value) }
  | .logLevel =>
    if value = "--" then .ok { progress with options.logLevel := none }
    else if levelNames.contains value then .ok { progress with options.logLevel := some value }
    else
      misuseOf flag ("invalid choice: " ++ Text.quoted value ++ " (choose from " ++
        ", ".intercalate (levelNames.map Text.quoted) ++ ")")
  | _ => .ok progress

/-- Obeys an option that takes no value. -/
def obey (progress : Progress) : Flag → Except Stop Progress
  | .help => .error .help
  | .version => .error .version
  | .run => .ok { progress with options.run := true }
  | _ => .ok progress

/-- Takes an option with something attached. -/
def attach (progress : Progress) (flag : Flag) : Attached → Except Stop Progress
  | .value value => if flag.takesValue then progress.store flag value else ignored flag value
  | .letters letters => readLetters letters

end Progress

/-- An argument as it was written. -/
def Argument.text : Argument → String
  | .word text => text
  | .separator => "--"
  | .unknown text => text
  | .flag which _ => which.label

/-- The arguments for one word: the word, and the separator in front of it or behind it. -/
def takeSlot (arguments : List Argument) : List String × List Argument :=
  let before := arguments.takeWhile (· == .separator)
  let rest := arguments.dropWhile (· == .separator)
  let (word, rest) :=
    match rest with
    | .word text :: rest => ([text], rest)
    | rest => ([], rest)
  (before.map Argument.text ++ word ++ (rest.takeWhile (· == .separator)).map Argument.text,
    rest.dropWhile (· == .separator))

/-- The word among the arguments for one; two dashes do not count once. -/
def slotWord? (texts : List String) : Option String := (texts.erase "--").head?

/-- Reads the arguments in order. -/
def interpret (progress : Progress) (arguments : List Argument) : Except Stop Progress :=
  match arguments with
  | [] => .ok progress
  | .unknown text :: rest => interpret { progress with extras := progress.extras ++ [text] } rest
  | .flag flag (some attached) :: rest => do interpret (← progress.attach flag attached) rest
  | .flag flag none :: rest =>
    if flag.takesValue then
      match rest with
      | .word value :: rest => do interpret (← progress.store flag value) rest
      | _ => misuseOf flag "expected one argument"
    else do interpret (← progress.obey flag) rest
  | first :: rest =>
    if progress.awaitsWords then
      let (source, behind) := takeSlot (first :: rest)
      let (output, behind) := takeSlot behind
      if behind.length ≤ rest.length then
        interpret
          { progress with
            options.source := slotWord? source
            options.output := slotWord? output
            awaitsWords := false }
          behind
      else .ok progress
    else interpret { progress with extras := progress.extras ++ [first.text] } rest
termination_by arguments.length

/-- The options that the arguments give. -/
def Options.ofArguments (arguments : List String) : Except Stop Options := do
  let progress ← interpret {} (← classifyAll arguments)
  if progress.extras.isEmpty then return progress.options
  else throw (.misuse ("unrecognized arguments: " ++ " ".intercalate progress.extras))

end PageScript.Command

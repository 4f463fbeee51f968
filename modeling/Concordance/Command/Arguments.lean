import Concordance.Term
import Concordance.Text.Cut
import Concordance.Volume.Path

/-!
# Arguments of the command line

A command line has two levels: what stands before the name of a task, and what stands after it.
Choices, which take a value, and switches that concern every task may stand on either level; where
both levels make the same choice, the inner one counts. On one level no choice may be made twice and
no switch be given twice, apart from the one that asks for more messages.

Arguments are read from left to right, and the first that decides the outcome does so: a request for
help, or a misuse. The value of a choice is examined only when the next choice, switch or operand
comes, or at the end of its level, which for the outer level is after the whole inner one. So help
that is asked for on the inner level is given even if the last choice before it was not acceptable.
-/

namespace Concordance

/-! ### Vocabulary -/

/-- The name of a task. -/
inductive TaskName where
  | repl
  | build
  | search
  | status
  | completions
  deriving DecidableEq, Repr

namespace TaskName

/-- The name as it is typed. -/
def text : TaskName → String
  | repl => "repl"
  | build => "build"
  | search => "search"
  | status => "status"
  | completions => "completions"

/-- The task with a name as it is typed. -/
def named? (s : String) : Option TaskName :=
  [repl, build, search, status, completions].find? fun t ↦ t.text = s

end TaskName

/-- The word that asks for help in place of the name of a task. -/
def helpWord : String := "help"

/-- The shells for which completions can be asked for. -/
def shells : List String := ["bash", "elvish", "fish", "powershell", "zsh"]

/-- Something that is chosen by a value. -/
inductive Choice where
  | dataDirectory
  | corpus
  | alphabet
  deriving DecidableEq, Repr

namespace Choice

/-- The name after two dashes. -/
def text : Choice → String
  | dataDirectory => "data-dir"
  | corpus => "corpus"
  | alphabet => "alphabet"

/-- The choice with a name. -/
def named? (s : String) : Option Choice :=
  [dataDirectory, corpus, alphabet].find? fun c ↦ c.text = s

/-- Is the value one that may be chosen? -/
def accepts : Choice → String → Bool
  | alphabet, value => (Alphabet.named? value).isSome
  | _, value => !value.isEmpty

end Choice

/-- Something that is on or off. -/
inductive Switch where
  | html
  | englishOperators
  | verbose
  | quiet
  | help
  | showUrls
  | json
  | force
  deriving DecidableEq, Repr

namespace Switch

/-- The name after two dashes. -/
def text : Switch → String
  | html => "html"
  | englishOperators => "english-operators"
  | verbose => "verbose"
  | quiet => "quiet"
  | help => "help"
  | showUrls => "show-urls"
  | json => "json"
  | force => "force"

/-- The letter after a single dash. -/
def letter? : Switch → Option Char
  | verbose => some 'v'
  | quiet => some 'q'
  | help => some 'h'
  | force => some 'f'
  | _ => none

/-- Does the switch concern the task? Before the name of the task, only the switches that concern
every task may be given. -/
def concerns : Switch → Option TaskName → Bool
  | showUrls, t => t = some .repl || t = some .search
  | json, t => t = some .search || t = some .status
  | force, t => t = some .build
  | _, _ => true

/-- The switches that may be given for a task. -/
def available (t : Option TaskName) : List Switch :=
  [html, englishOperators, verbose, quiet, help, showUrls, json, force].filter (·.concerns t)

end Switch

/-! ### One level -/

/-- Why the arguments are not a request to be carried out. -/
inductive Stop where
  /-- Help is asked for. -/
  | help
  /-- The arguments cannot be understood. -/
  | misuse
  deriving DecidableEq, Repr

/-- What one level has said so far. -/
structure Level where
  /-- The task that the level belongs to; none before the name of the task. -/
  task : Option TaskName
  /-- The choices that were made. -/
  choices : List (Choice × String)
  /-- The switches that were given. -/
  switches : List Switch
  /-- The operands, in order. -/
  operands : List String
  /-- The last choice, until its value has been examined; without a value until that comes. -/
  pending : Option (Choice × Option String)
  /-- Is every further argument an operand? -/
  isPlain : Bool
  deriving DecidableEq, Repr

namespace Level

/-- The level before its first argument. -/
def start (t : Option TaskName) : Level := ⟨t, [], [], [], none, false⟩

/-- How many operands the level takes. -/
def capacity (l : Level) : Nat :=
  if l.task = some .search || l.task = some .completions then 1 else 0

/-- Can the level take this operand? -/
def takes (l : Level) (a : String) : Bool :=
  l.operands.length < l.capacity && (l.task ≠ some .completions || shells.contains a)

/-- Is the next argument the value of a choice? -/
def isExpectant (l : Level) : Bool :=
  l.pending matches some (_, none)

/-- Examine the value of the last choice. -/
def settle (l : Level) : Except Stop Level :=
  match l.pending with
  | none => .ok l
  | some (_, none) => .error .misuse
  | some (c, some value) =>
    if c.accepts value && (l.choices.lookup c).isNone then
      .ok { l with choices := (c, value) :: l.choices, pending := none }
    else .error .misuse

/-- Make a choice, whose value may be in the same argument. -/
def choose (l : Level) (c : Choice) (value : Option String) : Except Stop Level := do
  let l ← l.settle
  match value with
  | none => return { l with pending := some (c, none) }
  | some value => settle { l with pending := some (c, some value) }

/-- Give a switch. -/
def turnOn (l : Level) (s : Switch) : Except Stop Level := do
  let l ← l.settle
  if s = .help then throw .help
  else if s ∈ l.switches && s ≠ .verbose then throw .misuse
  else return { l with switches := s :: l.switches }

/-- Read a name after two dashes, with the value that an equals sign attaches to it. -/
def readName (l : Level) (name : String) (value : Option String) : Except Stop Level :=
  match Choice.named? name, (Switch.available l.task).find? (·.text = name), value with
  | some c, _, _ => l.choose c value
  | none, some s, none => l.turnOn s
  | _, _, _ => .error .misuse

/-- Read a letter after a single dash. -/
def readLetter (l : Level) (c : Char) : Except Stop Level :=
  match (Switch.available l.task).find? (·.letter? = some c) with
  | some s => l.turnOn s
  | none => .error .misuse

/-- Read an operand. -/
def readOperand (l : Level) (a : String) : Except Stop Level := do
  let l ← l.settle
  if l.takes a then return { l with operands := l.operands ++ [a] } else throw .misuse

/-- Read what begins with no dash: the value that a choice is waiting for, or an operand. -/
def readPlain (l : Level) (a : String) : Except Stop Level :=
  match l.pending with
  | some (c, none) => .ok { l with pending := some (c, some a) }
  | _ => l.readOperand a

/-- The name and the value in an argument after its two dashes. -/
def nameAndValue (s : List Char) : String × Option String :=
  match s.dropWhile (· ≠ '=') with
  | [] => (String.ofList s, none)
  | _ :: value => (String.ofList (s.takeWhile (· ≠ '=')), some (String.ofList value))

/-- Read an argument. -/
def readArgument (l : Level) (a : String) : Except Stop Level :=
  if l.isPlain then l.readOperand a
  else
    match a.toList with
    | ['-', '-'] => .ok { l with isPlain := true }
    | '-' :: '-' :: rest => l.readName (nameAndValue rest).1 (nameAndValue rest).2
    | '-' :: c :: rest => (c :: rest).foldlM readLetter l
    | _ => l.readPlain a

/-- The end of the level. -/
def close (l : Level) : Except Stop Level := do
  let l ← l.settle
  if l.operands.length = l.capacity then return l else throw .misuse

/-- Read all arguments of a level. -/
def readAll (l : Level) (arguments : List String) : Except Stop Level := do
  (← arguments.foldlM readArgument l).close

end Level

/-! ### Both levels -/

/-- The outcome of a request for help on the given topics: there is help on a task and on help
itself, and no task has parts. -/
def helpOn : List String → Stop
  | [] => .help
  | [topic] => if topic = helpWord || (TaskName.named? topic).isSome then .help else .misuse
  | _ => .misuse

/-- Read arguments from the outer level on: the outer level and, if there is the name of a task, the
inner one. -/
def Level.readBoth (outer : Level) : List String → Except Stop (Level × Option Level)
  | [] => return (← outer.settle, none)
  | a :: rest =>
    if outer.isPlain || outer.isExpectant then do (← outer.readArgument a).readBoth rest
    else if a = helpWord then .error (helpOn rest)
    else
      match TaskName.named? a with
      | none => do (← outer.readArgument a).readBoth rest
      | some t => do
        let inner ← (Level.start (some t)).readAll rest
        return (← outer.settle, some inner)

end Concordance

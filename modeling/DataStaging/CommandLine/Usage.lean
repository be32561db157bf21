import DataStaging.CommandLine.Grammar

/-!
# Reading a command line

The words are read from left to right. A named argument waits for its value, and a value is looked
at only when the argument after it is known, or at the end; so of two mistakes the one that is met
first is not always the one reported. Behind `--` every word is a value.
-/

namespace DataStaging.CommandLine

/-- Why a command line gives no request. -/
inductive Usage
  /-- Help was asked for. -/
  | help
  /-- The version was asked for. -/
  | version
  | nothingGiven
  | unknownVerb
  | unknownArgument
  /-- A value is missing, or empty where it must not be. -/
  | missingValue
  /-- A value is not of its kind. -/
  | malformedValue
  /-- An argument is given twice. -/
  | repeatedArgument
  /-- A switch is given a value. -/
  | unwantedValue
  | missingArgument
deriving DecidableEq, Repr

/-- The status that the agent exits with. -/
def Usage.exitStatus : Usage → Int
  | help | version => 0
  | _ => 2

/-! ## Values -/

/-- The number that decimal digits stand for; there is at least one. -/
def digits? (text : List Char) : Option Nat :=
  if text.isEmpty || !text.all Char.isDigit then none
  else some (text.foldl (fun n d => n * 10 + (d.toNat - 48)) 0)

/-- Whole numbers of 64 bits lie below. -/
def countLimit : Nat := 18446744073709551616

/-- Whole numbers of 32 bits lie below. -/
def shortLimit : Nat := 4294967296

/-- A whole number that fits into 64 bits; a plus may stand before it. -/
def count? (text : String) : Option Nat :=
  (digits? (match text.toList with
    | '+' :: rest => rest
    | all => all)).filter (· < countLimit)

/-- A whole number that fits into 32 bits; a sign may stand before it. -/
def shortCount? (text : String) : Option Nat :=
  match text.toList with
  | '-' :: rest => (digits? rest).filter (· = 0)
  | _ => (count? text).filter (· < shortLimit)

/-- Checks one value. -/
def Kind.check (kind : Kind) (value : String) : Except Usage Unit :=
  match kind with
  | .switch | .text => .ok ()
  | .path => if value.isEmpty then .error .missingValue else .ok ()
  | .count => if (count? value).isSome then .ok () else .error .malformedValue
  | .shortCount => if (shortCount? value).isSome then .ok () else .error .malformedValue

/-! ## Words -/

/-- What was read: the values by the names of their arguments. -/
abbrev Given := List (String × List String)

/-- An argument and its values so far. -/
structure Waiting where
  argument : Argument
  values : List String
deriving DecidableEq, Repr

/-- Where the reading of a verb's words stands. -/
structure Scan where
  given : Given
  /-- The argument whose values were not looked at yet. -/
  waiting : Option Waiting
  /-- Whether the next word is the value of the waiting argument. -/
  wantsValue : Bool
  /-- The words with a place so far. -/
  places : Nat
  /-- Whether `--` was read. -/
  literal : Bool
deriving DecidableEq, Repr

namespace Scan

def start : Scan := ⟨[], none, false, 0, false⟩

/-- Takes the values of an argument. -/
def take (s : Scan) (argument : Argument) (values : List String) : Except Usage Scan := do
  if values.isEmpty && argument.kind ≠ .switch then .error .missingValue
  else if (s.given.lookup argument.name).isSome then .error .repeatedArgument
  else
    values.forM argument.kind.check
    return { s with given := s.given ++ [(argument.name, values)] }

/-- Takes the values of the waiting argument. -/
def settle (s : Scan) : Except Usage Scan :=
  match s.waiting with
  | none => .ok s
  | some w => ({ s with waiting := none, wantsValue := false } : Scan).take w.argument w.values

/-- Begins a named argument, with the value that is attached to it, if there is one. -/
def begin (s : Scan) (argument : Argument) (attached : Option String) : Except Usage Scan := do
  if argument.kind = .switch then
    if attached.isSome then .error .unwantedValue
    else (← s.settle).take argument []
  else
    let s ← s.settle
    match attached with
    | some value => s.take argument [value]
    | none => return { s with waiting := some ⟨argument, []⟩, wantsValue := true }

/-- The name behind two hyphens, and the value behind the first `=`. -/
def cutName (text : List Char) : String × Option String :=
  match text.dropWhile (· != '=') with
  | [] => (String.ofList text, none)
  | _ :: value => (String.ofList (text.takeWhile (· != '=')), some (String.ofList value))

/-- Asks for help, once the waiting argument is settled. -/
def askHelp (s : Scan) (attached : Option String) : Except Usage Scan := do
  if attached.isSome then .error .unwantedValue
  else
    let _ ← s.settle
    .error .help

/-- Reads a word that begins with two hyphens. -/
def readName (s : Scan) (verb : Verb) (text : List Char) : Except Usage Scan :=
  let (name, attached) := cutName text
  match verb.arguments.find? (fun a => a.isNamed name) with
  | some argument => s.begin argument attached
  | none => if name = "help" then s.askHelp attached else .error .unknownArgument

/-- The value attached to a letter, perhaps behind a `=`. -/
def attachedTo : List Char → Option String
  | [] => none
  | '=' :: value => some (String.ofList value)
  | value => some (String.ofList value)

/-- Reads a word that begins with one hyphen. -/
def readLetters (s : Scan) (verb : Verb) : List Char → Except Usage Scan
  | [] => .ok s
  | c :: rest =>
    match verb.arguments.find? (fun a => a.hasLetter c) with
    | some argument => s.begin argument (attachedTo rest)
    | none => if c = 'h' then s.askHelp none else .error .unknownArgument

/-- Adds a word to the values behind `--`. -/
def addRest (s : Scan) (argument : Argument) (word : String) : Except Usage Scan :=
  match s.waiting with
  | some w =>
    if w.argument = argument then
      .ok { s with waiting := some ⟨argument, w.values ++ [word]⟩ }
    else s.settle.map (fun s => { s with waiting := some ⟨argument, [word]⟩ })
  | none => .ok { s with waiting := some ⟨argument, [word]⟩ }

/-- Reads a word that is a value. -/
def readValue (s : Scan) (verb : Verb) (word : String) : Except Usage Scan :=
  match verb.arguments.find? Argument.isRest with
  | some argument => if s.literal then s.addRest argument word else .error .unknownArgument
  | none =>
    match (verb.arguments.filter Argument.isPlaced)[s.places]? with
    | none => .error .unknownArgument
    | some argument => s.settle.map (fun s =>
        { s with waiting := some ⟨argument, [word]⟩, places := s.places + 1 })

/-- Reads one word. -/
def readWord (s : Scan) (verb : Verb) (word : String) : Except Usage Scan :=
  if s.literal then s.readValue verb word
  else match word.toList with
    | ['-', '-'] => .ok { s with literal := true }
    | '-' :: '-' :: name => s.readName verb name
    | '-' :: c :: letters => s.readLetters verb (c :: letters)
    | _ =>
      match s.waiting with
      | some w =>
        if s.wantsValue then
          let w := { w with values := w.values ++ [word] }
          .ok { s with waiting := some w, wantsValue := false }
        else s.readValue verb word
      | none => s.readValue verb word

/-- What was read, if nothing that is required is missing. -/
def finish (s : Scan) (verb : Verb) : Except Usage Given := do
  let s ← s.settle
  if verb.arguments.all (fun a => !a.required || (s.given.lookup a.name).isSome) then return s.given
  else .error .missingArgument

end Scan

/-- Reads the words behind a verb. -/
def readVerb (verb : Verb) (words : List String) : Except Usage Given := do
  let s ← words.foldlM (fun s word => s.readWord verb word) Scan.start
  s.finish verb

/-! ## The whole line -/

def verb? (name : String) : Option Verb := verbs.find? (fun v => v.name = name)

/-- The word that asks for help on a verb. -/
def helpWord : String := "help"

/-- Reads what is asked help for: nothing, or one verb. -/
def readHelp : List String → Usage
  | [] => .help
  | [name] => if name = helpWord || (verb? name).isSome then .help else .unknownVerb
  | _ => .unknownVerb

/-- Reads letters before any verb. -/
def readFirstLetters : List Char → Usage
  | 'h' :: _ => .help
  | 'V' :: _ => .version
  | _ => .unknownArgument

/-- Reads a name before any verb. -/
def readFirstName (text : List Char) : Usage :=
  match Scan.cutName text with
  | (name, attached) =>
    if name = "help" then if attached.isSome then .unwantedValue else .help
    else if name = "version" then if attached.isSome then .unwantedValue else .version
    else .unknownArgument

/-- Reads a line behind a `--` that comes before any verb. -/
def readLiteral : List String → Usage
  | [] => .nothingGiven
  | word :: _ =>
    if word = helpWord || (verb? word).isSome then .unknownArgument else .unknownVerb

/-- Reads a line: a verb and what was given with it. -/
def readLine : List String → Except Usage (Verb × Given)
  | [] => .error .nothingGiven
  | word :: rest =>
    match verb? word with
    | some verb => (readVerb verb rest).map (fun given => (verb, given))
    | none =>
      .error (if word = helpWord then readHelp rest
        else match word.toList with
          | ['-', '-'] => readLiteral rest
          | '-' :: '-' :: name => readFirstName name
          | '-' :: c :: letters => readFirstLetters (c :: letters)
          | _ => .unknownVerb)

end DataStaging.CommandLine

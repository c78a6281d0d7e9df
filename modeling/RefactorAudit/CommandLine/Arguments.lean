-- SUMMARY: Arguments of a command line, read by the parameters of a command.
import RefactorAudit.Collection.Table
import RefactorAudit.Text.Natural

/-!
# Arguments

A parameter is named by two dashes and its name or by one dash and its letter; letters may be
written together. A value stands behind an equals sign or in the next argument, which then does not
begin with a dash. Parameters without a name take the other arguments in order. A value is looked at
only when the next parameter is met, so of two faults it is often not the first one that is
reported.
-/

namespace RefactorAudit.CommandLine

/-- Why a command line cannot be understood, or what it asks for instead of a run. -/
inductive UsageFault where
  | help
  | version
  /-- Nothing is given at all. -/
  | nothingGiven
  | missingCommand
  | unknownCommand
  | unknownArgument
  | missingArgument
  | missingValue
  /-- A value for a parameter that has none. -/
  | unexpectedValue
  | notNumber
  | repeated
  deriving DecidableEq, Repr, Inhabited

/-- What the value of a parameter is. -/
inductive ValueKind where
  /-- There is no value; the parameter is given once or not at all. -/
  | flag
  /-- There is no value; it counts how often the parameter is given. -/
  | count
  | text
  /-- A text that is not empty. -/
  | path
  /-- A number up to a limit. Zero may have a minus if the number is signed. -/
  | number (limit : Nat) (signed : Bool)
  deriving DecidableEq, Repr, Inhabited

structure Parameter where
  name : String
  letter : Option Char := none
  kind : ValueKind
  /-- Whether the parameter has to be given. -/
  required : Bool := false
  /-- Whether the value stands alone. -/
  unnamed : Bool := false
  deriving DecidableEq, Repr, Inhabited

/-- What has been given for a parameter. -/
inductive Given where
  | times (count : Nat)
  | text (value : String)
  | number (value : Nat)
  deriving DecidableEq, Repr, Inhabited

/-- What can be given in one part of a command line. -/
structure Interface where
  parameters : List Parameter
  /-- The commands that end this part and begin the next. -/
  commands : List String := []
  /-- Whether the version may be asked for. -/
  hasVersion : Bool := false
  deriving Repr, Inhabited

namespace Interface

def named? (i : Interface) (name : String) : Option Parameter :=
  i.parameters.find? fun p => !p.unnamed && p.name = name

def lettered? (i : Interface) (letter : Char) : Option Parameter :=
  i.parameters.find? fun p => !p.unnamed && p.letter = some letter

/-- The unnamed parameter at a position. -/
def unnamed? (i : Interface) (position : Nat) : Option Parameter :=
  (i.parameters.filter (·.unnamed))[position]?

end Interface

/-! ## Values -/

namespace Parameter

/-- How often a parameter is counted at most. -/
def countLimit : Nat := 255

/-- What a written value gives. -/
def read (p : Parameter) (value : String) : Except UsageFault Given :=
  match p.kind with
  | .flag | .count => .error .unexpectedValue
  | .text => .ok (.text value)
  | .path => if value.isEmpty then .error .missingValue else .ok (.text value)
  | .number limit signed =>
    let read :=
      match signed, value.toList with
      | true, '-' :: digit :: digits => Text.digitsFrom 0 0 (digit :: digits)
      | _, digits => Text.natural limit digits
    match read with
    | .ok n => .ok (.number n)
    | .error _ => .error .notNumber

def hasValue (p : Parameter) : Bool := p.kind ≠ .flag && p.kind ≠ .count

/-- Takes up a parameter with its value, if it has one. -/
def take (p : Parameter) (value : Option String) (given : Table Given) :
    Except UsageFault (Table Given) :=
  match p.kind with
  | .count =>
    let times :=
      match given.get? p.name with
      | some (.times n) => min countLimit (n + 1)
      | _ => 1
    .ok (given.put p.name (.times times))
  | .flag =>
    if (given.get? p.name).isSome then .error .repeated else .ok (given.put p.name (.times 1))
  | _ =>
    match value with
    | none => .error .missingValue
    | some value =>
      if (given.get? p.name).isSome then .error .repeated
      else (p.read value).map fun v => given.put p.name v

end Parameter

/-! ## Reading -/

/-- The arguments that have been read so far. -/
structure Draft where
  given : Table Given := []
  /-- The last parameter that has a value, with its value once that is met. -/
  pending : Option (Parameter × Option String) := none
  /-- How many unnamed parameters have been met. -/
  position : Nat := 0
  /-- Whether all arguments that follow are values. -/
  onlyValues : Bool := false
  deriving Inhabited

namespace Draft

/-- Whether the next argument is the value of the last parameter. -/
def awaitsValue (d : Draft) : Bool :=
  match d.pending with
  | some (_, none) => true
  | _ => false

/-- Takes up the pending parameter. -/
def settle (d : Draft) : Except UsageFault Draft :=
  match d.pending with
  | none => .ok d
  | some (p, value) => do return { d with given := ← p.take value d.given, pending := none }

/-- Takes up a parameter at once. -/
def take (d : Draft) (p : Parameter) (value : Option String) : Except UsageFault Draft := do
  let d ← d.settle
  return { d with given := ← p.take value d.given }

/-- Meets a parameter whose value may be attached to it. -/
def meet (d : Draft) (p : Parameter) (attached : Option String) : Except UsageFault Draft :=
  match attached with
  | some value => d.take p (some value)
  | none => do
    let d ← d.settle
    return { d with pending := some (p, none) }

/-- What is asked for instead of a run, once the pending parameter is taken up. -/
def ask (d : Draft) (what : UsageFault) : Except UsageFault Draft := do
  let _ ← d.settle
  throw what

/-- Reads a name behind two dashes. -/
def readName (i : Interface) (d : Draft) (name : String) (attached : Option String) :
    Except UsageFault Draft :=
  match i.named? name with
  | some p =>
    if p.hasValue then d.meet p attached
    else if attached.isSome then .error .unexpectedValue
    else d.take p none
  | none =>
    let asked : Option UsageFault :=
      if name = "help" then some .help
      else if name = "version" && i.hasVersion then some .version
      else none
    match asked with
    | none => .error .unknownArgument
    | some what => if attached.isSome then .error .unexpectedValue else d.ask what

/-- Reads letters behind one dash. What follows the letter of a parameter with a value is that
value. -/
def readLetters (i : Interface) : Draft → List Char → Except UsageFault Draft
  | d, [] => .ok d
  | d, c :: rest =>
    match i.lettered? c with
    | some p =>
      if p.hasValue then
        d.meet p <|
          match rest with
          | [] => none
          | '=' :: value => some (String.ofList value)
          | value => some (String.ofList value)
      else do readLetters i (← d.take p none) rest
    | none =>
      if c = 'h' then d.ask .help
      else if c = 'V' && i.hasVersion then d.ask .version
      else .error .unknownArgument

/-- Reads an argument that is a value. -/
def readValue (i : Interface) (d : Draft) (value : String) : Except UsageFault Draft :=
  match i.unnamed? d.position with
  | some p => do
    let d ← d.settle
    return { d with pending := some (p, some value), position := d.position + 1 }
  | none =>
    if i.commands.isEmpty || (d.onlyValues && i.commands.contains value) then
      .error .unknownArgument
    else .error .unknownCommand

/-- Reads one argument that is no command. -/
def readOne (i : Interface) (d : Draft) (argument : String) : Except UsageFault Draft :=
  if d.onlyValues then readValue i d argument
  else
    match argument.toList with
    | ['-', '-'] => .ok { d with onlyValues := true }
    | '-' :: '-' :: rest =>
      let name := String.ofList (rest.takeWhile (· ≠ '='))
      let attached := (rest.dropWhile (· ≠ '=')).tail?.map String.ofList
      readName i d name attached
    | '-' :: c :: rest => readLetters i d (c :: rest)
    | _ =>
      match d.pending with
      | some (p, none) => .ok { d with pending := some (p, some argument) }
      | _ => readValue i d argument

/-- Reads arguments up to a command, which is given back with those behind it. -/
def read (i : Interface) : Draft → List String →
    Except UsageFault (Draft × Option (String × List String))
  | d, [] => .ok (d, none)
  | d, argument :: rest =>
    if !d.onlyValues && !d.awaitsValue && i.commands.contains argument then
      .ok (d, some (argument, rest))
    else do read i (← readOne i d argument) rest

end Draft

/-- Whether everything that is required has been given. -/
def Interface.isComplete (i : Interface) (given : Table Given) : Bool :=
  i.parameters.all fun p => !p.required || (given.get? p.name).isSome

namespace Given

/-- The text that is given for a parameter. -/
def text? (given : Table Given) (name : String) : Option String :=
  match given.get? name with
  | some (.text value) => some value
  | _ => none

/-- The number that is given for a parameter. -/
def number? (given : Table Given) (name : String) : Option Nat :=
  match given.get? name with
  | some (.number value) => some value
  | _ => none

/-- How often a parameter is given, if it is. -/
def times? (given : Table Given) (name : String) : Option Nat :=
  match given.get? name with
  | some (.times count) => some count
  | _ => none

end Given

end RefactorAudit.CommandLine

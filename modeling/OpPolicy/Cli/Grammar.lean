import OpPolicy.Cli.Argument

set_option autoImplicit false

/-!
Command lines. A grammar is a tree of commands, each with parameters given by name and, at the
leaves, with operands; reading a line collects what its parameters say. A value is only looked at
when the next argument of its command has been recognized, or when all that follows has been read,
so of two faults the later one may be reported.
-/

namespace OpPolicy.Cli

/-- What a parameter does to what has been given so far. -/
inductive Effect (σ : Type) where
  | mark (f : σ → σ)
  | accept (f : String → σ → Except ValueFault σ)
  | help
  | version

structure Parameter (σ : Type) where
  /-- How messages call it. -/
  label : String
  effect : Effect σ

/-- A parameter given by its name. -/
structure Named (σ : Type) extends Parameter σ where
  short : Option Char := none
  long : String

/-- A parameter given by its place. -/
structure Operand (σ : Type) extends Parameter σ where
  required : Bool := true
  /-- A value may start with a minus sign if a number follows. -/
  negative : Bool := false

inductive Command (σ ρ : Type) where
  | group (name : String) (named : List (Named σ)) (members : List (Command σ ρ))
  | leaf (name : String) (named : List (Named σ)) (operands : List (Operand σ))
      (finish : σ → Option ρ)

/-- What is wrong with a command line. -/
inductive Misuse where
  | unknownCommand (name : String)
  | unexpected (argument : String)
  | missingCommand (command : String)
  | missingOperands (labels : List String)
  | missingValue (label : String)
  | unneededValue (value label : String)
  | repeated (label : String)
  | invalidValue (value label reason : String)
  | refused (reason : String)
  | notText
  deriving DecidableEq, Repr

namespace Misuse

/-- A part of the command line within a message. -/
def quoted (part : String) : String := s!"'{Text.plainStream part}'"

def reason : Misuse → String
  | unknownCommand name => s!"unrecognized subcommand {quoted name}"
  | unexpected argument => s!"unexpected argument {quoted argument} found"
  | missingCommand command =>
    s!"{quoted command} requires a subcommand but one was not provided"
  | missingOperands labels =>
    "\n  ".intercalate ("the following required arguments were not provided:" :: labels)
  | missingValue label => s!"a value is required for '{label}' but none was supplied"
  | unneededValue value label =>
    s!"unexpected value {quoted value} for '{label}' found; no more were expected"
  | repeated label => s!"the argument '{label}' cannot be used multiple times"
  | invalidValue value label reason => s!"invalid value {quoted value} for '{label}': {reason}"
  | refused reason => reason
  | notText => "invalid UTF-8 was detected in one or more arguments"

/-- What is printed of a misuse. The parts of the command line in it are freed from control
sequences one by one, a reason that may hold any text as a whole. -/
def message : Misuse → String
  | refused reason => Text.plainStream (errorLine reason)
  | m => errorLine m.reason

def ofFault (label value : String) : ValueFault → Misuse
  | .notText => notText
  | .empty => missingValue label
  | .invalid reason => invalidValue value label reason
  | .refused reason => refused reason

end Misuse

/-- Why reading ends without a request. -/
inductive Stop where
  | help
  | version
  /-- Nothing was given where something is needed, so the usage is shown. -/
  | usage
  | misuse (m : Misuse)
  deriving DecidableEq, Repr

def Effect.takesValue {σ : Type} : Effect σ → Bool
  | accept _ => true
  | mark _ | help | version => false

/-- How far the reading of one command's arguments has come. -/
structure Progress (σ : Type) where
  given : σ
  /-- The operands to come. -/
  operands : List (Operand σ)
  /-- The parameters taken over, by their labels. -/
  taken : List String := []
  /-- A parameter that is not taken over yet, and its value if that is there. -/
  pending : Option (Parameter σ × Option String) := none
  /-- Only operands follow. -/
  escaped : Bool := false

namespace Progress
variable {σ : Type}

/-- Take a parameter over. -/
def take (p : Progress σ) (x : Parameter σ) (value : Option String) :
    Except Stop (Progress σ) :=
  match x.effect with
  | .help => .error .help
  | .version => .error .version
  | .mark f =>
    if x.label ∈ p.taken then .error (.misuse (.repeated x.label))
    else .ok { p with given := f p.given, taken := x.label :: p.taken }
  | .accept f =>
    match value with
    | none => .error (.misuse (.missingValue x.label))
    | some v =>
      if x.label ∈ p.taken then .error (.misuse (.repeated x.label))
      else
        match f v p.given with
        | .error fault => .error (.misuse (.ofFault x.label v fault))
        | .ok given => .ok { p with given, taken := x.label :: p.taken }

/-- Take over what is pending. -/
def settle (p : Progress σ) : Except Stop (Progress σ) :=
  match p.pending with
  | none => .ok p
  | some (x, value) => { p with pending := none }.take x value

def give (p : Progress σ) (x : Parameter σ) (value : Option String) :
    Except Stop (Progress σ) := do
  (← p.settle).take x value

/-- Wait for the value of a parameter, or leave one that is there for later. -/
def defer (p : Progress σ) (x : Parameter σ) (value : Option String) :
    Except Stop (Progress σ) := do
  return { ← p.settle with pending := some (x, value) }

/-- The next argument is the value of a parameter unless it looks like a name. -/
def awaits (p : Progress σ) : Bool :=
  match p.pending with
  | some (_, none) => true
  | _ => false

end Progress

/-- A number as it may stand after a minus sign: digits, a point after the first of them and an
exponent that is not empty. -/
def isNumber (s : List Char) : Bool :=
  s.head? ≠ some '.' && s.head? ≠ some 'e' && digits true true s
where
  digits (point exponent : Bool) : List Char → Bool
    | [] => true
    | c :: s =>
      if c.isDigit then digits point exponent s
      else if c = '.' then point && digits false exponent s
      else if c = 'e' then exponent && s ≠ [] && digits false false s
      else false

namespace Command
variable {σ ρ : Type}

def name : Command σ ρ → String
  | group name .. | leaf name .. => name

def members : Command σ ρ → List (Command σ ρ)
  | group _ _ members => members
  | leaf .. => []

def isGroup : Command σ ρ → Bool
  | group .. => true
  | leaf .. => false

/-- The parameters given by name, with the one that every command has. -/
def named : Command σ ρ → List (Named σ)
  | group _ named _ | leaf _ named .. =>
    named ++ [{ label := "--help", effect := .help, short := some 'h', long := "help" }]

def operands : Command σ ρ → List (Operand σ)
  | group .. => []
  | leaf _ _ operands _ => operands

def start (c : Command σ ρ) (given : σ) : Progress σ := { given, operands := c.operands }

def member? (c : Command σ ρ) (name : String) : Option (Command σ ρ) :=
  c.members.find? (·.name = name)

/-- What follows the word that asks for help names a command. -/
def helpOn : Command σ ρ → List String → Stop
  | _, [] => .help
  | c, name :: names =>
    match c.member? name, names with
    | some m, _ => m.helpOn names
    | none, [] => if c.isGroup ∧ name = "help" then .help else .misuse (.unknownCommand name)
    | none, next :: _ =>
      .misuse (.unknownCommand (if c.isGroup ∧ name = "help" then next else name))

/-- What an argument is called that has no place. -/
def stray (c : Command σ ρ) (escaped : Bool) (argument : String) : Misuse :=
  let isName := argument = "help" ∨ (c.member? argument).isSome
  if c.isGroup ∧ ¬(escaped ∧ isName) then .unknownCommand argument else .unexpected argument

def operand (c : Command σ ρ) (p : Progress σ) (argument : String) : Except Stop (Progress σ) :=
  match p.operands with
  | [] => .error (.misuse (c.stray p.escaped argument))
  | x :: xs => { p with operands := xs }.defer x.toParameter (some argument)

/-- An argument that is no name: a value that is awaited, else an operand. -/
def plain (c : Command σ ρ) (p : Progress σ) (argument : String) : Except Stop (Progress σ) :=
  match p.pending with
  | some (x, none) => .ok { p with pending := some (x, some argument) }
  | _ => c.operand p argument

/-- A long name, and a value after an equals sign if there is one. -/
def long (c : Command σ ρ) (p : Progress σ) (text : List Char) : Except Stop (Progress σ) :=
  let (name, value) := match Text.splitFirst? ['='] text with
    | some (name, value) => (String.ofList name, some (String.ofList value))
    | none => (String.ofList text, none)
  match c.named.find? (·.long = name) with
  | none => .error (.misuse (.unexpected s!"--{name}"))
  | some x =>
    match x.effect.takesValue, value with
    | true, none => p.defer x.toParameter none
    | false, some v => .error (.misuse (.unneededValue v x.label))
    | _, _ => p.give x.toParameter value

/-- Short names in one argument. One that takes a value takes the rest, less an equals sign. -/
def short (c : Command σ ρ) (p : Progress σ) : List Char → Except Stop (Progress σ)
  | [] => .ok p
  | d :: rest =>
    match c.named.find? (·.short = some d) with
    | none => .error (.misuse (.unexpected s!"-{d}"))
    | some x =>
      if x.effect.takesValue then
        match rest with
        | [] => p.defer x.toParameter none
        | '=' :: value | value => p.give x.toParameter (some (String.ofList value))
      else do c.short (← p.give x.toParameter none) rest

/-- Read an argument that is no command. -/
def step (c : Command σ ρ) (p : Progress σ) (argument : String) : Except Stop (Progress σ) :=
  if p.escaped then c.operand p argument
  else
    match argument.toList with
    | ['-', '-'] => .ok { p with escaped := true }
    | '-' :: '-' :: text => c.long p text
    | '-' :: d :: text =>
      if (p.operands.head?.map (·.negative)) = some true ∧ isNumber (d :: text) then
        c.plain p argument
      else c.short p (d :: text)
    | _ => c.plain p argument

/-- What the arguments of a command come to. -/
def conclude (c : Command σ ρ) (p : Progress σ) : Except Stop (σ × ρ) :=
  match c with
  | group name .. => .error (if p.taken = [] then .usage else .misuse (.missingCommand name))
  | leaf _ _ operands finish =>
    let missing := operands.filter fun x => x.required ∧ x.label ∉ p.taken
    match finish p.given with
    | some r => .ok (p.given, r)
    | none => .error (.misuse (.missingOperands (missing.map (·.label))))

/-- Read the arguments of a command. -/
def read : Command σ ρ → Progress σ → List String → Except Stop (σ × ρ)
  | c, p, [] => do c.conclude (← p.settle)
  | c, p, argument :: rest =>
    if p.escaped ∨ p.awaits then do read c (← c.step p argument) rest
    else
      match c.member? argument with
      | some m => do
        let (given, r) ← read m (m.start p.given) rest
        return ((← { p with given }.settle).given, r)
      | none =>
        if c.isGroup ∧ argument = "help" then .error (c.helpOn rest)
        else do read c (← c.step p argument) rest

end Command

end OpPolicy.Cli

/-!
Arguments of a command line: flags with and without values, and subcommands with flags of their
own. An argument that starts with a dash is always a flag, so such a value has to be attached with
an equals sign. No flag may be given twice.
-/
namespace KeyCustody.CommandLine

structure Flag where
  name : String
  letter : Option Char := none
  takesValue : Bool := true
  accepts : String → Bool := fun _ => true
  /-- The environment variable that stands in for the flag. -/
  environment : Option String := none

structure Grammar where
  flags : List Flag
  subcommands : List String := []
  showsVersion : Bool := false

abbrev Given := List (String × String)

inductive Scan where
  | misuse
  | help
  | version
  | done (given : Given) (subcommand : Option (String × List String))

inductive Step where
  | stop (scan : Scan)
  | taken (given : Given)
  | awaits (flag : Flag)
  | subcommand

def Flag.give? (flag : Flag) (value : String) (given : Given) : Option Given :=
  if (given.lookup flag.name).isSome then none
  else if flag.accepts value then some (given ++ [(flag.name, value)])
  else none

def giveStep (flag : Flag) (value : String) (given : Given) : Step :=
  match flag.give? value given with
  | some given => .taken given
  | none => .stop .misuse

def splitValue (s : List Char) : String × Option String :=
  let name := s.takeWhile (· ≠ '=')
  match s.dropWhile (· ≠ '=') with
  | [] => (String.ofList name, none)
  | _ :: value => (String.ofList name, some (String.ofList value))

def longStep (g : Grammar) (s : List Char) (given : Given) : Step :=
  let (name, attached) := splitValue s
  if name = "help" then
    if attached.isNone then .stop .help else .stop .misuse
  else if name = "version" ∧ g.showsVersion then
    if attached.isNone then .stop .version else .stop .misuse
  else
    match g.flags.find? (·.name = name), attached with
    | none, _ => .stop .misuse
    | some flag, some value => if flag.takesValue then giveStep flag value given else .stop .misuse
    | some flag, none => if flag.takesValue then .awaits flag else giveStep flag "" given

def letterStep (g : Grammar) : List Char → Given → Step
  | [], given => .taken given
  | letter :: rest, given =>
    if letter = 'h' then .stop .help
    else if letter = 'V' ∧ g.showsVersion then .stop .version
    else
      match g.flags.find? (fun flag => flag.letter = some letter && !flag.takesValue) with
      | none => .stop .misuse
      | some flag =>
        match flag.give? "" given with
        | none => .stop .misuse
        | some given => letterStep g rest given

/-- A single dash is a plain argument. -/
def looksLikeFlag (argument : String) : Bool :=
  match argument.toList with
  | '-' :: _ :: _ => true
  | _ => false

def step (g : Grammar) (argument : String) (given : Given) : Step :=
  match argument.toList with
  | '-' :: '-' :: rest => longStep g rest given
  | '-' :: letter :: rest => letterStep g (letter :: rest) given
  | _ => if g.subcommands.contains argument then .subcommand else .stop .misuse

def helpOn (g : Grammar) : List String → Scan
  | [] => .help
  | [name] => if name = "help" ∨ g.subcommands.contains name then .help else .misuse
  | _ => .misuse

def scan (g : Grammar) : List String → Given → Scan
  | [], given => .done given none
  | argument :: rest, given =>
    if argument = "--" then
      -- Only plain arguments may follow, and there are none to take.
      if rest = [] then .done given none else .misuse
    else if argument = "help" ∧ g.subcommands ≠ [] then helpOn g rest
    else
      match step g argument given with
      | .stop result => result
      | .taken given => scan g rest given
      | .subcommand => .done given (some (argument, rest))
      | .awaits flag =>
        match rest with
        | [] => .misuse
        | value :: rest =>
          if looksLikeFlag value then .misuse
          else
            match flag.give? value given with
            | none => .misuse
            | some given => scan g rest given

abbrev Environment := String → Option String

def Flag.value? (flag : Flag) (environment : Environment) (given : Given) : Option String :=
  match given.lookup flag.name with
  | some value => some value
  | none => flag.environment.bind environment

def Grammar.acceptsEnvironment (g : Grammar) (environment : Environment) (given : Given) : Bool :=
  g.flags.all fun flag =>
    match flag.value? environment given with
    | some value => flag.accepts value
    | none => true

def Grammar.value? (g : Grammar) (environment : Environment) (given : Given) (name : String) :
    Option String :=
  match g.flags.find? (·.name = name) with
  | some flag => flag.value? environment given
  | none => none

def Given.has (given : Given) (name : String) : Bool :=
  (given.lookup name).isSome

/-- Digits, perhaps after a sign, as a number from 0 to `greatest`. A minus sign is for zero only,
and only where `signed`. -/
def number? (signed : Bool) (greatest : Nat) (s : String) : Option Nat :=
  let (minus, digits) :=
    match s.toList with
    | '+' :: rest => (false, rest)
    | '-' :: rest => (true, rest)
    | digits => (false, digits)
  if digits = [] ∨ !digits.all Char.isDigit ∨ (minus ∧ !signed) then none
  else
    let n := digits.foldl (fun n c => 10 * n + (c.toNat - '0'.toNat)) 0
    if greatest < n ∨ (minus ∧ n ≠ 0) then none else some n

end KeyCustody.CommandLine

import KeyCustody.Failure
import KeyCustody.Json.Layout
import KeyCustody.Json.Reader

/-!
What a run does outside of itself: it puts commands to a provider, finds files changed by them,
keeps a journal, prints and waits. A session holds all of it as a value. A run that fails still
leaves everything it did in the session.
-/
namespace KeyCustody

structure Ending where
  success : Bool
  code : Option Int
  stdout : Bytes
  stderr : Bytes
  deriving Inhabited

/-- A command that cannot be started has a reason instead of an ending. -/
abbrev Reply := Except String Ending

/-- Anything that answers commands. It may remember earlier ones and change files. -/
structure Provider (σ : Type) where
  answer : Command → σ → Files → Reply × σ × Files

inductive Level where
  | error
  | warn
  | info
  | debug
  | trace
  deriving DecidableEq, Repr

inductive Detail where
  | text (s : String)
  | count (n : Nat)

inductive Origin where
  | awsTool
  | googleTool
  | commands
  | awsInventory
  | awsCreation
  | googleInventory
  | googleCreation
  deriving DecidableEq, Repr

structure Event where
  level : Level
  origin : Origin
  message : String
  details : List (String × Detail) := []

/-- Takes what is printed. `room` bounds the octets it takes; none means no bound. -/
structure Sink where
  taken : List Bytes := []
  room : Option Nat := none

def Sink.octets (s : Sink) : Bytes :=
  s.taken.flatten

def Sink.refusal : String := "disk full"

def Sink.put (s : Sink) (octets : Bytes) : Bool × Sink :=
  match s.room with
  | none => (true, { s with taken := s.taken ++ [octets] })
  | some room =>
    (octets.length ≤ room, ⟨s.taken ++ [octets.take room], some (room - octets.length)⟩)

theorem Sink.put_of_unbounded (s : Sink) (octets : Bytes) (unbounded : s.room = none) :
    s.put octets = (true, { s with taken := s.taken ++ [octets] }) := by
  simp [Sink.put, unbounded]

theorem Sink.octets_put (s : Sink) (octets : Bytes) :
    (s.put octets).2.octets = s.octets ++ octets.take (s.room.getD octets.length) := by
  cases room : s.room <;> simp [Sink.put, Sink.octets, room]

structure Session (σ : Type) where
  provider : σ
  files : Files := .empty
  /-- Commands in the order in which they were put to the provider. -/
  calls : List Command := []
  journal : List Event := []
  sink : Sink := {}
  /-- Milliseconds spent waiting. -/
  waited : Nat := 0

abbrev Run (σ α : Type) := ExceptT Failure (StateM (Session σ)) α

namespace Run

variable {σ α : Type}

def note (level : Level) (origin : Origin) (message : String) (details : List (String × Detail)) :
    Run σ Unit :=
  modify fun s => { s with journal := s.journal ++ [{ level, origin, message, details }] }

/-- Thirty years of 365 days, in milliseconds. -/
def longestWait : Nat := 946080000000

def wait (milliseconds : Nat) : Run σ Unit :=
  modify fun s => { s with waited := s.waited + min milliseconds longestWait }

def attempt (run : Run σ α) : Run σ (Except Failure α) :=
  ExceptT.mk (Except.ok <$> run.run)

def settle (result : Except Failure α) : Run σ α :=
  ExceptT.mk (pure result)

def printBytes (octets : Bytes) : Run σ Unit := do
  let s ← get
  let (complete, sink) := s.sink.put octets
  set { s with sink }
  if complete then pure () else throw (.output Sink.refusal)

def print (text : String) : Run σ Unit :=
  printBytes (Text.encode text)

def printValues (values : List Json.Value) : Run σ Unit :=
  print ((Json.Value.array values).pretty ++ "\n")

def execute (p : Provider σ) (c : Command) : Run σ Ending := do
  note .debug .commands "Spawning" [("command", .text c.display)]
  let s ← get
  let (reply, provider, files) := p.answer c s.provider s.files
  set { s with provider, files, calls := s.calls ++ [c] }
  match reply with
  | .ok ending => pure ending
  | .error reason => throw (.spawn c reason)

def checked (p : Provider σ) (c : Command) : Run σ Bytes := do
  let ending ← execute p c
  if ending.success then pure ending.stdout else throw (.exit c ending.code ending.stderr)

def decoded (read : Json.Reader α) (c : Command) (stdout : Bytes) : Except Failure α :=
  match Json.decode read stdout with
  | .ok found => .ok found
  | .error fault => .error (.json c fault)

def json (p : Provider σ) (read : Json.Reader α) (c : Command) : Run σ α := do
  let stdout ← checked p c
  settle (decoded read c stdout)

/-- Every command of a list, whatever becomes of those before it. -/
def each (p : Provider σ) : List Command → Run σ (List (Except Failure Bytes))
  | [] => pure []
  | c :: rest => do
    let result ← attempt (checked p c)
    let results ← each p rest
    pure (result :: results)

def batch (p : Provider σ) (commands : List Command) : Run σ (List (Except Failure Bytes)) := do
  note .debug .commands "Launching command batch" [("count", .count commands.length)]
  each p commands

end Run

end KeyCustody

import KeyCustody.Command
import KeyCustody.Files

/-!
Whether a command can be started. A program whose name has a slash is a path; any other is looked
for along a search path. The files of a tree are data, so none of them can be started.
-/
namespace KeyCustody.Launch

inductive Fault where
  | nul
  | tooLong
  | denied
  | path (fault : Files.Fault)
  deriving DecidableEq, Repr

def Fault.message : Fault → String
  | .nul => "nul byte found in provided data"
  | .tooLong => "Argument list too long (os error 7)"
  | .denied => "Permission denied (os error 13)"
  | .path fault => fault.message

inductive SearchPath where
  /-- One directory outside of the tree, with these programs in it. -/
  | installed (programs : List String)
  /-- Directories of the tree. An empty text is the working directory. -/
  | directories (paths : List String)

def refusal (files : Files) (path : String) : Fault :=
  match files.stat path with
  | .ok _ => .denied
  | .error fault => .path fault

def Fault.isPassed : Fault → Bool
  | .denied | .path .missing | .path .notDirectory => true
  | _ => false

def lookThrough (files : Files) (name : String) (soFar : Fault) : List String → Fault
  | [] => soFar
  | directory :: rest =>
    let found := refusal files (Path.join directory name)
    if !found.isPassed then found
    else lookThrough files name (if soFar = .denied then .denied else found) rest

def argumentBound : Nat := 131072

def holdsNul (s : String) : Bool :=
  s.toList.contains '\x00'

def SearchPath.fault? (search : SearchPath) (files : Files) (c : Command) : Option Fault :=
  if holdsNul c.program || c.arguments.any holdsNul then some .nul
  else if c.program = "" ∨ c.program.toList.contains '/' then some (refusal files c.program)
  else
    match search with
    | .directories paths => some (lookThrough files c.program (.path .missing) paths)
    | .installed programs =>
      if programs.contains c.program then
        if c.arguments.any (argumentBound ≤ ·.utf8ByteSize) then some .tooLong else none
      else if c.program = "." ∨ c.program = ".." then some .denied
      else if 255 < c.program.utf8ByteSize then some (.path .nameTooLong)
      else some (.path .missing)

end KeyCustody.Launch

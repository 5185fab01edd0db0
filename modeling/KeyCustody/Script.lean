import KeyCustody.Launch
import KeyCustody.Session

namespace KeyCustody

namespace Script

structure Response where
  code : Option Int := some 0
  success : Bool := true
  stdout : Bytes := []
  stderr : Bytes := []
  /-- Goes to the file that the command names as its output file. -/
  content : Option Bytes := none
  /-- Why the command cannot be started. -/
  obstacle : Option String := none

structure Rule where
  arguments : List String
  /-- How often the rule may still be used; none means always. -/
  left : Option Nat := none
  response : Response

def Rule.fits (r : Rule) (c : Command) : Bool :=
  r.left ≠ some 0 && r.arguments.all c.arguments.contains

def failed (complaint : String) : Ending :=
  ⟨false, some 1, [], Text.encode complaint⟩

def Response.ending (r : Response) : Ending :=
  ⟨r.success, r.code, r.stdout, r.stderr⟩

/-- The output file is written before the command ends. -/
def Response.apply (r : Response) (c : Command) (files : Files) : Reply × Files :=
  match r.obstacle, r.content with
  | some reason, _ => (.error reason, files)
  | none, none => (.ok r.ending, files)
  | none, some content =>
    match c.value? "--output-file" with
    | none => (.ok (failed "cannot write"), files)
    | some path =>
      match files.write path content with
      | .error _ => (.ok (failed "cannot write"), files)
      | .ok files => (.ok r.ending, files)

def select (c : Command) : List Rule → Option Response × List Rule
  | [] => (none, [])
  | rule :: rest =>
    if rule.fits c then
      (some rule.response, { rule with left := rule.left.map (· - 1) } :: rest)
    else
      let (found, rest) := select c rest
      (found, rule :: rest)

def provider : Provider (List Rule) where
  answer c rules files :=
    match select c rules with
    | (some response, rules) =>
      let (reply, files) := response.apply c files
      (reply, rules, files)
    | (none, rules) => (.ok (failed "unscripted"), rules, files)

/-- An exit status has eight bits, and only zero is success. -/
def Response.asProcess (r : Response) : Response :=
  let code := r.code.map (· % 256)
  { r with code, success := code = some 0 }

def launching {σ : Type} (search : Launch.SearchPath) (p : Provider σ) : Provider σ where
  answer c s files :=
    match search.fault? files c with
    | some fault => (.error fault.message, s, files)
    | none => p.answer c s files

end Script

end KeyCustody

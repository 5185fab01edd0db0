import KeyCustody.Failure

/-!
The report of a failed run: what was being done, then the failure and the causes behind it. A
single one is indented, several are numbered, and further lines of each are indented to match.
-/
namespace KeyCustody.CommandLine

structure Report where
  context : String
  failure : Failure

def Report.causes (r : Report) : List String :=
  r.failure.message :: r.failure.sources

def indent (first other : String) (cause : String) : String :=
  first ++ (("\n" ++ other).intercalate (cause.splitOn "\n"))

def padLeft (width : Nat) (s : String) : String :=
  String.ofList (List.replicate (width - s.length) ' ') ++ s

def numbered (causes : List String) : List String :=
  causes.zipIdx.map fun (cause, n) => indent (padLeft 5 (toString n) ++ ": ") "       " cause

def Report.lines (r : Report) : List String :=
  match r.causes with
  | [cause] => [indent "    " "    " cause]
  | causes => numbered causes

def Report.text (r : Report) : String :=
  "Error: " ++ r.context ++ "\n\nCaused by:\n" ++ "\n".intercalate r.lines ++ "\n"

end KeyCustody.CommandLine

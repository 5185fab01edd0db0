import KeyCustody.CommandLine.Directive
import KeyCustody.Session

/-!
Which lines of the journal are shown. A filter is a row of directives. Of those that fit a line the
one with the longest origin decides, then one for a field before one for all lines, then the
greater field, and of two alike the later.
-/
namespace KeyCustody.CommandLine

def rank : Level → Nat
  | .error => 1
  | .warn => 2
  | .info => 3
  | .debug => 4
  | .trace => 5

def levelName : Level → String
  | .error => "ERROR"
  | .warn => "WARN"
  | .info => "INFO"
  | .debug => "DEBUG"
  | .trace => "TRACE"

def originName : Origin → String
  | .awsTool => "aws_keys"
  | .googleTool => "google_keys"
  | .commands => "kms_inventory::cli"
  | .awsInventory => "kms_inventory::aws::inventory"
  | .awsCreation => "kms_inventory::aws::provision"
  | .googleInventory => "kms_inventory::google::inventory"
  | .googleCreation => "kms_inventory::google::provision"

abbrev Filter := List Directive

def pieces (s : String) : List String :=
  (s.splitOn ",").filter (· ≠ "")

/-- An empty text shows errors; a text with a bad directive is no filter. -/
def filter? (s : String) : Option Filter :=
  match pieces s with
  | [] => some [⟨"", none, rank .error⟩]
  | found => do
    let wanted ← found.mapM wanted?
    some (wanted.filterMap Wanted.directive?)

def carries (e : Event) (field : String) : Bool :=
  field == "message" || e.details.any (·.1 = field)

def Directive.fits (d : Directive) (e : Event) : Bool :=
  d.origin.toList.isPrefixOf (originName e.origin).toList && d.field.all (carries e)

def Directive.yields (b d : Directive) : Bool :=
  if b.origin.length = d.origin.length then
    match b.field, d.field with
    | none, _ => true
    | some _, none => false
    | some f, some g => f ≤ g
  else b.origin.length < d.origin.length

def decide? (e : Event) (best : Option Directive) (d : Directive) : Option Directive :=
  if !d.fits e then best
  else
    match best with
    | none => some d
    | some b => if b.yields d then some d else some b

def Filter.shows (filter : Filter) (e : Event) : Bool :=
  match filter.foldl (decide? e) none with
  | none => false
  | some d => rank e.level ≤ d.threshold

/-- The filter in force: `wanted` wins over the flag that asks for more. -/
def filterFor (wanted : Option String) (verbose : Bool) : Filter :=
  match wanted.bind filter? with
  | some filter => filter
  | none => [⟨"", none, if verbose then rank .debug else rank .info⟩]

end KeyCustody.CommandLine

import KeyCustody.Plan
import KeyCustody.Session

namespace KeyCustody

variable {σ α : Type}

def createMore (create : Nat → Run σ α) (delay : Nat) : Nat → Nat → Run σ (List α)
  | 0, _ => pure []
  | count + 1, index => do
    Run.wait delay
    let key ← create index
    let keys ← createMore create delay count (index + 1)
    pure (key :: keys)

/-- The keys of a plan; there is no pause before the first. -/
def createPlanned (create : Nat → Run σ α) (plan : Plan) : Run σ (List α) :=
  match plan.size with
  | 0 => pure []
  | count + 1 => do
    let key ← create plan.start.toNat
    let keys ← createMore create plan.delay.toNat count (plan.start.toNat + 1)
    pure (key :: keys)

def provision (create : Nat → Run σ α) (plan : Plan) : Run σ (List α) := do
  let keys ← createPlanned create plan
  Run.print "DONE\n"
  pure keys

end KeyCustody

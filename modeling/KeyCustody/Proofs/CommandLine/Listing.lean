import KeyCustody.CommandLine.Perform
import KeyCustody.Proofs.Printed
import KeyCustody.Proofs.Provisioning
import KeyCustody.Proofs.Silence

namespace KeyCustody.CommandLine

open Json

section Jobs
variable {σ α : Type}

theorem run_announce (tool : Tool) (message : String) (details : List (String × Detail))
    (s : Session σ) : ∃ events, (announce tool message details).run s =
      (.ok (), s.noting events) :=
  ⟨_, rfl⟩

theorem run_during (context : String) (x : Run σ α) (s : Session σ) :
    (during context x).run s =
      match x.run s with
      | (.ok a, s') => (.ok a, s')
      | (.error failure, s') => (.error ⟨context, failure⟩, s') := by
  change (match x.run s with
    | (result, s') => (Except.mapError (fun failure => (⟨context, failure⟩ : Report)) result, s')) = _
  rcases x.run s with ⟨result, s'⟩
  cases result <;> rfl

end Jobs

section Outcomes
variable {σ α : Type}

structure AllOrNothing (values : Except Failure (List Value)) (outcome : Outcome) : Prop where
  all : ∀ vs, values = .ok vs →
    outcome.exitCode = 0 ∧ outcome.stdout = Text.encode ((Value.array vs).pretty ++ "\n")
  nothing : ∀ failure, values = .error failure → outcome.exitCode ≠ 0 ∧ outcome.stdout = []

def listing (tool : Tool) (message : String) (details : List (String × Detail)) (context : String)
    (inventory : Run σ (List α)) (value : α → Value) : Job σ Unit := do
  announce tool message details
  let records ← during context inventory
  printInventory (records.map value)

theorem allOrNothing_of_listing {tool : Tool} {message : String}
    {details : List (String × Detail)} {context : String} {inventory : Run σ (List α)}
    {value : α → Value} (silent : Silent inventory) (order : Order) {p : Provider σ}
    (job : order.request.perform p = listing tool message details context inventory value)
    (environment : Environment) {s : Session σ} (unbounded : s.sink.room = none)
    (fresh : s.sink.octets = []) :
    AllOrNothing ((inventory.run s).1.map (List.map value)) (order.perform p environment s) := by
  obtain ⟨events, announced⟩ := run_announce tool message details s
  have alike : Session.Alike s (s.noting events) := ⟨rfl, rfl⟩
  have same := silent.result alike
  have kept : ((inventory.run (s.noting events)).2).sink = s.sink := silent.sink _
  unfold Order.perform
  rw [job, listing, run_bind, announced]
  simp only
  rw [run_bind, run_during, same]
  rcases ran : inventory.run (s.noting events) with ⟨result, t⟩
  rw [ran] at kept
  have stillOpen : t.sink.room = none := (congrArg Sink.room kept).trans unbounded
  have stillFresh : t.sink.octets = [] := (congrArg Sink.octets kept).trans fresh
  cases result with
  | error failure =>
    refine ⟨?_, fun _ _ => ⟨(by decide : (1 : UInt8) ≠ 0), stillFresh⟩⟩
    intro vs given
    cases given
  | ok records =>
    have printed := run_print ((Value.array (records.map value)).pretty ++ "\n") t stillOpen
    simp only [printInventory]
    rw [run_during, Run.printValues, printed]
    constructor
    · intro vs given
      cases given
      refine ⟨rfl, ?_⟩
      simp only [Session.printing]
      rw [Sink.octets_put, stillOpen, Option.getD_none, List.take_length, stillFresh,
        List.nil_append]
    · intro failure given
      cases given

end Outcomes

section Lists
variable {σ : Type}

theorem run_order {tool : Tool} {environment : Environment} {arguments : List String}
    {order : Order} (read : tool.read environment arguments = .order order) (p : Provider σ)
    (s : Session σ) : tool.run p environment arguments s = order.perform p environment s := by
  rw [Tool.run, read]

/-- A list command prints its whole inventory or nothing. The list that is printed is read again as
one object for each record, in their order, and the objects hold what the records show. The numbers
among it are in what aliases carry along; those that are not whole numbers of 64 bits are rounded,
so nothing is said of them here. -/
theorem list_prints (p : Provider σ) (environment : Environment) (arguments : List String)
    (s : Session σ) (unbounded : s.sink.room = none) (fresh : s.sink.octets = []) (verbose : Bool)
    (format : LogFormat) (withPoint : Bool) :
    (∀ settings, Tool.aws.read environment arguments =
        .order ⟨verbose, format, .listAws settings withPoint⟩ →
      let found := ((Aws.inventory p settings withPoint).run s).1
      let outcome := Tool.aws.run p environment arguments s
      AllOrNothing (found.map (List.map Aws.Alias.value)) outcome ∧
        ∀ aliases, found = .ok aliases → (∀ a ∈ aliases, ∀ m ∈ a.extra, m.2.IsWhole) →
          ∃ objects, decode Json.value outcome.stdout = .ok (.array objects) ∧
            List.Forall₂ (fun a object => Holds a.Shows object) aliases objects) ∧
    (∀ settings, Tool.google.read environment arguments =
        .order ⟨verbose, format, .listGoogle settings withPoint⟩ →
      let found := ((Google.inventory p settings withPoint).run s).1
      let outcome := Tool.google.run p environment arguments s
      AllOrNothing (found.map (List.map Google.KeyRecord.value)) outcome ∧
        ∀ records, found = .ok records →
          ∃ objects, decode Json.value outcome.stdout = .ok (.array objects) ∧
            List.Forall₂ (fun r object => Holds r.Shows object) records objects) := by
  constructor
  · intro settings read found outcome
    have printed : AllOrNothing (found.map (List.map Aws.Alias.value)) outcome := by
      have listed := allOrNothing_of_listing (Aws.inventory_silent p settings withPoint)
        ⟨verbose, format, .listAws settings withPoint⟩ rfl environment unbounded fresh
      rw [← run_order read p s] at listed
      exact listed
    refine ⟨printed, fun aliases done whole => ?_⟩
    rw [(printed.all _ (congrArg (Except.map (List.map Aws.Alias.value)) done)).2]
    exact Aws.Alias.decode_aliases (Aws.Alias.carries_of_inventory done) whole
  · intro settings read found outcome
    have printed : AllOrNothing (found.map (List.map Google.KeyRecord.value)) outcome := by
      have listed := allOrNothing_of_listing (Google.inventory_silent p settings withPoint)
        ⟨verbose, format, .listGoogle settings withPoint⟩ rfl environment unbounded fresh
      rw [← run_order read p s] at listed
      exact listed
    refine ⟨printed, fun records done => ?_⟩
    rw [(printed.all _ (congrArg (Except.map (List.map Google.KeyRecord.value)) done)).2]
    exact Google.KeyRecord.decode_records records

def taggedProvider : Provider Unit where
  answer c _ files :=
    let stdout :=
      if c.arguments.contains "list-keys" then "[\x7b\"KeyId\":\"k\",\"KeyArn\":\"arn\"\x7d]"
      else if c.arguments.contains "list-aliases" then
        "[\x7b\"Tag\":[-1,\x7b\x7d],\"AliasName\":\"a\\\"\\u001f\",\"TargetKeyId\":\"k\"\x7d]"
      else
        "\x7b\"KeyId\":\"arn\",\"PublicKey\":\"MFYw\",\"KeySpec\":\"ECC_SECG_P256K1\"," ++
          "\"KeyUsage\":\"SIGN_VERIFY\",\"SigningAlgorithms\":[\"ECDSA_SHA_256\"]\x7d"
    (.ok ⟨true, some 0, Text.encode stdout, []⟩, (), files)

def taggedAlias : Aws.Alias :=
  { name := "a\"\x1f", target := "k", keyArn := some "arn", publicKey := some "MFYw",
    extra := [("Tag", .array [.number (.integer (-1)), .object []])] }

def idle : Session Unit := { provider := () }

set_option maxRecDepth 4000 in
theorem inventory_taggedProvider :
    ((Aws.inventory taggedProvider {} false).run idle).1 = .ok [taggedAlias] := rfl

theorem inventory_notGoogle :
    ∃ failure, ((Google.inventory taggedProvider {} false).run idle).1 = .error failure :=
  ⟨_, rfl⟩

theorem isWhole_taggedAlias : ∀ m ∈ taggedAlias.extra, m.2.IsWhole := by
  intro m member
  obtain rfl := List.mem_singleton.mp member
  refine .array fun v inside => ?_
  simp only [List.mem_cons, List.not_mem_nil, or_false] at inside
  rcases inside with rfl | rfl
  · exact .integer (-1)
  · exact .object (List.forall_mem_nil _)

theorem list_prints_tagged :
    (let outcome := Tool.aws.run taggedProvider (fun _ => none) ["list"] idle;
      outcome.exitCode = 0 ∧
        outcome.stdout = Text.encode ((Value.array [taggedAlias.value]).pretty ++ "\n") ∧
        ∃ object, decode Json.value outcome.stdout = .ok (.array [object]) ∧
          Holds taggedAlias.Shows object) ∧
      (let outcome := Tool.google.run taggedProvider (fun _ => none) ["list"] idle;
        outcome.exitCode ≠ 0 ∧ outcome.stdout = []) := by
  obtain ⟨aws, google⟩ := list_prints taggedProvider (fun _ => none) ["list"] idle rfl rfl false
    .text false
  obtain ⟨printed, reads⟩ := aws {} rfl
  obtain ⟨unprinted, -⟩ := google {} rfl
  rw [inventory_taggedProvider] at printed
  have whole : ∀ a ∈ [taggedAlias], ∀ m ∈ a.extra, m.2.IsWhole := by
    intro a member
    obtain rfl := List.mem_singleton.mp member
    exact isWhole_taggedAlias
  obtain ⟨objects, read, listed⟩ := reads _ inventory_taggedProvider whole
  obtain ⟨failure, failed⟩ := inventory_notGoogle
  rw [failed] at unprinted
  cases listed with
  | cons shown none =>
    cases none
    exact ⟨⟨(printed.all _ rfl).1, (printed.all _ rfl).2, _, read, shown⟩,
      unprinted.nothing _ rfl⟩

end Lists
end KeyCustody.CommandLine

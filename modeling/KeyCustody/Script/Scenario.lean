import KeyCustody.Json.Record
import KeyCustody.Script

/-!
Scenarios: a script together with the directories and files that are there from the start, written
as one JSON object. A run under a scenario needs neither a cloud account nor a network.
-/
namespace KeyCustody.Script

def integer : Json.Reader Int := fun _ input =>
  match Json.dropSpace input with
  | [] => .error .endInValue
  | first :: rest =>
    if first = '-'.toUInt8 ∨ Json.isDigit first then
      match Json.takeScalar first rest with
      | .ok (.number (.integer n), rest) => .ok (n, rest)
      | .ok (found, _) => .error (.wrongType found "an integer")
      | .error fault => .error fault
    else .error (Json.mismatch "an integer" first rest)

def Rule.record : Json.Record Rule where
  title := "a rule"
  blank := { arguments := [], response := {} }
  fields :=
    [Json.required "arguments" (Json.list Json.text) fun ss r => { r with arguments := ss },
      Json.defaulted "times" integer fun n r => { r with left := some n.toNat },
      Json.defaulted "code" (Json.optional integer) fun n r =>
        { r with response := { r.response with code := n } },
      Json.defaulted "stdout" Json.text fun s r =>
        { r with response := { r.response with stdout := Text.encode s } },
      Json.defaulted "stderr" Json.text fun s r =>
        { r with response := { r.response with stderr := Text.encode s } },
      Json.defaulted "output" Json.text fun s r =>
        { r with response := { r.response with content := some (Text.encode s) } },
      Json.defaulted "obstacle" Json.text fun s r =>
        { r with response := { r.response with obstacle := some s } }]

structure Scenario where
  rules : List Rule := []
  directories : List String := []
  files : List (String × String) := []

def fileRecord : Json.Record (String × String) where
  title := "a file"
  blank := ("", "")
  fields :=
    [Json.required "path" Json.text fun s file => (s, file.2),
      Json.required "text" Json.text fun s file => (file.1, s)]

def Scenario.record : Json.Record Scenario where
  title := "a scenario"
  blank := {}
  fields :=
    [Json.defaulted "rules" (Json.list Rule.record.reader) fun rs s => { s with rules := rs },
      Json.defaulted "directories" (Json.list Json.text) fun ds s => { s with directories := ds },
      Json.defaulted "files" (Json.list fileRecord.reader) fun fs s => { s with files := fs }]

def Scenario.tree (s : Scenario) : Files :=
  let start := s.directories.foldl Files.makeDirectories Files.empty
  s.files.foldl (fun fs file => fs.place file.1 (Text.encode file.2)) start

def Scenario.session (s : Scenario) : Session (List Rule) where
  provider := s.rules.map fun rule => { rule with response := rule.response.asProcess }
  files := s.tree

end KeyCustody.Script

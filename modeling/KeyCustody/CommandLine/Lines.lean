import KeyCustody.CommandLine.Request
import KeyCustody.CommandLine.Verbosity
import KeyCustody.Json.Layout

namespace KeyCustody.CommandLine

def Detail.value : Detail → Json.Value
  | .text s => .text s
  | .count n => .number (.integer n)

def Detail.show : Detail → String
  | .text s => s
  | .count n => toString n

def eventValue (e : Event) : Json.Value :=
  .object
    [("level", .text (levelName e.level)),
      ("fields",
        .object (("message", .text e.message) ::
          e.details.map fun (name, detail) => (name, Detail.value detail)))]

def eventText (e : Event) : String :=
  levelName e.level ++ " " ++ e.message ++
    String.join (e.details.map fun (name, detail) => " " ++ name ++ "=" ++ Detail.show detail)

def eventLine : LogFormat → Event → String
  | .json, e => (eventValue e).compact
  | .text, e => eventText e

end KeyCustody.CommandLine

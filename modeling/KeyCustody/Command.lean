import KeyCustody.Text.Blank
import KeyCustody.Text.Quoted

namespace KeyCustody

structure Command where
  program : String
  arguments : List String
  deriving DecidableEq, Repr

namespace Command

def showArgument (argument : String) : String :=
  if argument.toList.any Text.isBlank then Text.quote argument else argument

def display (c : Command) : String :=
  c.program ++ String.join (c.arguments.map fun argument => " " ++ showArgument argument)

def flagValue? (flag : String) : List String → Option String
  | [] => none
  | argument :: rest => if argument = flag then rest.head? else flagValue? flag rest

def value? (c : Command) (flag : String) : Option String :=
  flagValue? flag c.arguments

end Command

end KeyCustody

import BeanDoc.Settings.CommandArguments
import BeanDoc.Settings.ConfigurationFile
import BeanDoc.Settings.Environment
import BeanDoc.Settings.Layer

/-! The settings of an invocation: a configuration file, then the environment, then the arguments.
-/

namespace BeanDoc

structure Invocation where
  arguments : List String
  environment : List (String × String)

inductive LoadFault where
  | arguments (fault : ArgumentFault)
  | file (fault : ConfigurationFile.Fault)
  | supplied (fault : SourceFault)
  | layers (fault : LayerFault)

def LoadFault.message : LoadFault → String
  | arguments f => "Failed to parse command-line arguments: " ++ f.message
  | file f => f.message
  | supplied f => f.message
  | layers f => f.message

namespace Invocation

/-- The value of a variable; of several with one name the last counts. -/
def variableText? (i : Invocation) (name : String) : Option String :=
  i.environment.reverse.lookup name

def configurationPaths (i : Invocation) : List String :=
  ConfigurationFile.candidates i.variableText?

end Invocation

/-- The settings that an invocation asks for. Arguments count most, and what they set is not looked
at elsewhere. -/
def Settings.load (t : Files) (i : Invocation) : Except LoadFault Settings := do
  let arguments ← (CommandArguments.parse i.arguments).mapError .arguments
  let file ← (ConfigurationFile.load t arguments.configPath? i.configurationPaths).mapError .file
  let supplied := Supplied.ofSource .file file ++
    Supplied.ofSource .environment (Environment.supplied i.environment)
  let values ← (supplied.toJson arguments.isGiven).mapError .supplied
  (ofLayers [⟨.file, values⟩, ⟨.arguments, arguments.toJson⟩]).mapError .layers

end BeanDoc

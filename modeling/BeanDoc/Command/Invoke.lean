import BeanDoc.Command.Dispatch
import BeanDoc.Settings.Load

/-! A whole invocation of the tool: what it prints, and its exit code. -/

namespace BeanDoc

structure Response where
  code : Nat
  output : String
  errorOutput : String
  files : Files

def Event.printLines (events : List Event) : String :=
  String.join (events.map fun e => e.line ++ "\n")

namespace Response

def ofLoadFault (f : LoadFault) (t : Files) : Response :=
  ⟨1, "", "configuration error: " ++ f.message ++ "\n", t⟩

def ofPerformed {α : Type} (p : Performed α) : Response :=
  let events := Event.printLines p.events
  match p.result with
  | .ok _ => ⟨0, p.output, events, p.files⟩
  | .error f => ⟨1, p.output, events ++ f.message ++ "\n", p.files⟩

end Response

def invoke (t : Files) (i : Invocation) : Response :=
  match Settings.load t i with
  | .error f => .ofLoadFault f t
  | .ok s => .ofPerformed (perform s t)

end BeanDoc

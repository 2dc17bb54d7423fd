import BeanDoc.Command.Generate
import BeanDoc.Command.Templates

/-! The command that settings ask for. -/

namespace BeanDoc

inductive Done where
  | migrated
  | saved
  | generated (report : Report)
  | shown

def perform (s : Settings) (t : Files) : Performed Done :=
  match s.mode with
  | .migrateDatabase => (migrateCommand s t).map fun _ => .migrated
  | .saveTemplates => (saveCommand s t).map fun _ => .saved
  | .generate => (generateCommand s t).map .generated
  | .showTemplates => (showCommand s t).map fun _ => .shown

end BeanDoc

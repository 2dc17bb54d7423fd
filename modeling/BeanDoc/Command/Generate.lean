import BeanDoc.Command.OpenStore
import BeanDoc.Run

/-! Generation of comments for a class file. -/

namespace BeanDoc

namespace Report

def headline (r : Report) : String :=
  let name := r.className.getD "(no class)"
  match r.status with
  | .noClass => "No class to document."
  | .noCandidates => name ++ ": nothing to document."
  | .cancelled => name ++ ": cancelled."
  | .completed =>
    let n := r.counts
    name ++ ": " ++ toString n.inserted ++ " inserted, " ++ toString n.replaced ++ " replaced, " ++
      toString n.skipped ++ " skipped, " ++ toString n.failed ++ " failed"

def faultMessages (r : Report) : List String :=
  r.outcome.failures.map (·.fault.message) ++ r.rejections.map (·.fault.message)

def summary (r : Report) : String :=
  String.join ((r.headline :: r.faultMessages.map ("  error: " ++ ·)).map (· ++ "\n"))

end Report

def Edit.printLines (edits : List Edit) : String :=
  String.join (edits.map fun e => e.toJson.render ++ "\n")

namespace Settings

def selector (s : Settings) : Selector :=
  match s.methodNames with
  | some names => .named names s.overwrite
  | none => .all s.overwrite

structure RunPlan where
  classFile : String
  category : Accessor.Category
  templates : Templates

/-- Settles what a run needs. A missing class file is found first, then a wrong category, then a
blank URL. -/
def plan (s : Settings) (t : Files) : Except CommandFault RunPlan :=
  match s.requireClassFile with
  | .error f => .error (.settings (.noClassFile f))
  | .ok classFile =>
    match s.accessorCategory with
    | .error f => .error (.settings (.category f))
    | .ok category =>
      match configuredTemplates s.databaseUrl t with
      | .error f => .error f
      | .ok configs =>
        .ok ⟨classFile, category, templateOf configs .getter, templateOf configs .setter⟩

end Settings

def finishRun (s : Settings) (t : Files) (documented : ClassModel) (report : Report) :
    Performed Report :=
  let events := report.event.toList
  if s.dryRun then
    { result := .ok report, files := t, output := Edit.printLines report.outcome.edits, events }
  else if report.applied = 0 then
    -- a class that has taken no edit is not written
    { result := .ok report, files := t, output := report.summary, events }
  else
    match s.outputPath with
    | .error f => { result := .error (.settings (.noClassFile f)), files := t, events }
    | .ok path =>
      match documented.write t path with
      | .error f => { result := .error (.classFile f), files := t, events }
      | .ok t => { result := .ok report, files := t, output := report.summary, events }

def generateCommand (s : Settings) (t : Files) : Performed Report :=
  match s.plan t with
  | .error f => .fail f t
  | .ok plan =>
    let t := t.openDatabase s.databaseUrl
    match ClassModel.read t plan.classFile with
    | .error f => .fail (.classFile f) t
    | .ok c =>
      let (documented, report) :=
        run plan.category s.selector plan.templates (s.projectNameIn t.current) c
      finishRun s t documented report

end BeanDoc

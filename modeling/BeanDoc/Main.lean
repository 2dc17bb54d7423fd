import BeanDoc.Command.Invoke
import BeanDoc.Files.DatabaseFile

/-! The command line. The files that an invocation may touch are read first and written last; all
that happens in between is `invoke`. -/

namespace BeanDoc.CommandLine

def variableNames : List String :=
  ["HOME", "XDG_CONFIG_HOME", "XDG_CONFIG_DIRS"] ++
    ("config_path" :: Supplied.keys.map (·.1)).map fun key =>
      Environment.lead ++ key.map Char.toUpper

def readEnvironment : IO (List (String × String)) :=
  variableNames.filterMapM fun name => do
    return (← IO.getEnv name).map fun value => (name, value)

def readNode (place : List String) : IO (Option (FileNode FileContent)) := do
  let path := (← IO.currentDir) / ("/" ++ String.intercalate "/" place)
  if ← path.isDir then return some .directory
  else if ← path.pathExists then
    try
      return some (.file (.ofText (← IO.FS.readFile path)))
    catch _ => return some (.file .binary)
  else return none

def loadAlong (t : Files) : (done rest : List String) → IO Files
  | _, [] => return t
  | done, c :: cs => do
    let next := done ++ [c]
    match ← readNode next with
    | some n => loadAlong (t.put next n) next cs
    | none => return t

/-- The place of a path. Two dots are a step back in the path itself. -/
def placeOf (current : List String) (path : String) : List String :=
  (Path.components path).foldl
    (fun place c => if c = ".." then place.dropLast else place ++ [c])
    (if Path.isAbsolute path then [] else current)

def loadPath (t : Files) (path : String) : IO Files :=
  loadAlong t [] (placeOf t.current path)

/-- Adds a configuration file and the files that it extends, up to some number. -/
def loadConfiguration (t : Files) : (count : Nat) → (path : String) → IO Files
  | 0, _ => return t
  | count + 1, path => do
    let t ← loadPath t path
    match (ConfigurationFile.members? t path).bind (ConfigurationFile.base? path) with
    | some (some base) => loadConfiguration t count base
    | _ => return t

def pathsOf (s : Settings) : List String :=
  let database := s.databaseUrl.bind fun url =>
    match DatabaseAddress.parse url with
    | .ok a => a.file?
    | .error _ => none
  [s.classFile, s.outputFile, s.getterTemplateFile, s.setterTemplateFile, database].filterMap id

def store (before after : Files) : IO Unit :=
  after.nodes.forM fun (place, n) => do
    match n, before.node? place with
    | .file new, some (.file old) => if new ≠ old then write place new
    | .file new, _ => write place new
    | .directory, _ => return
where
  write (place : List String) (content : FileContent) : IO Unit := do
    if let some s := content.print? then
      IO.FS.writeFile ((← IO.currentDir) / ("/" ++ String.intercalate "/" place)) s

def start (arguments : List String) : IO UInt32 := do
  let i : Invocation := ⟨arguments, ← readEnvironment⟩
  let current := Path.components (← IO.currentDir).toString
  let t ← loadAlong ⟨[], current⟩ [] current
  let named := match CommandArguments.parse arguments with
    | .ok a => a.configPath?.toList
    | .error _ => []
  let t ← (named ++ i.configurationPaths).foldlM (fun t path => loadConfiguration t 64 path) t
  let t ←
    match Settings.load t i with
    | .ok s => (pathsOf s).foldlM loadPath t
    | .error _ => pure t
  let r := invoke t i
  store t r.files
  (← IO.getStdout).putStr r.output
  (← IO.getStderr).putStr r.errorOutput
  return UInt32.ofNat r.code

end BeanDoc.CommandLine

def main (arguments : List String) : IO UInt32 :=
  BeanDoc.CommandLine.start arguments

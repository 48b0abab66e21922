import SessionHost.Command.Program

/-!
Which files a run of the program may look at.

The program is a function on a machine, so the machine has to be gathered before it runs. What it
looks at may depend on what stands in other files; `needs` says what a run looks at as far as the
files gathered so far tell, and gathering is done when it asks for nothing new.
-/

namespace SessionHost.Command

/-- Something that a run looks at. -/
inductive Need where
  /-- What stands at a path. -/
  | node (path : Path)
  /-- What stands at a path and, if that is a directory, what stands directly in it. -/
  | listing (path : Path)
deriving DecidableEq, Repr

/-- The need of a path, if there is one. -/
def needOf {ε : Type} (path : Except ε Path) : List Need :=
  match path with
  | .ok path => [.node path]
  | .error _ => []

/-- What finding the configuration looks at. -/
def configNeeds (machine : Machine) : List Need :=
  needOf (Config.pointerPath machine.environment) ++ needOf (Config.path machine)

/-- What starting the log looks at. -/
def logNeeds (machine : Machine) (config : Config) : List Need :=
  needOf ((Console.logDirectory machine.environment
    (config.logDirectory machine.environment).toOption).map (·.child Console.logFileName))

/-- What opening a profile looks at. -/
def profileNeeds (machine : Machine) (config : Config) (path : Path) : List Need :=
  let env := machine.environment
  let id := config.applicationId
  let inside : List Need :=
    match Engine.Profile.load machine.files path with
    | .error _ => []
    | .ok profile =>
        let root := Engine.Profile.pluginRoot profile.pluginDir path
        let plugins : List Need :=
          if profile.plugins.isEmpty then [.listing root]
          else profile.plugins.map fun name => .node (Engine.PluginEntry.named root name).path
        let records : List Need :=
          match config.recordsDirectory env id with
          | .ok dir => [.listing (dir.child profile.title)]
          | .error _ => []
        plugins ++ records
  .node path ::
    needOf ((config.settingsDirectory env id).map (·.child Engine.Settings.fileName)) ++ inside

/-- What a run looks at. -/
def needs (task : Task) (machine : Machine) : List Need :=
  let config := (startingConfig machine).1
  configNeeds machine ++ logNeeds machine config ++
    match task with
    | .config _ => []
    | .openProfile path => profileNeeds machine config path

/-- The places that a path passes through, the last of which is where it leads. -/
def placesOf (cwd : Location) (path : Path) : List Location :=
  let start := if path.isAbsolute then [] else cwd
  (path.segments.foldl
    (fun (places, here) segment =>
      let next : Location :=
        if Path.isIdle segment then here
        else if segment = [Path.dot, Path.dot] then here.dropLast
        else here ++ [segment]
      (places ++ [next], next))
    ([start], start)).1

end SessionHost.Command

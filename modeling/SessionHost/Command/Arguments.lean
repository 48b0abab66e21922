import SessionHost.Command.Configure

/-!
The command line.

    stagehand [-q] [-v]... PROFILE
    stagehand config [-q] [-v]... [show | get KEY | set KEY VALUE | path [NEW_PATH]]

Words are read from left to right, and the first one that settles the matter does so: a request
for help or for the version, or a word that may not stand where it stands.
-/

namespace SessionHost.Command

/-- How much is printed: the flags as they were given. -/
structure Options where
  quiet : Bool
  verbose : UInt8
deriving DecidableEq, Repr

/-- The verbosity that the flags come to: quiet wins. -/
def Options.verbosity (options : Options) : UInt8 := if options.quiet then 0 else options.verbose

/-- What is to be done. -/
inductive Task where
  | openProfile (profile : Path)
  | config (action : ConfigAction)
deriving DecidableEq, Repr

/-- What a command line asks for. -/
inductive Request where
  | usageError
  | help
  | version
  | run (options : Options) (task : Task)
deriving DecidableEq, Repr

/-! ### Words -/

/-- The flags given at one level of the command line. -/
structure Flags where
  quiet : Bool
  verbose : Nat
deriving DecidableEq, Repr

/-- The flags that can be given. -/
inductive Flag where
  | quiet
  | verbose
  | help
  | version
deriving DecidableEq, Repr

/-- A word of the command line. -/
inductive Word where
  /-- Flags of one letter behind one dash, or one flag by its name behind two. -/
  | flags (flags : List (Option Flag))
  /-- Two dashes, after which no word is a flag. -/
  | separator
  | plain (bytes : Bytes)
deriving DecidableEq, Repr

def dash : UInt8 := 0x2D

/-- The flag of a letter. -/
def Flag.ofLetter? (letter : UInt8) : Option Flag :=
  if letter = 0x71 then some quiet
  else if letter = 0x76 then some verbose
  else if letter = 0x68 then some help
  else if letter = 0x56 then some version
  else none

/-- The flag of a name. -/
def Flag.ofName? (name : Bytes) : Option Flag :=
  if name = Text.encode "quiet" then some quiet
  else if name = Text.encode "verbose" then some verbose
  else if name = Text.encode "help" then some help
  else if name = Text.encode "version" then some version
  else none

/-- A word as it is written. A dash alone is no flag. -/
def Word.ofBytes (bytes : Bytes) : Word :=
  match bytes with
  | a :: b :: rest =>
      if a = dash then
        if b = dash then if rest.isEmpty then separator else flags [Flag.ofName? rest]
        else flags ((b :: rest).map Flag.ofLetter?)
      else plain bytes
  | _ => plain bytes

/-! ### Levels -/

/-- How far one level of the command line was read: its flags, and its plain words so far. -/
structure Level where
  flags : Flags
  words : List Bytes
deriving DecidableEq, Repr

namespace Level

/-- Nothing read. -/
def fresh : Level := ⟨⟨false, 0⟩, []⟩

/-- One flag more, or what it settles. The quiet flag may be given once, and the version is only
told where `atTop`. -/
def addFlag (atTop : Bool) (level : Level) : Option Flag → Except Request Level
  | some .quiet =>
      if level.flags.quiet then .error .usageError
      else .ok { level with flags := { level.flags with quiet := true } }
  | some .verbose =>
      .ok { level with flags := { level.flags with verbose := level.flags.verbose + 1 } }
  | some .help => .error .help
  | some .version => if atTop then .error .version else .error .usageError
  | none => .error .usageError

/-- The flags of one word. -/
def addFlags (atTop : Bool) (level : Level) (flags : List (Option Flag)) : Except Request Level :=
  flags.foldlM (addFlag atTop) level

/-- One plain word more, if there is room for it. -/
def addWord (room : Nat) (accepts : Bytes → Bool) (level : Level) (word : Bytes) :
    Except Request Level :=
  if level.words.length < room && accepts word then
    .ok { level with words := level.words ++ [word] }
  else .error .usageError

/-- Reads a level that takes at most `room` plain words, each of which it accepts. -/
def read (atTop : Bool) (room : Nat) (accepts : Bytes → Bool) :
    Level → List Bytes → Except Request Level
  | level, [] => .ok level
  | level, bytes :: rest =>
      match Word.ofBytes bytes with
      | .separator => rest.foldlM (addWord room accepts) level
      | .flags flags => do read atTop room accepts (← level.addFlags atTop flags) rest
      | .plain word => do read atTop room accepts (← level.addWord room accepts word) rest

end Level

/-- The options that flags come to, those of the innermost level first. A flag that a level does
not give is taken from the next. -/
def optionsOf (levels : List Flags) : Options where
  quiet := levels.any Flags.quiet
  verbose :=
    match levels.find? (0 < ·.verbose) with
    | some flags => (min flags.verbose 255).toUInt8
    | none => 0

/-! ### Commands -/

/-- The commands of the configuration. -/
inductive ConfigCommand where
  | show
  | get
  | set
  | path
deriving DecidableEq, Repr

/-- The command of a name. -/
def ConfigCommand.ofName? (name : Bytes) : Option ConfigCommand :=
  if name = Text.encode "show" then some .show
  else if name = Text.encode "get" then some .get
  else if name = Text.encode "set" then some .set
  else if name = Text.encode "path" then some .path
  else none

/-- How many plain words a command takes at most. -/
def ConfigCommand.room : ConfigCommand → Nat
  | .show => 0
  | .get => 1
  | .set => 2
  | .path => 1

/-- Whether a command accepts a plain word: keys and values are texts, and a path is not empty. -/
def ConfigCommand.accepts : ConfigCommand → Bytes → Bool
  | .path, word => !word.isEmpty
  | _, word => (Text.decode? word).isSome

/-- What a command with its plain words comes to, if none is missing. -/
def ConfigCommand.action? : ConfigCommand → List Bytes → Option ConfigAction
  | .show, _ => some .show
  | .get, [key] => some (.get (Text.lossy key))
  | .set, [key, value] => some (.set (Text.lossy key) (Text.lossy value))
  | .path, [] => some .path
  | .path, [target] => some (.setPath ⟨target⟩)
  | _, _ => none

def helpName : Bytes := Text.encode "help"

def configName : Bytes := Text.encode "config"

/-- Whether help can be asked for on the commands named. -/
def isHelpTopic : List Bytes → Bool
  | [] => true
  | [name] => name = helpName || name = configName
  | [name, inner] =>
      name = configName && (inner = helpName || (ConfigCommand.ofName? inner).isSome)
  | _ => false

/-- Help on the commands named, where `above` are those that were entered before. -/
def requestHelp (above names : List Bytes) : Request :=
  if isHelpTopic (above ++ names) then .help else .usageError

/-- The words after the name of a configuration command. -/
def readConfigCommand (outer : Flags) (command : ConfigCommand) (words : List Bytes) : Request :=
  match Level.read false command.room command.accepts .fresh words with
  | .error request => request
  | .ok level =>
      match command.action? level.words with
      | some action => .run (optionsOf [level.flags, outer]) (.config action)
      | none => .usageError

/-- The words after `config`, with the flags among them so far. -/
def readConfig (level : Level) : List Bytes → Request
  | [] => .run (optionsOf [level.flags]) (.config .show)
  | bytes :: rest =>
      match Word.ofBytes bytes with
      | .separator =>
          if rest.isEmpty then .run (optionsOf [level.flags]) (.config .show) else .usageError
      | .flags flags =>
          match level.addFlags false flags with
          | .error request => request
          | .ok level => readConfig level rest
      | .plain word =>
          if word = helpName then requestHelp [configName] rest
          else
            match ConfigCommand.ofName? word with
            | some command => readConfigCommand level.flags command rest
            | none => .usageError

/-- A command line without a command: flags and one profile. -/
def readOpen (words : List Bytes) : Request :=
  match Level.read true 1 (fun word => !word.isEmpty) .fresh words with
  | .error request => request
  | .ok level =>
      match level.words with
      | [profile] => .run (optionsOf [level.flags]) (.openProfile ⟨profile⟩)
      | _ => .usageError

/-- What a command line asks for. A command has to be its first word. -/
def readArguments (words : List Bytes) : Request :=
  match words with
  | first :: rest =>
      if first = configName then readConfig .fresh rest
      else if first = helpName then requestHelp [] rest
      else readOpen words
  | [] => readOpen words

end SessionHost.Command

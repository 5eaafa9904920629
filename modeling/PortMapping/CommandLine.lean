import PortMapping.Configuration.Basic

/-!
# The command line

Arguments are read from left to right.  Help and version act as soon as they are
met; an option may be given once, and its value attached or next.
-/

namespace PortMapping

/-- The name of the program. -/
def programName : String := "natpmpd"

/-- The version of the program. -/
def programVersion : String := "0.3.0"

/-- Where the configuration is unless told otherwise. -/
def defaultConfigurationFile : String := "/etc/natpmpd.toml"

/-- The options of a run. -/
structure CommandLine where
  file : Option String := none
  /-- Only check the configuration. -/
  checkOnly : Bool := false
  /-- Log at debug level. -/
  verbose : Bool := false
  deriving DecidableEq, Repr

/-- What the arguments ask for. -/
inductive Invocation where
  | run (options : CommandLine)
  | help
  | version
  | usageError
  deriving DecidableEq, Repr

namespace CommandLine

/-- The text that explains the options. -/
def helpText : String :=
  "NAT-PMP port mapping daemon\n\nUsage: natpmpd [OPTIONS]\n\nOptions:\n" ++
  "  -f, --file <FILE>  Configuration file [default: /etc/natpmpd.toml]\n" ++
  "  -n, --no-action    Only check the configuration\n" ++
  "  -v, --verbose      Log at debug level\n" ++
  "  -h, --help         Print help\n" ++
  "  -V, --version      Print version\n"

/-- The text that names the version. -/
def versionText : String := programName ++ " " ++ programVersion ++ "\n"

/-- The configuration file of a run. -/
def configurationFile (options : CommandLine) : String :=
  options.file.getD defaultConfigurationFile

/-- Take a file that may be given once and not empty. -/
def giveFile (options : CommandLine) (file : List Char) : Option CommandLine :=
  if file.isEmpty || options.file.isSome then none
  else some { options with file := some (String.ofList file) }

/-- Ask for checking only, once. -/
def giveCheckOnly (options : CommandLine) : Option CommandLine :=
  if options.checkOnly then none else some { options with checkOnly := true }

/-- Ask for debug level, once. -/
def giveVerbose (options : CommandLine) : Option CommandLine :=
  if options.verbose then none else some { options with verbose := true }

/-- What reading one argument came to. -/
inductive Progress where
  | continued (options : CommandLine)
  /-- The next argument is the file. -/
  | fileFollows (options : CommandLine)
  | decided (invocation : Invocation)

namespace Progress

/-- Continue with options unless giving them was an error. -/
def ofOption : Option CommandLine → Progress
  | some options => .continued options
  | none => .decided .usageError

end Progress

/-- Read a group of short options after its dash. -/
def readShort (options : CommandLine) : List Char → Progress
  | [] => .continued options
  | 'f' :: [] => .fileFollows options
  | 'f' :: '=' :: file => .ofOption (options.giveFile file)
  | 'f' :: file => .ofOption (options.giveFile file)
  | 'n' :: rest =>
      match options.giveCheckOnly with
      | some options => readShort options rest
      | none => .decided .usageError
  | 'v' :: rest =>
      match options.giveVerbose with
      | some options => readShort options rest
      | none => .decided .usageError
  | 'h' :: _ => .decided .help
  | 'V' :: _ => .decided .version
  | _ => .decided .usageError

/-- The value after an equals sign, when a long option is given with one. -/
def attached? (option : String) (argument : List Char) : Option (List Char) :=
  let opening := option.toList ++ ['=']
  if opening.isPrefixOf argument then some (argument.drop opening.length) else none

/-- Read a long option with its two dashes. -/
def readLong (options : CommandLine) (argument : List Char) : Progress :=
  if argument = "--file".toList then .fileFollows options
  else if argument = "--no-action".toList then .ofOption options.giveCheckOnly
  else if argument = "--verbose".toList then .ofOption options.giveVerbose
  else if argument = "--help".toList then .decided .help
  else if argument = "--version".toList then .decided .version
  else
    match attached? "--file" argument with
    | some file => .ofOption (options.giveFile file)
    | none => .decided .usageError

/-- Read one argument. -/
def readArgument (options : CommandLine) : List Char → Progress
  | '-' :: '-' :: name => readLong options ('-' :: '-' :: name)
  | '-' :: letter :: letters => readShort options (letter :: letters)
  | _ => .decided .usageError

/-- Whether an argument can be the value of the option before it. -/
def canBeValue : List Char → Bool
  | ['-'] => true
  | '-' :: _ => false
  | _ => true

/-- Read arguments.  After two dashes alone nothing may follow. -/
def readAll (options : CommandLine) : List String → Invocation
  | [] => .run options
  | argument :: later =>
      if argument = "--" then
        if later.isEmpty then .run options else .usageError
      else
        match readArgument options argument.toList, later with
        | .decided invocation, _ => invocation
        | .continued options, later => readAll options later
        | .fileFollows _, [] => .usageError
        | .fileFollows options, value :: later =>
            if canBeValue value.toList then
              match options.giveFile value.toList with
              | some options => readAll options later
              | none => .usageError
            else .usageError

/-- What arguments ask for. -/
def parse (arguments : List String) : Invocation := readAll {} arguments

end CommandLine

end PortMapping

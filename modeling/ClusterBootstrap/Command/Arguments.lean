import ClusterBootstrap.Decimal.Digits

/-!
# Command-line arguments

Arguments are read from left to right.  An option that needs a value takes the next argument, unless
that one looks like an option itself; its value is checked only when the next option, the next
positional argument or the end of the line is reached.  Every option but the role may be given once.
-/

namespace ClusterBootstrap

/-- What a command line asks for. -/
structure Arguments where
  endpoint : Option String := none
  /-- The roles, in order; none at all leaves them to the settings. -/
  roles : List String := []
  /-- The name of the configuration file. -/
  config : Option String := none
  probeTimeout : Option UInt64 := none
  requestTimeout : Option UInt64 := none
  /-- Whether the endpoint's own uri must be among the servers. -/
  strictSelf : Bool := false
  /-- Whether progress is logged. -/
  verbose : Bool := false
  deriving DecidableEq, Repr

/-- Why a command line is not carried out. -/
inductive Interruption where
  /-- The help text is asked for. -/
  | help
  /-- The version is asked for. -/
  | version
  | unknownArgument
  /-- An option lacks a value, or has an empty one where that means nothing. -/
  | missingValue
  /-- A value is no number. -/
  | invalidValue
  /-- An option is given more than once. -/
  | repeatedOption
  /-- A value is attached to an option that takes none. -/
  | unexpectedValue
  deriving DecidableEq, Repr

namespace Arguments

/-! ## Options -/

/-- The options. -/
inductive Opt where
  | role
  | config
  | probeTimeout
  | requestTimeout
  | strictSelf
  | verbose
  | help
  | version
  deriving DecidableEq, Repr

namespace Opt

/-- The long name of an option. -/
def long : Opt → String
  | role => "role"
  | config => "config"
  | probeTimeout => "probe-timeout"
  | requestTimeout => "request-timeout"
  | strictSelf => "strict-self"
  | verbose => "verbose"
  | help => "help"
  | version => "version"

/-- The letter of an option, if it has one. -/
def short : Opt → Option Char
  | role => some 'r'
  | config => some 'c'
  | verbose => some 'v'
  | help => some 'h'
  | version => some 'V'
  | _ => none

/-- Every option. -/
def all : List Opt :=
  [role, config, probeTimeout, requestTimeout, strictSelf, verbose, help, version]

/-- The option of a long name. -/
def ofLong? (name : String) : Option Opt := all.find? fun opt => opt.long = name

/-- The option of a letter. -/
def ofShort? (letter : Char) : Option Opt := all.find? fun opt => opt.short = some letter

/-- Whether an option needs a value. -/
def takesValue : Opt → Bool
  | role | config | probeTimeout | requestTimeout => true
  | _ => false

end Opt

/-! ## Setting options -/

/-- Reads an unsigned 64-bit number, which may have a plus sign. -/
def seconds? (text : String) : Option UInt64 :=
  let digits := match text.toList with
    | '+' :: digits => digits
    | digits => digits
  ((Decimal.natural? digits).filter (· < Decimal.wordCount)).map Nat.toUInt64

/-- A number of seconds for an option that is not set yet. -/
def secondsOnce (old : Option UInt64) (text : String) : Except Interruption UInt64 :=
  if old.isSome then .error .repeatedOption
  else
    match seconds? text with
    | some n => .ok n
    | none => .error .invalidValue

/-- Sets an option to a value. -/
def setValue (args : Arguments) (opt : Opt) (value : String) : Except Interruption Arguments :=
  match opt with
  | .role => .ok { args with roles := args.roles ++ [value] }
  | .config =>
    if args.config.isSome then .error .repeatedOption
    else if value.isEmpty then .error .missingValue
    else .ok { args with config := some value }
  | .probeTimeout => do
    return { args with probeTimeout := some (← secondsOnce args.probeTimeout value) }
  | .requestTimeout => do
    return { args with requestTimeout := some (← secondsOnce args.requestTimeout value) }
  | .strictSelf | .verbose | .help | .version => .error .unexpectedValue

/-- Sets an option that takes no value. -/
def setFlag (args : Arguments) (opt : Opt) : Except Interruption Arguments :=
  match opt with
  | .strictSelf =>
    if args.strictSelf then .error .repeatedOption else .ok { args with strictSelf := true }
  | .verbose =>
    if args.verbose then .error .repeatedOption else .ok { args with verbose := true }
  | .help => .error .help
  | .version => .error .version
  | .role | .config | .probeTimeout | .requestTimeout => .error .missingValue

/-! ## Reading -/

/-- How far the reading of a command line has come. -/
structure Reading where
  args : Arguments := {}
  /-- An option whose value is not checked yet, or has not come yet. -/
  pending : Option (Opt × Option String) := none
  /-- Whether all arguments to come are positional. -/
  onlyPositional : Bool := false
  deriving DecidableEq, Repr

namespace Reading

/-- Settles the pending option. -/
def settle (p : Reading) : Except Interruption Reading :=
  match p.pending with
  | none => .ok p
  | some (_, none) => .error .missingValue
  | some (opt, some value) => do
    return { p with args := ← p.args.setValue opt value, pending := none }

/-- An option with a value attached to it. -/
def attached (p : Reading) (opt : Opt) (value : String) : Except Interruption Reading := do
  let p ← p.settle
  return { p with args := ← p.args.setValue opt value }

/-- An option without an attached value: a flag is set, and any other one waits for its value. -/
def bare (p : Reading) (opt : Opt) : Except Interruption Reading := do
  let p ← p.settle
  if opt.takesValue then return { p with pending := some (opt, none) }
  else return { p with args := ← p.args.setFlag opt }

/-- An option by its long name, with what follows its equals sign, if there is one. -/
def longOption (p : Reading) (name : String) (value : Option String) :
    Except Interruption Reading :=
  match Opt.ofLong? name, value with
  | none, _ => .error .unknownArgument
  | some opt, none => p.bare opt
  | some opt, some value =>
    if opt.takesValue then p.attached opt value else .error .unexpectedValue

/-- Letters behind one dash.  The first one that needs a value takes the rest of the argument as its
value, without a leading equals sign; if there is no rest, it waits for the next argument. -/
def letters (p : Reading) : List Char → Except Interruption Reading
  | [] => .ok p
  | letter :: rest =>
    match Opt.ofShort? letter with
    | none => .error .unknownArgument
    | some opt =>
      if opt.takesValue then
        match rest with
        | [] => p.bare opt
        | '=' :: value => p.attached opt (String.ofList value)
        | value => p.attached opt (String.ofList value)
      else do
        let p ← p.bare opt
        p.letters rest

/-- A positional argument; there is room for one.  A second one is refused before the pending option is
looked at. -/
def positional (p : Reading) (value : String) : Except Interruption Reading :=
  if p.args.endpoint.isSome then .error .unknownArgument
  else do
    let p ← p.settle
    return { p with args := { p.args with endpoint := some value } }

/-- An argument that does not look like an option: the awaited value, or a positional argument. -/
def plain (p : Reading) (value : String) : Except Interruption Reading :=
  match p.pending with
  | some (opt, none) => .ok { p with pending := some (opt, some value) }
  | _ => p.positional value

/-- Reads the next argument. -/
def step (p : Reading) (arg : String) : Except Interruption Reading :=
  if p.onlyPositional then p.positional arg
  else
    match arg.toList with
    -- two dashes end the options
    | ['-', '-'] => .ok { p with onlyPositional := true }
    | '-' :: '-' :: rest =>
      let name := String.ofList (rest.takeWhile (· ≠ '='))
      match rest.dropWhile (· ≠ '=') with
      | _ :: value => p.longOption name (some (String.ofList value))
      | [] => p.longOption name none
    | '-' :: c :: rest => p.letters (c :: rest)
    | _ => p.plain arg

end Reading

/-- Reads a command line. -/
def parse (argv : List String) : Except Interruption Arguments := do
  let p ← argv.foldlM Reading.step {}
  let p ← p.settle
  return p.args

end Arguments

/-! ## Texts -/

/-- The help text. -/
def helpText : String :=
  "Assign an application role to the bootstrap node of a cluster\n" ++
  "\n" ++
  "Usage: kvcluster-bootstrap [OPTIONS] [HOST:PORT]\n" ++
  "\n" ++
  "Arguments:\n" ++
  "  [HOST:PORT]  Control-plane address\n" ++
  "\n" ++
  "Options:\n" ++
  "  -r, --role <ROLE>             Role to assign, may be repeated\n" ++
  "  -c, --config <FILE>           TOML configuration file\n" ++
  "      --probe-timeout <SECS>    Liveness probe timeout in seconds\n" ++
  "      --request-timeout <SECS>  Query and mutation timeout in seconds\n" ++
  "      --strict-self             Fail when the endpoint's own uri is not among discovered " ++
    "servers\n" ++
  "  -v, --verbose                 Log progress to stderr\n" ++
  "  -h, --help                    Print help\n" ++
  "  -V, --version                 Print version\n"

/-- The version text. -/
def versionText : String := "kvcluster-cli 0.1.0\n"

namespace Interruption

/-- What is shown for a request that is not a mistake. -/
def shown? : Interruption → Option String
  | help => some helpText
  | version => some versionText
  | _ => none

/-- The exit code: success for what was asked for, and two for a mistake. -/
def exitCode (i : Interruption) : Nat := if i.shown?.isSome then 0 else 2

end Interruption

end ClusterBootstrap

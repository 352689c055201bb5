import Fleet.Command
import Fleet.CommandLine.Parser

/-! The command line of the fleet: a command with its own options and operands. -/

namespace Fleet.CommandLine

/-- The name of the program. -/
def programName : String := "vmfleet"

/-- The version that the program is released under. -/
def programVersion : String := "0.1.0"

/-- What the command line depends on: the providers that can be created on, the options that the
providers add, and the version of the program. -/
structure Catalogue where
  targets : List String
  flags : List Flag
  version : String
deriving DecidableEq

/-- A value that must be one of several. -/
def checkChoice (choices : List String) (value : String) : Except Refusal Unit :=
  if choices.contains value then .ok ()
  else
    let named := ", ".intercalate (choices.map Text.quote)
    .error (.wrong s!"invalid choice: {Text.quote value} (choose from {named})")

/-- The option that asks how to use the program, with what comes of it. -/
def helpOptionTo {ν : Type} (answer : Halt) : Opt ν where
  spellings := ["-h", "--help"]
  arity := .none
  take _ _ := .error (.halt answer)

/-- The option that asks how to use the program. -/
def helpOption {ν : Type} : Opt ν :=
  helpOptionTo .help

/-- An option that is on or off. -/
def switch {ν : Type} (spellings : List String) (turnOn : ν → ν) : Opt ν where
  spellings := spellings
  arity := .none
  take _ found := .ok (turnOn found)

/-- A lifetime that was written out. A text that is no length of time is a wrong value; a length
of time that is too long is not caught. -/
def readLifetime (text : String) : Except Refusal Duration :=
  match Duration.parse text with
  | .ok lifetime => .ok lifetime
  | .error (.outOfRange days) => .error (.halt (.fault (.problem (.duration (.outOfRange days)))))
  | .error error => .error (.wrong error.message)

/-- The option for a lifetime. There is no lifetime when a separator is given for it. -/
def lifetimeOption {ν : Type} (required : Bool) (store : Option Duration → ν → ν) : Opt ν where
  spellings := ["--lifetime"]
  arity := .one
  placeholder := "LIFETIME"
  required := required
  take values found := do
    -- Every value is read, but only the first one counts.
    let lifetimes ← values.mapM readLifetime
    return store lifetimes.head? found

/-- The operand for the names of virtual machines. -/
def namesOperand {ν : Type} (store : List String → ν → ν) : Operand ν where
  title := "names"
  reach := .words
  take names found := .ok (store names found)

/-- What a flag is set to by the values of its option. A flag that takes one text is set to a list
only when a separator is given for the text. -/
def flagValue (flag : Flag) (values : List String) : FlagValue :=
  match flag.many, values with
  | false, value :: _ => .text value
  | _, _ => .texts values

/-- The option for a flag of a provider. -/
def flagOption (flag : Flag) : Opt CreateArguments where
  spellings := [flag.option]
  arity := if flag.many then .many else .one
  placeholder := flag.key.toUpper
  take values found :=
    .ok { found with flags := found.flags.insert flag.key (flagValue flag values) }

/-- What is known of the value that a flag is set to. -/
def filler : FlagValue → Text.Template.Filler
  | .nothing => .nothing
  | .text value => .text value
  | .texts _ => .texts

/-- What the help on a flag may tell of it, by name. -/
def fillers (program : String) (flag : Flag) : List (String × Text.Template.Filler) :=
  [("option_strings", .texts), ("dest", .text flag.key),
   ("nargs", if flag.many then .text "+" else .nothing), ("const", .nothing),
   ("default", filler flag.standard), ("type", .nothing), ("choices", .nothing),
   ("required", .truth), ("help", .text flag.help), ("metavar", .nothing),
   ("container", .group), ("prog", .text program)]

/-- What comes of asking for help on flags: the help, or the first flaw in what is told of them. -/
def helpOn (program : String) : List Flag → Halt
  | [] => .help
  | flag :: flags =>
    match Text.Template.check (fillers program flag) flag.help with
    | .ok () => helpOn program flags
    | .error flaw => .fault (.problem (.template flaw))

/-- Options, some of them for flags, and before them the option that asks how to use the program.
The usage is shown first. -/
def withHelp {ν : Type} (program : String) (flags : List Flag) (options : List (Opt ν)) :
    List (Opt ν) :=
  let answer := if Usage.dividesEvenly (usageOf options) then helpOn program flags
    else .fault (.problem .unevenUsage)
  helpOptionTo answer :: options

/-- The name of a command's own part of the program. -/
def commandName (word : String) : String := s!"{programName} {word}"

/-- The command line of `list`. -/
def listGrammar : Grammar Bool where
  program := commandName "list"
  options := [helpOption, switch ["--json"] fun _ => true]
  operand := none

/-- The options of `create` that do not depend on the providers' own. -/
def createOptions (catalogue : Catalogue) : List (Opt CreateArguments) :=
  [lifetimeOption false fun lifetime found => { found with lifetime := lifetime },
   switch ["--local-ssd"] fun found => { found with localSsd := true },
   switch ["--geo"] fun found => { found with spread := true },
   { spellings := ["--providers"]
     arity := .many
     placeholder := "\x7b" ++ ",".intercalate catalogue.targets ++ "\x7d"
     take := fun names found => do
      names.forM (checkChoice catalogue.targets)
      return { found with providers := names } }]

/-- The command line of `create`. -/
def createGrammar (catalogue : Catalogue) : Grammar CreateArguments where
  program := commandName "create"
  options := withHelp (commandName "create") catalogue.flags
    (createOptions catalogue ++ catalogue.flags.map flagOption)
  operand := some (namesOperand fun names found => { found with names := names })

/-- What flags are set to before any of them is given. Of two flags with one key the first
counts. -/
def standardValues (flags : List Flag) : FlagValues :=
  flags.foldl (fun values flag =>
    if values.contains flag.key then values else values.insert flag.key flag.standard) .empty

/-- What `create` starts from. -/
def createStart (catalogue : Catalogue) : CreateArguments where
  names := []
  flags := standardValues catalogue.flags

/-- The command line of `destroy`. -/
def destroyGrammar : Grammar (List String) where
  program := commandName "destroy"
  options := [helpOption]
  operand := some (namesOperand fun names _ => names)

/-- The command line of `extend`. -/
def extendGrammar : Grammar (List String × Option Duration) where
  program := commandName "extend"
  options := [helpOption, lifetimeOption true fun lifetime found => (found.1, lifetime)]
  operand := some (namesOperand fun names found => (names, found.2))

/-- The command line of `whoami`. -/
def whoamiGrammar : Grammar Unit where
  program := commandName "whoami"
  options := [helpOption]
  operand := none

/-- The command line of `sync-ssh`. -/
def syncSshGrammar : Grammar Bool where
  program := commandName "sync-ssh"
  options := [helpOption, switch ["--clean"] fun _ => true]
  operand := none

/-- The commands by their words, each with what reads its own arguments. -/
def commands (catalogue : Catalogue) :
    List (String × (List String → Except Halt (Command × List String))) :=
  [("list", fun arguments => do
      let (asDocument, extras) ← listGrammar.parseKnown arguments false
      return (.list asDocument, extras)),
   ("create", fun arguments => do
      let (found, extras) ←
        (createGrammar catalogue).parseKnown arguments (createStart catalogue)
      return (.create found, extras)),
   ("destroy", fun arguments => do
      let (names, extras) ← destroyGrammar.parseKnown arguments []
      return (.destroy names, extras)),
   ("extend", fun arguments => do
      let ((names, lifetime), extras) ← extendGrammar.parseKnown arguments ([], none)
      return (.extend names lifetime, extras)),
   ("whoami", fun arguments => do
      let ((), extras) ← whoamiGrammar.parseKnown arguments ()
      return (.whoami, extras)),
   ("sync-ssh", fun arguments => do
      let (clean, extras) ← syncSshGrammar.parseKnown arguments false
      return (.syncSsh clean, extras))]

/-- What the user asked for on the command line. -/
structure Invocation where
  verbose : Bool := false
  command : Option Command := none
  /-- Arguments that the command has no use for. -/
  extras : List String := []

/-- Reads a command with its own arguments. -/
def takeCommand (catalogue : Catalogue) (values : List String) (found : Invocation) :
    Except Refusal Invocation := do
  let word := values.headD ""
  match (commands catalogue).lookup word with
  | some read =>
    match read values.tail with
    | .ok (command, extras) => return { found with command := some command, extras := extras }
    | .error halt => .error (.halt halt)
  | none =>
    -- A word that was not looked up is none of the choices, so this is where it is refused.
    checkChoice ((commands catalogue).map Prod.fst) word
    return found

/-- The command line of the program. -/
def programGrammar (catalogue : Catalogue) : Grammar Invocation where
  program := programName
  options := [
    helpOption,
    { spellings := ["--version"]
      arity := .none
      take := fun _ _ => .error (.halt (.version s!"{programName} v{catalogue.version}")) },
    switch ["-v", "--verbose"] fun found => { found with verbose := true }]
  operand := some {
    title := "command"
    reach := .command
    take := takeCommand catalogue }

/-- What a command line asks for. -/
def parse (catalogue : Catalogue) (arguments : List String) :
    Except Halt (Bool × Command) := do
  let grammar := programGrammar catalogue
  let (found, extras) ← grammar.parseKnown arguments {}
  let found ← grammar.refuseExtras found (extras ++ found.extras)
  match found.command with
  | some command => return (found.verbose, command)
  | none => grammar.misuse "the following arguments are required: command"

/-- A flag with the spelling of another option, if there is one. -/
def repeatedOption (taken : List String) : List Flag → Option String
  | [] => none
  | flag :: flags =>
    if taken.contains flag.option then some flag.option
    else repeatedOption (flag.option :: taken) flags

/-- What the command line depends on, as things stand. No two providers may add the same
option. -/
def catalogue {σ : Type} (registry : Registry (Provider σ)) (state : σ) (version : String) :
    Except Fault Catalogue :=
  let known : Catalogue :=
    ⟨Command.createTargets registry,
     registry.toList.flatMap fun provider => provider.flags state, version⟩
  -- Spellings are taken in this order, so it is always a flag that is told as repeated.
  let taken := helpOption :: createOptions known
  match repeatedOption (taken.flatMap Opt.spellings) known.flags with
  | some option => .error (.problem (.optionTwice option))
  | none => .ok known

/-- The command line of the flags alone, without a command. -/
def flagsGrammar (flags : List Flag) : Grammar CreateArguments where
  program := programName
  options := withHelp programName flags (flags.map flagOption)
  operand := none

/-- What a command line sets flags to. -/
def parseFlags (flags : List Flag) (arguments : List String) : Except Halt FlagValues := do
  let grammar := flagsGrammar flags
  let (found, extras) ← grammar.parseKnown arguments { names := [], flags := standardValues flags }
  let found ← grammar.refuseExtras found extras
  return found.flags

end Fleet.CommandLine

/-!
# The command line

Two options take a value, in the next word or behind an equals sign, and two are flags.
Each may be given once, by its full name. A value in a word of its own cannot look like
an option. `--` ends the options, and nothing may follow it. The words are read from
left to right, so of a call for help and a mistake the first one counts.
-/

namespace Zigbee.Settings

/-- What the command line says. -/
structure Arguments where
  configPath : String := "config.toml"
  settingsFlash : Bool := false
  packetCapture : Option String := none
  joinEnable : Bool := false
deriving DecidableEq, Repr

/-- Why the command line is not carried out. -/
inductive Interruption where
  /-- Help has been asked for. -/
  | help
  /-- The words make no sense. -/
  | misuse
deriving DecidableEq, Repr

namespace Arguments

/-- How a word of the command line is meant. -/
inductive Word where
  /-- The end of the options. -/
  | escape
  /-- An option by its name, perhaps with a value. -/
  | long (name : String) (value : Option String)
  /-- Options by single letters. -/
  | short (letters : List Char)
  /-- Anything else. -/
  | plain (text : String)
deriving DecidableEq, Repr

/-- How a word is meant. -/
def Word.ofString (word : String) : Word :=
  match word.toList with
  | ['-', '-'] => .escape
  | '-' :: '-' :: rest =>
    .long (String.ofList (rest.takeWhile (· != '=')))
      (match rest.dropWhile (· != '=') with
        | _ :: value => some (String.ofList value)
        | [] => none)
  | '-' :: c :: rest => .short (c :: rest)
  | _ => .plain word

/-- What has been given so far. -/
structure Given where
  config : Option String := none
  capture : Option String := none
  settingsFlash : Bool := false
  joinEnable : Bool := false
deriving DecidableEq, Repr

/-- An option that takes a value. -/
inductive Setting where
  | config
  | capture
deriving DecidableEq, Repr

/-- A flag. -/
inductive Flag where
  | settingsFlash
  | joinEnable
deriving DecidableEq, Repr

namespace Given

/-- Give an option its value. -/
def assign (g : Given) (s : Setting) (value : String) : Except Interruption Given :=
  match s with
  | .config => if g.config.isSome then .error .misuse else .ok { g with config := some value }
  | .capture =>
    if g.capture.isSome ∨ value = "" then .error .misuse
    else .ok { g with capture := some value }

/-- Raise a flag. -/
def raise (g : Given) : Flag → Except Interruption Given
  | .settingsFlash =>
    if g.settingsFlash then .error .misuse else .ok { g with settingsFlash := true }
  | .joinEnable =>
    if g.joinEnable then .error .misuse else .ok { g with joinEnable := true }

/-- What has been given, with the usual path if there is none. -/
def finish (g : Given) : Arguments :=
  let usual : Arguments := {}
  { usual with
    configPath := g.config.getD usual.configPath
    settingsFlash := g.settingsFlash
    packetCapture := g.capture
    joinEnable := g.joinEnable }

end Given

/-- The option with the given name. -/
def setting? : String → Option Setting
  | "config" => some .config
  | "packet-capture" => some .capture
  | _ => none

/-- The flag with the given name. -/
def flag? : String → Option Flag
  | "settings-flash" => some .settingsFlash
  | "join-enable" => some .joinEnable
  | _ => none

/-- What an option by its full name without a value asks for. -/
def raiseNamed (g : Given) (name : String) : Except Interruption Given :=
  match flag? name with
  | some f => g.raise f
  | none => .error (if name = "help" then .help else .misuse)

/-- Read the words one by one; an option may still wait for its value. -/
def readFrom (g : Given) : (waiting : Option Setting) → List String → Except Interruption Given
  | none, [] => .ok g
  | some _, [] => .error .misuse
  | some s, word :: rest =>
    match Word.ofString word with
    | .plain value =>
      match g.assign s value with
      | .ok g => readFrom g none rest
      | .error e => .error e
    | _ => .error .misuse
  | none, word :: rest =>
    match Word.ofString word with
    | .escape => if rest = [] then .ok g else .error .misuse
    | .long name (some value) =>
      match setting? name with
      | none => .error .misuse
      | some s =>
        match g.assign s value with
        | .ok g => readFrom g none rest
        | .error e => .error e
    | .long name none =>
      match setting? name with
      | some s => readFrom g (some s) rest
      | none =>
        match raiseNamed g name with
        | .ok g => readFrom g none rest
        | .error e => .error e
    | .short ('h' :: _) => .error .help
    | _ => .error .misuse

/-- The meaning of the words behind the name of the program. -/
def parse (words : List String) : Except Interruption Arguments :=
  (readFrom {} none words).map (·.finish)

/-- What is told about the command line. -/
def helpLines : List String :=
  ["Zigbee coordinator for TI Z-Stack network processors",
   "",
   "Usage: ezstack [OPTIONS]",
   "",
   "Options:",
   "      --config <CONFIG>                  " ++
     "Path to the TOML configuration file [default: config.toml]",
   "      --settings-flash                   " ++
     "Overwrite the radio's network settings when they differ from the configuration",
   "      --packet-capture <PACKET_CAPTURE>  Log every inbound frame to this file",
   "      --join-enable                      Permit devices to join for the first two minutes",
   "  -h, --help                             Print help"]

end Arguments

end Zigbee.Settings

import ArtifactTrust.Environment
import ArtifactTrust.Registry.Settings
import ArtifactTrust.Text.Cut

/-!
# The command line

The words of a command line, read one after another. An option that wants a value waits for
the next word; what has been waiting is settled before anything else is taken in, except that
a word which belongs nowhere is reported first.
-/

namespace ArtifactTrust.Command

set_option autoImplicit false

open Text

structure VerifyArguments where
  reference : Option String
  pluginConfig : List String
  userMetadata : List String
  ociLayout : Bool
  scope : Option String
  username : Option String
  password : Option String
  insecureRegistry : Bool
  debug : Bool
  verbose : Bool
deriving DecidableEq, Repr

inductive Subcommand where
  | verify (arguments : VerifyArguments)
  | version
deriving DecidableEq, Repr

inductive Usage where
  | help
  | version
  | nothingToDo
  | unknownCommand
  | unknownArgument
  | valueForSwitch
  | missingValue
  | conflict
deriving DecidableEq, Repr

/-- The exit code. Help and version are answers, all else is a mistake. -/
def Usage.code : Usage → Nat
  | help => 0
  | version => 0
  | _ => 2

namespace VerifyArguments

def empty : VerifyArguments :=
  ⟨none, [], [], false, none, none, none, false, false, false⟩

def logFilter (a : VerifyArguments) : String :=
  if a.debug then "debug" else if a.verbose then "info" else "warn"

/-- How to talk to the registry: what the environment says, and over it what is given. -/
def settings (a : VerifyArguments) (env : Environment) : RegistrySettings :=
  let s := RegistrySettings.ofEnvironment env
  let s := if a.insecureRegistry then s.withPlain true else s
  match a.username, a.password with
  | some username, some password => s.withCredentials username password
  | _, _ => s

end VerifyArguments

def Subcommand.logFilter : Subcommand → String
  | verify arguments => arguments.logFilter
  | version => "warn"

inductive Valued where
  | pluginConfig
  | userMetadata
  | scope
  | username
  | password
deriving DecidableEq, Repr

inductive Switch where
  | ociLayout
  | insecureRegistry
  | debug
  | verbose
  | help
deriving DecidableEq, Repr

def longOption? (name : String) : Option (Valued ⊕ Switch) :=
  [("plugin-config", .inl .pluginConfig), ("user-metadata", .inl .userMetadata),
    ("scope", .inl .scope), ("username", .inl .username), ("password", .inl .password),
    ("oci-layout", .inr .ociLayout), ("insecure-registry", .inr .insecureRegistry),
    ("debug", .inr .debug), ("verbose", .inr .verbose), ("help", .inr .help)].lookup name

def shortOption? (letter : Char) : Option (Valued ⊕ Switch) :=
  [('m', .inl .userMetadata), ('u', .inl .username), ('p', .inl .password),
    ('d', .inr .debug), ('v', .inr .verbose), ('h', .inr .help)].lookup letter

namespace VerifyArguments

def set (a : VerifyArguments) : Switch → Except Usage VerifyArguments
  | .ociLayout =>
    if a.ociLayout then .error .conflict else .ok { a with ociLayout := true }
  | .insecureRegistry =>
    if a.insecureRegistry then .error .conflict else .ok { a with insecureRegistry := true }
  | .debug => if a.debug then .error .conflict else .ok { a with debug := true }
  | .verbose => if a.verbose then .error .conflict else .ok { a with verbose := true }
  | .help => .error .help

def give (a : VerifyArguments) (option : Valued) (value : String) :
    Except Usage VerifyArguments :=
  let once (current : Option String) (next : VerifyArguments) : Except Usage VerifyArguments :=
    if current.isSome then .error .conflict else .ok next
  match option with
  | .pluginConfig => .ok { a with pluginConfig := a.pluginConfig ++ [value] }
  | .userMetadata => .ok { a with userMetadata := a.userMetadata ++ [value] }
  | .scope => once a.scope { a with scope := some value }
  | .username => once a.username { a with username := some value }
  | .password => once a.password { a with password := some value }

end VerifyArguments

/-- How far the words of the command have been read. -/
structure Reading where
  found : VerifyArguments
  /-- An option whose value is to come, or has come but is not given to it yet. -/
  waiting : Option (Valued × Option String)
  /-- Whether all further words stand for themselves. -/
  literal : Bool
deriving DecidableEq, Repr

namespace Reading

/-- Gives the option that is waiting its value. -/
def settle (r : Reading) : Except Usage Reading :=
  match r.waiting with
  | none => .ok r
  | some (_, none) => .error .missingValue
  | some (option, some value) => do
    return { r with found := ← r.found.give option value, waiting := none }

/-- Takes in an option with a value, which may be in the same word. -/
def valued (r : Reading) (option : Valued) (value : Option String) : Except Usage Reading := do
  let r ← r.settle
  match value with
  | some value => return { r with found := ← r.found.give option value }
  | none => return { r with waiting := some (option, none) }

def switch (r : Reading) (s : Switch) : Except Usage Reading := do
  let r ← r.settle
  return { r with found := ← r.found.set s }

/-- Takes in the letters of a word behind its dash. A letter that wants a value takes the rest
of the word, without an equals sign in front. -/
def letters (r : Reading) : List Char → Except Usage Reading
  | [] => .ok r
  | c :: rest =>
    match shortOption? c with
    | none => .error .unknownArgument
    | some (.inr s) => do (← r.switch s).letters rest
    | some (.inl option) =>
      match rest with
      | [] => r.valued option none
      | '=' :: value => r.valued option (some (String.ofList value))
      | value => r.valued option (some (String.ofList value))

def long (r : Reading) (word : String) : Except Usage Reading :=
  let (name, value) :=
    match cutFirst? '=' word with
    | some (name, value) => (name, some value)
    | none => (word, none)
  match longOption? name with
  | none => .error .unknownArgument
  | some (.inl option) => r.valued option value
  | some (.inr s) => if value.isSome then .error .valueForSwitch else r.switch s

def plain (r : Reading) (word : String) : Except Usage Reading :=
  if r.found.reference.isSome then .error .unknownArgument
  else do
    let r ← r.settle
    return { r with found := { r.found with reference := some word } }

def word (r : Reading) (w : String) : Except Usage Reading :=
  if r.literal then r.plain w
  else
    match w.toList with
    | ['-', '-'] => .ok { r with literal := true }
    | '-' :: '-' :: rest => r.long (String.ofList rest)
    | '-' :: c :: rest => r.letters (c :: rest)
    | _ =>
      match r.waiting with
      | some (option, none) => .ok { r with waiting := some (option, some w) }
      | _ => r.plain w

end Reading

namespace VerifyArguments

/-- What is given in the environment to options that are not given otherwise. -/
def withEnvironment (a : VerifyArguments) (env : Environment) : VerifyArguments :=
  { a with
    username := a.username.or (env.get? RegistrySettings.usernameVariable)
    password := a.password.or (env.get? RegistrySettings.passwordVariable) }

def parse (env : Environment) (words : List String) : Except Usage VerifyArguments := do
  let r ← words.foldlM Reading.word ⟨empty, none, false⟩
  let r ← r.settle
  if r.found.debug && r.found.verbose then throw .conflict
  return r.found.withEnvironment env

end VerifyArguments

def parseVersion : List String → Except Usage Subcommand
  | [] => .ok .version
  | w :: rest =>
    match w.toList with
    | ['-', '-'] => if rest.isEmpty then .ok .version else .error .unknownArgument
    | '-' :: '-' :: name =>
      match cutFirst '=' name with
      | some (name, _) =>
        .error (if String.ofList name = "help" then .valueForSwitch else .unknownArgument)
      | none => .error (if String.ofList name = "help" then .help else .unknownArgument)
    | '-' :: 'h' :: _ => .error .help
    | _ => .error .unknownArgument

def parseHelp : List String → Usage
  | [] => .help
  | [name] => if name ∈ ["verify", "version", "help"] then .help else .unknownCommand
  | _ => .unknownCommand

/-- Reads an option that stands before the command; none goes with one. -/
def parseOption (word : List Char) : Usage :=
  match word with
  | '-' :: '-' :: rest =>
    let (name, attached) :=
      match cutFirst '=' rest with
      | some (name, _) => (String.ofList name, true)
      | none => (String.ofList rest, false)
    if name = "help" then if attached then .valueForSwitch else .help
    else if name = "version" then if attached then .valueForSwitch else .version
    else .unknownArgument
  | '-' :: 'h' :: _ => .help
  | '-' :: 'V' :: _ => .version
  | _ => .unknownArgument

def parse (env : Environment) : List String → Except Usage Subcommand
  | [] => .error .nothingToDo
  | "verify" :: words => do return .verify (← VerifyArguments.parse env words)
  | "version" :: words => parseVersion words
  | "help" :: words => .error (parseHelp words)
  | w :: rest =>
    match w.toList with
    | ['-', '-'] =>
      match rest with
      | [] => .error .nothingToDo
      | next :: _ =>
        .error (if next ∈ ["verify", "version", "help"] then .unknownArgument else .unknownCommand)
    | '-' :: c :: rest => .error (parseOption ('-' :: c :: rest))
    | _ => .error .unknownCommand

end ArtifactTrust.Command

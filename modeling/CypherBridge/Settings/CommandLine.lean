import CypherBridge.Settings.Environment
import CypherBridge.Settings.Setting

/-!
# Command lines

Flags, long or short, with a value behind an equals sign or in the next word, and a command
at the end. Two dashes end the flags. The value of a flag is checked only once the next flag
or the end is reached, so that an unknown word behind a bad value is reported first. What the
command line leaves open is taken from the environment and then from the defaults.
-/

namespace CypherBridge.Settings

inductive Flag where
  | setting (s : Setting)
  | verbose
  | envFile
  | help
  | version
  deriving DecidableEq, Repr

namespace Flag

def name : Flag → String
  | .setting s => s.optionName
  | .verbose => "verbose"
  | .envFile => "env-file"
  | .help => "help"
  | .version => "version"

def letter? : Flag → Option Char
  | .setting .port => some 'p'
  | .verbose => some 'v'
  | .help => some 'h'
  | .version => some 'V'
  | .setting _ | .envFile => none

def takesValue : Flag → Bool
  | .setting s => !s.isSwitch
  | .envFile => true
  | .verbose | .help | .version => false

def usage (f : Flag) : String :=
  let dashed := "--" ++ f.name
  if f.takesValue then
    let value := f.name.toUpper.map fun c => if c = '-' then '_' else c
    dashed ++ " <" ++ value ++ ">"
  else dashed

end Flag

inductive Command where
  | serve
  | check
  deriving DecidableEq, Repr

def Command.ofName? (name : String) : Option Command :=
  if name = "serve" then some .serve
  else if name = "check" then some .check
  else none

/-- What ends the reading of a command line. Requests for help and for the version do it
too. -/
inductive UsageError where
  | unknownArgument (word : String)
  | unknownCommand (word : String)
  | valueMissing (f : Flag)
  | valueUnwanted (f : Flag) (value : String)
  | valueInvalid (f : Flag) (value : String) (fault : ValueFault)
  | repeated (f : Flag)
  | helpWanted
  | versionWanted
  deriving DecidableEq, Repr

def UsageError.message : UsageError → String
  | .unknownArgument word => "unexpected argument '" ++ word ++ "' found"
  | .unknownCommand word => "unrecognized subcommand '" ++ word ++ "'"
  | .valueMissing f => "a value is required for '" ++ f.usage ++ "' but none was supplied"
  | .valueUnwanted f value =>
      "unexpected value '" ++ value ++ "' for '" ++ f.usage ++ "' found; no more were expected"
  | .valueInvalid f value .notSwitch => "invalid value '" ++ value ++ "' for '" ++ f.usage ++ "'"
  | .valueInvalid f value fault =>
      "invalid value '" ++ value ++ "' for '" ++ f.usage ++ "': " ++ fault.message
  | .repeated f => "the argument '" ++ f.usage ++ "' cannot be used multiple times"
  | .helpWanted => "help"
  | .versionWanted => "version"

/-! ## Reading flags -/

structure Vocabulary where
  flags : List Flag
  commands : Bool
  deriving DecidableEq, Repr

namespace Vocabulary

def settingsOnly : Vocabulary := ⟨Setting.all.map .setting ++ [.help], false⟩

def complete : Vocabulary :=
  ⟨[.verbose, .envFile] ++ Setting.all.map .setting ++ [.help, .version], true⟩

def behindCommand : Vocabulary := ⟨[.verbose, .envFile, .help], false⟩

def named? (v : Vocabulary) (name : String) : Option Flag :=
  v.flags.find? fun f => f.name == name

def lettered? (v : Vocabulary) (letter : Char) : Option Flag :=
  v.flags.find? fun f => f.letter? == some letter

end Vocabulary

/-- Flags with their values, and the last flag as long as its value is not checked. -/
structure Progress where
  given : List (Flag × String)
  pending : Option (Flag × Option String)
  deriving DecidableEq, Repr

namespace Progress

def start : Progress := ⟨[], none⟩

def awaitsValue (p : Progress) : Bool :=
  match p.pending with
  | some (_, none) => true
  | _ => false

def isGiven (p : Progress) (f : Flag) : Bool := (p.given.lookup f).isSome

def check (f : Flag) (value : String) : Except UsageError Unit :=
  match f with
  | .setting s =>
      match s.kind.check value with
      | .ok () => .ok ()
      | .error fault => .error (.valueInvalid f value fault)
  | .envFile => if value.isEmpty then .error (.valueMissing f) else .ok ()
  | .verbose | .help | .version => .ok ()

def add (p : Progress) (f : Flag) (value : String) : Except UsageError Progress :=
  match f with
  | .help => .error .helpWanted
  | .version => .error .versionWanted
  | f =>
      if p.isGiven f then .error (.repeated f)
      else do
        check f value
        return { p with given := p.given ++ [(f, value)] }

def settle (p : Progress) : Except UsageError Progress :=
  match p.pending with
  | none => .ok p
  | some (f, none) => .error (.valueMissing f)
  | some (f, some value) => { p with pending := none }.add f value

def take (p : Progress) (f : Flag) (value : String) : Except UsageError Progress := do
  (← p.settle).add f value

def await (p : Progress) (f : Flag) : Except UsageError Progress := do
  return { ← p.settle with pending := some (f, none) }

def supply (p : Progress) (value : String) : Progress :=
  { p with pending := p.pending.map fun (f, _) => (f, some value) }

end Progress

def presence : String := "true"

def takeLong (v : Vocabulary) (p : Progress) (word : List Char) : Except UsageError Progress :=
  let name := String.ofList (word.takeWhile (· != '='))
  match v.named? name, word.dropWhile (· != '=') with
  | none, _ => .error (.unknownArgument ("--" ++ name))
  | some f, [] => if f.takesValue then p.await f else p.take f presence
  | some f, _ :: value =>
      if f.takesValue then p.take f (.ofList value)
      else .error (.valueUnwanted f (.ofList value))

/-- Letters behind one dash, up to the first that takes a value: what follows it is the
value, with or without an equals sign. -/
def takeShort (v : Vocabulary) (p : Progress) : List Char → Except UsageError Progress
  | [] => .ok p
  | letter :: rest =>
      match v.lettered? letter with
      | none => .error (.unknownArgument (.ofList ['-', letter]))
      | some f =>
          if f.takesValue then
            match rest with
            | [] => p.await f
            | '=' :: value => p.take f (.ofList value)
            | value => p.take f (.ofList value)
          else do takeShort v (← p.take f presence) rest

inductive Word where
  | dashes
  | long (cs : List Char)
  | short (cs : List Char)
  | plain (s : String)
  deriving DecidableEq, Repr

def Word.ofString (s : String) : Word :=
  match s.toList with
  | ['-', '-'] => .dashes
  | '-' :: '-' :: cs => .long cs
  | '-' :: c :: cs => .short (c :: cs)
  | _ => .plain s

def helpCommand : String := "help"

def readHelp : List String → UsageError
  | [] => .helpWanted
  | word :: rest =>
      if word = helpCommand then readHelp rest
      else match Command.ofName? word, rest with
        | none, _ => .unknownCommand word
        | some _, [] => .helpWanted
        | some _, word :: _ => .unknownCommand word

def stray (v : Vocabulary) (word : String) (behindDashes : Bool) : UsageError :=
  if v.commands && !(behindDashes && (Command.ofName? word).isSome) then .unknownCommand word
  else .unknownArgument word

structure Arguments where
  given : List (Flag × String)
  command : Option Command
  deriving DecidableEq, Repr

/-- The flags up to the first word that is a command, and those behind it, which count more
than the same ones before it. -/
def readWords (v : Vocabulary) (p : Progress) : List String → Except UsageError Arguments
  | [] => do return ⟨(← p.settle).given, none⟩
  | word :: rest =>
      match Word.ofString word with
      | .dashes =>
          match rest with
          | [] => do return ⟨(← p.settle).given, none⟩
          | next :: _ => .error (stray v next true)
      | .long cs => do readWords v (← takeLong v p cs) rest
      | .short cs => do readWords v (← takeShort v p cs) rest
      | .plain s =>
          if p.awaitsValue then readWords v (p.supply s) rest
          else if v.commands && s = helpCommand then .error (readHelp rest)
          else match v.commands, Command.ofName? s with
            | true, some command => do
                let behind ← readWords .behindCommand .start rest
                return ⟨behind.given ++ (← p.settle).given, some command⟩
            | _, _ => .error (stray v s false)

/-! ## Filling in -/

abbrev Texts := Setting → Option String

def checkVariables (given : List (Flag × String)) (e : Environment) : Except UsageError Unit :=
  Setting.all.forM fun s =>
    match given.lookup (.setting s), e.get? s.variableName with
    | none, some value => Progress.check (.setting s) value
    | _, _ => .ok ()

def textOf (given : List (Flag × String)) (e : Environment) (s : Setting) : Option String :=
  (given.lookup (.setting s)).or ((e.get? s.variableName).or s.default?)

structure Invocation where
  texts : Texts
  envFile : Option String
  verbose : Bool
  command : Option Command

def Invocation.ofArguments (a : Arguments) (e : Environment) : Invocation :=
  { texts := textOf a.given e
    envFile := a.given.lookup .envFile
    verbose := (a.given.lookup .verbose).isSome
    command := a.command }

def Invocation.read (v : Vocabulary) (words : List String) (e : Environment) :
    Except UsageError Invocation := do
  let a ← readWords v .start words
  checkVariables a.given e
  return .ofArguments a e

end CypherBridge.Settings

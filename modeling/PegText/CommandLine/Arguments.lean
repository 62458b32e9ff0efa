import PegText.Interpreter
import PegText.Language

/-!
Reading the arguments of the command line: options with values and flags, in long and in short
form, and positional arguments. The first thing that is wrong ends the reading. A value is
checked once it is certain that nothing else follows its option.
-/

namespace PegText.CommandLine

inductive Format
  | json
  | yaml
  deriving DecidableEq

def Format.ofName? : String → Option Format
  | "json" => some .json
  | "yaml" => some .yaml
  | _ => none

inductive Command
  | parse (language : Language) (rule : Option String) (transform : Bool) (format : Format)
      (file : String)
  | eval (limits : Interpreter.Limits) (expr : String)
  | scan (file : String)
  | rules (language : Language)
  | listBuiltins
  deriving DecidableEq

structure Invocation where
  verbosity : Nat
  command : Command
  deriving DecidableEq

inductive UsageError
  | noArguments
  | missingSubcommand
  | missingArgument
  | unknownArgument
  | unknownSubcommand
  | malformedValue
  | invalidValue
  | unneededValue
  | repeatedOption
  | help
  | version
  deriving DecidableEq

def UsageError.exitCode : UsageError → Nat
  | help | version => 0
  | _ => 2

inductive Parameter
  | verbose
  | help
  | version
  | grammar
  | rule
  | transform
  | format
  | maxDepth
  | maxNesting
  | file
  | expr
  deriving DecidableEq

structure Switch where
  parameter : Parameter
  long : String
  short : Option Char
  hasValue : Bool

structure Usage where
  switches : List Switch
  positionals : List Parameter

namespace Switch

def help : Switch := ⟨.help, "help", some 'h', false⟩

def verbose : Switch := ⟨.verbose, "verbose", some 'v', false⟩

def version : Switch := ⟨.version, "version", some 'V', false⟩

end Switch

namespace Usage

def general : Usage := ⟨[.verbose, .help, .version], []⟩

def ofCommand (switches : List Switch) (positionals : List Parameter) : Usage :=
  ⟨switches ++ [.verbose, .help], positionals⟩

def commands : List (String × Usage) :=
  [("parse", ofCommand
      [⟨.grammar, "grammar", some 'g', true⟩, ⟨.rule, "rule", some 'r', true⟩,
       ⟨.transform, "transform", some 't', false⟩, ⟨.format, "format", some 'f', true⟩]
      [.file]),
   ("eval", ofCommand
      [⟨.maxDepth, "max-depth", none, true⟩, ⟨.maxNesting, "max-nesting", none, true⟩]
      [.expr]),
   ("scan", ofCommand [] [.file]),
   ("rules", ofCommand [] [.grammar]),
   ("list-builtins", ofCommand [] [])]

def byLong? (usage : Usage) (name : String) : Option Switch :=
  usage.switches.find? fun candidate => candidate.long == name

def byShort? (usage : Usage) (letter : Char) : Option Switch :=
  usage.switches.find? fun candidate => candidate.short == some letter

end Usage

def Parameter.check (parameter : Parameter) (value : String) : Except UsageError Unit :=
  let valid : Bool :=
    match parameter with
    | grammar => (Language.ofName? value).isSome
    | format => (Format.ofName? value).isSome
    | file => !value.isEmpty
    | _ => true
  match parameter, Integer.readCount value with
  | maxDepth, .error _ => .error .malformedValue
  | maxNesting, .error _ => .error .malformedValue
  | _, _ => if valid then .ok () else .error .invalidValue

structure Reading where
  verbosity : Nat
  values : List (Parameter × String)
  pending : Option (Parameter × Option String)
  positionals : List Parameter
  onlyPositionals : Bool

namespace Reading

def start (usage : Usage) : Reading := ⟨0, [], none, usage.positionals, false⟩

def value? (reading : Reading) (parameter : Parameter) : Option String :=
  reading.values.lookup parameter

def store (reading : Reading) (parameter : Parameter) (value : String) :
    Except UsageError Reading := do
  if (reading.value? parameter).isSome then throw .repeatedOption
  parameter.check value
  return { reading with values := (parameter, value) :: reading.values }

def settle (reading : Reading) : Except UsageError Reading :=
  match reading.pending with
  | none => .ok reading
  | some (_, none) => .error .invalidValue
  | some (parameter, some value) => { reading with pending := none }.store parameter value

def flag (reading : Reading) (parameter : Parameter) : Except UsageError Reading := do
  let reading ← reading.settle
  match parameter with
  | .help => throw .help
  | .version => throw .version
  | .verbose => return { reading with verbosity := min 255 (reading.verbosity + 1) }
  | _ => reading.store parameter "true"

def option (reading : Reading) (parameter : Parameter) (attached : Option String) :
    Except UsageError Reading := do
  let reading ← reading.settle
  match attached with
  | some value => reading.store parameter value
  | none => return { reading with pending := some (parameter, none) }

def long (usage : Usage) (reading : Reading) (text : List Char) : Except UsageError Reading :=
  let name := text.takeWhile (· != '=')
  let attached :=
    match text.drop name.length with
    | [] => none
    | _ :: value => some (String.ofList value)
  match usage.byLong? (String.ofList name), attached with
  | none, _ => .error .unknownArgument
  | some candidate, attached =>
      if candidate.hasValue then reading.option candidate.parameter attached
      else if attached.isSome then .error .unneededValue
      else reading.flag candidate.parameter

def shorts (usage : Usage) (reading : Reading) : List Char → Except UsageError Reading
  | [] => .ok reading
  | letter :: rest =>
      match usage.byShort? letter with
      | none => .error .unknownArgument
      | some candidate =>
          if candidate.hasValue then
            reading.option candidate.parameter
              (match rest with
              | [] => none
              | '=' :: value => some (String.ofList value)
              | value => some (String.ofList value))
          else
            match reading.flag candidate.parameter with
            | .error error => .error error
            | .ok reading => shorts usage reading rest

def positional (reading : Reading) (value : String) : Except UsageError Reading :=
  match reading.positionals with
  | [] => .error .unknownArgument
  | parameter :: rest => do
      let reading ← reading.settle
      return { reading with pending := some (parameter, some value), positionals := rest }

def next (usage : Usage) (reading : Reading) (argument : String) : Except UsageError Reading :=
  if reading.onlyPositionals then reading.positional argument
  else
    match argument.toList with
    | ['-', '-'] => .ok { reading with onlyPositionals := true }
    | '-' :: '-' :: text => reading.long usage text
    | '-' :: letter :: rest => reading.shorts usage (letter :: rest)
    | _ =>
        match reading.pending with
        | some (parameter, none) =>
            .ok { reading with pending := some (parameter, some argument) }
        | _ => reading.positional argument

def all (usage : Usage) (reading : Reading) (arguments : List String) :
    Except UsageError Reading := do
  let reading ← arguments.foldlM (next usage) reading
  let reading ← reading.settle
  if reading.positionals.isEmpty then return reading else throw .missingArgument

def count (reading : Reading) (parameter : Parameter) (usual : Nat) : Nat :=
  match (reading.value? parameter).map Integer.readCount with
  | some (.ok count) => count
  | _ => usual

def language (reading : Reading) : Language :=
  ((reading.value? .grammar).bind Language.ofName?).getD .arguments

def command? (reading : Reading) : String → Option Command
  | "parse" =>
      some (.parse reading.language (reading.value? .rule) (reading.value? .transform).isSome
        (((reading.value? .format).bind Format.ofName?).getD .json)
        ((reading.value? .file).getD ""))
  | "eval" =>
      some (.eval
        ⟨reading.count .maxDepth Interpreter.Limits.standard.maxDepth,
         reading.count .maxNesting Interpreter.Limits.standard.maxNesting⟩
        ((reading.value? .expr).getD ""))
  | "scan" => some (.scan ((reading.value? .file).getD ""))
  | "rules" => some (.rules reading.language)
  | "list-builtins" => some .listBuiltins
  | _ => none

end Reading

namespace Invocation

def ofCommand (general : Reading) (name : String) (usage : Usage) (arguments : List String) :
    Except UsageError Invocation := do
  let reading ← (Reading.start usage).all usage arguments
  match reading.command? name with
  | none => throw .unknownSubcommand
  | some command =>
      return ⟨if reading.verbosity = 0 then general.verbosity else reading.verbosity, command⟩

def helpError : List String → UsageError
  | [] => .help
  | [name] =>
      if name = "help" ∨ (Usage.commands.lookup name).isSome then .help else .unknownSubcommand
  | _ => .unknownSubcommand

def read (general : Reading) : List String → Except UsageError Invocation
  | [] => .error (if general.verbosity = 0 then .noArguments else .missingSubcommand)
  | argument :: rest =>
      let usage? := Usage.commands.lookup argument
      if general.onlyPositionals then
        .error (if usage?.isSome ∨ argument = "help" then .unknownArgument else .unknownSubcommand)
      else
        match usage? with
        | some usage => ofCommand general argument usage rest
        | none =>
            if argument = "help" then .error (helpError rest)
            else
              match argument.toList with
              | '-' :: _ :: _ =>
                  match general.next .general argument with
                  | .error error => .error error
                  | .ok general => read general rest
              | _ => .error .unknownSubcommand

def ofArguments (arguments : List String) : Except UsageError Invocation :=
  read (.start .general) arguments

end Invocation

end PegText.CommandLine

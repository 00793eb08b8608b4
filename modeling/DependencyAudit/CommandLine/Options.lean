import DependencyAudit.Path

/-! The arguments of the command line. Each option may be given once. -/
namespace DependencyAudit.CommandLine

inductive Format
  | table
  | json
deriving DecidableEq

def Format.ofText? (text : String) : Option Format :=
  if text = "table" then some .table else if text = "json" then some .json else none

/-- The options that have a value. -/
inductive Valued
  | manifestDir
  | format
deriving DecidableEq

/-- The options without a value. -/
inductive Switch
  | debugLogging
  | writeSample
  | help
deriving DecidableEq

inductive Opt
  | valued (v : Valued)
  | switch (s : Switch)

structure Options where
  manifestDir : Option Path := none
  format : Option Format := none
  debugLogging : Bool := false
  writeSample : Bool := false
deriving DecidableEq

/-- What the arguments ask for: a run, the help text, or something not understood. -/
inductive Request
  | run (options : Options)
  | help
  | unusable
deriving DecidableEq

def long? (name : String) : Option Opt :=
  if name = "package-manifest-dir" then some (.valued .manifestDir)
  else if name = "output-format" then some (.valued .format)
  else if name = "debug-logging" then some (.switch .debugLogging)
  else if name = "write-configuration" then some (.switch .writeSample)
  else if name = "help" then some (.switch .help)
  else none

def short? : Char → Option Opt
  | 'p' => some (.valued .manifestDir)
  | 'o' => some (.valued .format)
  | 'd' => some (.switch .debugLogging)
  | 'w' => some (.switch .writeSample)
  | 'h' => some (.switch .help)
  | _ => none

/-- The options with a value set; it must be one, and not the second. -/
def Options.set? (o : Options) (v : Valued) (value : String) : Option Options :=
  match v with
  | .manifestDir =>
    if o.manifestDir.isSome || value = "" then none else some { o with manifestDir := some ⟨value⟩ }
  | .format =>
    if o.format.isSome then none
    else (Format.ofText? value).map fun format => { o with format := some format }

/-- What to do about a switch. -/
def Options.turnOn (o : Options) : Switch → Request
  | .debugLogging => if o.debugLogging then .unusable else .run { o with debugLogging := true }
  | .writeSample => if o.writeSample then .unusable else .run { o with writeSample := true }
  | .help => .help

/-- What an argument leaves to be read: nothing, a value, or the rest is settled. -/
inductive Step
  | done (options : Options)
  | needs (options : Options) (v : Valued)
  | settled (request : Request)

def Step.ofRequest : Request → Step
  | .run options => .done options
  | request => .settled request

def Step.ofOptions? : Option Options → Step
  | some options => .done options
  | none => .settled .unusable

/-- Reads the letters of an argument with one dash. What follows the letter of an option with a
value is that value, after an equals sign if there is one. -/
def letters (o : Options) : List Char → Step
  | [] => .done o
  | c :: rest =>
    match short? c with
    | none => .settled .unusable
    | some (.valued v) =>
      match rest with
      | [] => .needs o v
      | '=' :: value => .ofOptions? (o.set? v (String.ofList value))
      | value => .ofOptions? (o.set? v (String.ofList value))
    | some (.switch s) =>
      match o.turnOn s with
      | .run o => letters o rest
      | request => .settled request

/-- Reads an argument with two dashes, which may have a value after an equals sign. -/
def longOption (o : Options) (cs : List Char) : Step :=
  let name := String.ofList (cs.takeWhile (· ≠ '='))
  match long? name, cs.dropWhile (· ≠ '=') with
  | none, _ => .settled .unusable
  | some (.valued v), [] => .needs o v
  | some (.valued v), _ :: value => .ofOptions? (o.set? v (String.ofList value))
  | some (.switch s), [] => .ofRequest (o.turnOn s)
  | some (.switch _), _ :: _ => .settled .unusable

def argument (o : Options) (arg : String) : Step :=
  match arg.toList with
  | '-' :: '-' :: cs => longOption o cs
  | '-' :: c :: cs => letters o (c :: cs)
  | _ => .settled .unusable

/-- Whether an argument can be a value: it does not look like an option. -/
def mayBeValue (arg : String) : Bool :=
  match arg.toList with
  | '-' :: _ :: _ => false
  | _ => true

/-- Reads the arguments in order. After two dashes alone nothing more may follow. -/
def parse (o : Options) : List String → Request
  | [] => .run o
  | arg :: args =>
    if arg = "--" then if args.isEmpty then .run o else .unusable
    else match argument o arg, args with
    | .done o, args => parse o args
    | .settled request, _ => request
    | .needs _ _, [] => .unusable
    | .needs o v, value :: args =>
      if mayBeValue value then
        match o.set? v value with
        | some o => parse o args
        | none => .unusable
      else .unusable

/-- What the arguments ask for. -/
def Request.ofArguments (args : List String) : Request := parse {} args

end DependencyAudit.CommandLine

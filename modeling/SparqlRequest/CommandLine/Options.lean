/-
# CommandLine.Options -- what the arguments ask for

Arguments are read from left to right.  `--name` and `-n` set a switch or announce a value;
the value may be attached, behind `=` or right behind the letter, or be the next argument.
Several letters may stand behind one hyphen, the last of which may take a value.  `--` makes
everything behind it positional.  The one positional argument is the path of the template.

An argument that starts with a hyphen and is not a hyphen alone is never taken for a value,
so a value of that kind has to be attached.  `--common` takes all arguments up to the next
option, and splits them at commas.  Options and switches that may be given once are refused
the second time, except those that gather values.

Reading stops at the first fault.  It also stops at `--version`, which thereby wins over
everything behind it and over a template that is missing.
-/
import SparqlRequest.Text.Basic

set_option autoImplicit false

namespace SparqlRequest.CommandLine

/-- What the arguments ask for. -/
structure Options where
  template : Text
  endpoint : Option Text
  config : Option Text
  base : Option Text
  prefixes : List (Text × Text)
  /-- The well-known prefixes that are asked for; with no names, all of them. -/
  common : Option (List Text)
  bindings : List (Text × Text)
  parameters : List (Text × Text)
  dryRun : Bool
  output : Option Text
  verbose : Bool
  quiet : Bool
  deriving DecidableEq, Repr

/-- Why reading the arguments stopped early. -/
inductive Stop where
  | usage
  | version
  deriving DecidableEq, Repr

inductive Setting where
  | endpoint
  | config
  | base
  | declaration
  | common
  | binding
  | parameter
  | output
  deriving DecidableEq, Repr

inductive Switch where
  | dryRun
  | verbose
  | quiet
  | version
  deriving DecidableEq, Repr

inductive Flag where
  | setting (setting : Setting)
  | switch (switch : Switch)
  deriving DecidableEq, Repr

namespace Flag

def long : List (Text × Flag) :=
  [("endpoint".toList, .setting .endpoint),
    ("config".toList, .setting .config),
    ("base".toList, .setting .base),
    ("prefix".toList, .setting .declaration),
    ("common".toList, .setting .common),
    ("bind".toList, .setting .binding),
    ("param".toList, .setting .parameter),
    ("output".toList, .setting .output),
    ("dry-run".toList, .switch .dryRun),
    ("verbose".toList, .switch .verbose),
    ("quiet".toList, .switch .quiet),
    ("version".toList, .switch .version)]

def short : List (Char × Flag) :=
  [('e', .setting .endpoint),
    ('c', .setting .config),
    ('b', .setting .binding),
    ('o', .setting .output),
    ('v', .switch .verbose),
    ('q', .switch .quiet),
    ('V', .switch .version)]

def ofLong? (name : Text) : Option Flag := (long.find? fun entry => entry.1 = name).map (·.2)

def ofShort? (letter : Char) : Option Flag :=
  (short.find? fun entry => entry.1 = letter).map (·.2)

end Flag

/-- What was read so far. -/
structure Progress where
  /-- The template, once it was seen. -/
  template : Option Text
  /-- Everything but the template. -/
  options : Options
  /-- An option that waits for its value, with the values it has got. -/
  waiting : Option (Setting × List Text)
  /-- Everything from here on is positional. -/
  trailing : Bool
  deriving DecidableEq, Repr

namespace Progress

def start : Progress where
  template := none
  options :=
    { template := []
      endpoint := none
      config := none
      base := none
      prefixes := []
      common := none
      bindings := []
      parameters := []
      dryRun := false
      output := none
      verbose := false
      quiet := false }
  waiting := none
  trailing := false

/-- Sets what may be set once. -/
def once (old : Option Text) (value : Text) : Except Stop (Option Text) :=
  if old.isSome then .error .usage else .ok (some value)

/-- Sets a path, which may be set once and may not be empty. -/
def pathOnce (old : Option Text) (value : Text) : Except Stop (Option Text) :=
  if value.isEmpty then .error .usage else once old value

/-- Adds a pair, the parts of a value before and behind its first `=`. -/
def addPair (old : List (Text × Text)) (value : Text) : Except Stop (List (Text × Text)) :=
  match Text.cut? '=' value with
  | some pair => .ok (old ++ [pair])
  | none => .error .usage

def give (options : Options) : Setting → List Text → Except Stop Options
  | .common, values =>
      let names := values.flatMap (Text.splitOn ',')
      .ok { options with common := some (options.common.getD [] ++ names) }
  | .endpoint, [value] =>
      (once options.endpoint value).map fun set => { options with endpoint := set }
  | .base, [value] => (once options.base value).map fun set => { options with base := set }
  | .config, [value] =>
      (pathOnce options.config value).map fun set => { options with config := set }
  | .output, [value] =>
      (pathOnce options.output value).map fun set => { options with output := set }
  | .declaration, [value] =>
      (addPair options.prefixes value).map fun set => { options with prefixes := set }
  | .binding, [value] =>
      (addPair options.bindings value).map fun set => { options with bindings := set }
  | .parameter, [value] =>
      (addPair options.parameters value).map fun set => { options with parameters := set }
  | _, _ => .error .usage

def turnOn (options : Options) : Switch → Except Stop Options
  | .dryRun => if options.dryRun then .error .usage else .ok { options with dryRun := true }
  | .verbose => if options.verbose then .error .usage else .ok { options with verbose := true }
  | .quiet => if options.quiet then .error .usage else .ok { options with quiet := true }
  | .version => .error .version

/-- Gives the option that waits the values it has got. -/
def settle (progress : Progress) : Except Stop Progress :=
  match progress.waiting with
  | none => .ok progress
  | some (setting, values) =>
      (give progress.options setting values).map fun options =>
        { progress with options := options, waiting := none }

/-- Meets an option with an attached value, or without one. -/
def meet (progress : Progress) (flag : Flag) (attached : Option Text) : Except Stop Progress := do
  match flag, attached with
  | .switch _, some _ => .error .usage
  | .switch switch, none =>
      let progress ← progress.settle
      let options ← turnOn progress.options switch
      return { progress with options := options }
  | .setting setting, some value =>
      let progress ← progress.settle
      let options ← give progress.options setting [value]
      return { progress with options := options }
  | .setting setting, none =>
      let progress ← progress.settle
      return { progress with waiting := some (setting, []) }

def readLong (progress : Progress) (t : Text) : Except Stop Progress :=
  let (name, attached) :=
    match Text.cut? '=' t with
    | some (name, value) => (name, some value)
    | none => (t, none)
  match Flag.ofLong? name with
  | some flag => progress.meet flag attached
  | none => .error .usage

def readShort : Text → Progress → Except Stop Progress
  | [], progress => .ok progress
  | letter :: rest, progress =>
      match Flag.ofShort? letter with
      | none => .error .usage
      | some (.switch switch) => do
          let progress ← progress.meet (.switch switch) none
          readShort rest progress
      | some (.setting setting) =>
          match rest with
          | [] => progress.meet (.setting setting) none
          | '=' :: value => progress.meet (.setting setting) (some value)
          | value => progress.meet (.setting setting) (some value)

/-- Reads a positional argument. -/
def readPositional (progress : Progress) (t : Text) : Except Stop Progress := do
  let progress ← progress.settle
  if t.isEmpty || progress.template.isSome then .error .usage
  else return { progress with template := some t }

/-- Reads an argument that is no option: the value that is waited for, or the template. -/
def readPlain (progress : Progress) (t : Text) : Except Stop Progress :=
  match progress.waiting with
  | some (.common, values) => .ok { progress with waiting := some (.common, values ++ [t]) }
  | some (setting, _) => { progress with waiting := some (setting, [t]) }.settle
  | none => progress.readPositional t

def read (progress : Progress) (argument : Text) : Except Stop Progress :=
  if progress.trailing then progress.readPositional argument
  else
    match argument with
    | ['-', '-'] => .ok { progress with trailing := true }
    | '-' :: '-' :: t => progress.readLong t
    | '-' :: c :: t => readShort (c :: t) progress
    | t => progress.readPlain t

def finish (progress : Progress) : Except Stop Options := do
  let progress ← progress.settle
  match progress.template with
  | some template => return { progress.options with template := template }
  | none => .error .usage

end Progress

def Options.ofArguments (arguments : List Text) : Except Stop Options := do
  let progress ← arguments.foldlM Progress.read Progress.start
  progress.finish

end SparqlRequest.CommandLine

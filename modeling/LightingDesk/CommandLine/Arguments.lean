import LightingDesk.Decimal.Literal
/-!
The arguments of the command line: one of three commands, its operands and options. An option takes
its value from behind an equals sign or from the next argument, which must not look like an option
itself.
-/

namespace LightingDesk.CommandLine

inductive Verb where
  | play
  | validate
  | inspect
deriving DecidableEq, Repr

namespace Verb

def name : Verb → String
  | play => "play"
  | validate => "validate"
  | inspect => "inspect"

def all : List Verb := [play, validate, inspect]

def ofName? (name : String) : Option Verb := all.find? fun verb => verb.name == name

def summary : Verb → String
  | play => "Play an act from a show file"
  | validate => "Check every act graph in a show file"
  | inspect => "Print the acts, scenes and fixtures of a show file"

end Verb

inductive Command where
  /-- Plays an act until it ends or for a number of seconds. -/
  | play (path act : String) (seconds : Option Float)
  | validate (path : String)
  | inspect (path : String)

def Command.path : Command → String
  | play path _ _ | validate path | inspect path => path

structure Invocation where
  settings : Option String
  command : Command

/-- What help is about: the program, one of its commands, or help itself. -/
inductive Topic where
  | program
  | verb (verb : Verb)
  | help
deriving DecidableEq, Repr

/-- What the arguments ask for. -/
inductive Request where
  | invoke (invocation : Invocation)
  | help (topic : Topic)
  | version
  /-- Nothing that can be done. -/
  | wrong

/-! ### Options and operands -/

inductive Item where
  /-- An option with the value behind its equals sign. -/
  | long (name : List Char) (value : Option String)
  | short (letters : List Char)
  | operand (text : String)
  /-- From here on, everything is an operand. -/
  | separator

def Item.ofText (text : String) : Item :=
  match text.toList with
  | ['-', '-'] => .separator
  | '-' :: '-' :: rest =>
      let name := rest.takeWhile fun c => c != '='
      match rest.drop name.length with
      | _ :: value => .long name (some (String.ofList value))
      | [] => .long name none
  | '-' :: first :: rest => .short (first :: rest)
  | _ => .operand text

/-- The value of an option and the arguments after it. -/
def takeValue (value : Option String) (rest : List String) : Option (String × List String) :=
  match value, rest with
  | some value, rest => some (value, rest)
  | none, text :: rest =>
      match Item.ofText text with
      | .operand text => some (text, rest)
      | _ => none
  | none, [] => none

/-- What has been read behind a verb. -/
structure Given where
  settings : Option String
  path : Option String
  act : Option String
  seconds : Option Float

def Given.nothing : Given := ⟨none, none, none, none⟩

/-- Paths are not empty, and each part is given at most once. -/
def Given.addPath? (given : Given) (text : String) : Option Given :=
  if given.path.isSome || text.isEmpty then none else some { given with path := some text }

def Given.addSettings? (given : Given) (text : String) : Option Given :=
  if given.settings.isSome || text.isEmpty then none
  else some { given with settings := some text }

def Given.addAct? (given : Given) (text : String) : Option Given :=
  if given.act.isSome then none else some { given with act := some text }

def Given.addSeconds? (given : Given) (text : String) : Option Given :=
  if given.seconds.isSome then none
  else (Decimal.parseFloat? text).map fun seconds => { given with seconds := some seconds }

/-- The option of a name, for one of the verbs. -/
def Given.adder? (verb : Verb) (name : List Char) : Option (Given → String → Option Given) :=
  if name = "config".toList then some addSettings?
  else if verb = .play ∧ name = "act".toList then some addAct?
  else if verb = .play ∧ name = "for".toList then some addSeconds?
  else none

/-- Puts together what was given; settings behind the verb go before outer ones. -/
def Given.request (given : Given) (outer : Option String) (verb : Verb) : Request :=
  let settings := given.settings.or outer
  match verb, given.path, given.act with
  | .play, some path, some act => .invoke ⟨settings, .play path act given.seconds⟩
  | .validate, some path, _ => .invoke ⟨settings, .validate path⟩
  | .inspect, some path, _ => .invoke ⟨settings, .inspect path⟩
  | _, _, _ => .wrong

/-- Operands only. -/
def Given.addPaths? (given : Given) (texts : List String) : Option Given :=
  texts.foldlM addPath? given

/-- The arguments behind a verb. Each step takes one or two. -/
def behind (outer : Option String) (verb : Verb) : Nat → Given → List String → Request
  | 0, _, _ => .wrong
  | _ + 1, given, [] => given.request outer verb
  | steps + 1, given, text :: rest =>
      match Item.ofText text with
      | .operand text =>
          (given.addPath? text).elim .wrong fun given => behind outer verb steps given rest
      | .separator => (given.addPaths? rest).elim .wrong fun given => given.request outer verb
      | .short ('h' :: _) => .help (.verb verb)
      | .short _ => .wrong
      | .long name value =>
          if name = "help".toList then
            if value.isNone then .help (.verb verb) else .wrong
          else
            match Given.adder? verb name with
            | none => .wrong
            | some add =>
                match takeValue value rest with
                | none => .wrong
                | some (value, rest) =>
                    (add given value).elim .wrong fun given => behind outer verb steps given rest

/-- The arguments behind the verb `help`. -/
def helpOn : List String → Request
  | [] => .help .program
  | ["help"] => .help .help
  | [name] => (Verb.ofName? name).elim .wrong fun verb => .help (.verb verb)
  | _ => .wrong

/-- The arguments up to the verb. -/
def before : Nat → Option String → List String → Request
  | 0, _, _ => .wrong
  | _ + 1, _, [] => .wrong
  | steps + 1, settings, text :: rest =>
      match Item.ofText text with
      | .operand "help" => helpOn rest
      | .operand text =>
          (Verb.ofName? text).elim .wrong fun verb =>
            behind settings verb (rest.length + 1) .nothing rest
      | .separator => .wrong
      | .short ('h' :: _) => .help .program
      | .short ('V' :: _) => .version
      | .short _ => .wrong
      | .long name value =>
          if name = "help".toList then if value.isNone then .help .program else .wrong
          else if name = "version".toList then if value.isNone then .version else .wrong
          else if name = "config".toList then
            match takeValue value rest with
            | none => .wrong
            | some (value, rest) =>
                if settings.isSome || value.isEmpty then .wrong
                else before steps (some value) rest
          else .wrong

def Request.ofArguments (arguments : List String) : Request :=
  before (arguments.length + 1) none arguments

end LightingDesk.CommandLine

import PageScript.Datum
import PageScript.Text.Digit
import PageScript.Text.Quoted
/-!
Reading the arguments of a command line: options, which begin with a dash, and
words.  A long option may be cut short as long as it stays clear which one is
meant; its value is the next word, or stands behind an equals sign.  Two dashes
behind an equals sign are no value.  Short options may stand together behind one dash.
-/

namespace PageScript.CommandLine

inductive OptionKind where
  /-- It asks for help, and nothing else is done. -/
  | help
  /-- It takes no value. -/
  | switch
  /-- It takes a value, which may have to be one of some. -/
  | value (choices? : Option (List Text))
  deriving DecidableEq, Repr

structure OptionSpec where
  names : List Text
  kind : OptionKind
  isRequired : Bool
  deriving DecidableEq, Repr

namespace OptionSpec

def takesValue (option : OptionSpec) : Bool :=
  match option.kind with
  | .value _ => true
  | .help | .switch => false

def title (option : OptionSpec) : Text := ("/" : Text).intercalate option.names

end OptionSpec

/-- What a program, or a command of it, understands: its options, and the names of
the words it needs, in order. -/
structure Usage where
  program : Text
  options : List OptionSpec
  words : List Text
  deriving DecidableEq, Repr

inductive UsageError where
  /-- More than one option begins like this one. -/
  | ambiguous (argument : Text) (names : List Text)
  | valueExpected (option : OptionSpec)
  | valueIgnored (option : OptionSpec) (value : Text)
  | noChoice (title value : Text) (choices : List Text)
  | missing (titles : List Text)
  | unrecognized (arguments : List Text)
  deriving DecidableEq, Repr

def listed (texts : List Text) : Text := (", " : Text).intercalate texts

def UsageError.message : UsageError → Text
  | .ambiguous argument names =>
      "ambiguous option: " ++ argument ++ " could match " ++ listed names
  | .valueExpected option => "argument " ++ option.title ++ ": expected one argument"
  | .valueIgnored option value =>
      "argument " ++ option.title ++ ": ignored explicit argument " ++ Text.quoted value
  | .noChoice title value choices =>
      "argument " ++ title ++ ": invalid choice: " ++ Text.quoted value ++ " (choose from " ++
        listed (choices.map Text.quoted) ++ ")"
  | .missing titles => "the following arguments are required: " ++ listed titles
  | .unrecognized arguments => "unrecognized arguments: " ++ (" " : Text).intercalate arguments

/-- Why the arguments lead to no work: help is asked for, or something is wrong. -/
inductive Stop where
  | help (program : Text)
  | error (program : Text) (error : UsageError)
  deriving DecidableEq, Repr

def errorLine (program : Text) (error : UsageError) : Text :=
  program ++ ": error: " ++ error.message

inductive Sense where
  | word
  /-- Two dashes: all that follows are words. -/
  | separator
  /-- An option, by the name that is meant, and the value that is given with it. -/
  | option (option : OptionSpec) (name : Text) (value? : Option Text)
  | unknown
  deriving DecidableEq, Repr

structure Argument where
  raw : Text
  sense : Sense
  deriving DecidableEq, Repr

/-- What is known of an option that takes a value: it was not given, or without a value,
or with one. -/
inductive Setting where
  | absent
  | empty
  | value (text : Text)
  deriving DecidableEq, Repr

namespace Setting

def value? : Setting → Option Text
  | .value text => some text
  | .absent | .empty => none

/-- The value as a record may hold it: an option without a value has an empty list of
values. -/
def data : Setting → Datum
  | .absent => .null
  | .empty => .list []
  | .value text => .text text

def shown : Setting → Text
  | .absent => "None"
  | .empty => "[]"
  | .value text => text

end Setting

namespace Usage

def find? (usage : Usage) (name : Text) : Option OptionSpec :=
  usage.options.find? fun option => option.names.contains name

def named (usage : Usage) : List (Text × OptionSpec) :=
  usage.options.flatMap fun option => option.names.map fun name => (name, option)

/-- A text cut at its first equals sign. -/
def cutAtEquals (s : Text) : Text × Option Text :=
  match s.dropWhile (· != .char '=') with
  | [] => (s, none)
  | _ :: value => (s.takeWhile (· != .char '='), some value)

/-- The options that an argument may mean: those with names that begin like it, or
the short one that it begins with. -/
def meanings (usage : Usage) (s : Text) : List (OptionSpec × Text × Option Text) :=
  match s with
  | .char '-' :: .char '-' :: _ =>
      let (beginning, value?) := cutAtEquals s
      (usage.named.filter fun (name, _) => beginning.isPrefixOf name).map
        fun (name, option) => (option, name, value?)
  | _ =>
      (usage.named.filter fun (name, _) => name == s.take 2).map
        fun (name, option) => (option, name, some (s.drop 2))

/-- Whether a text consists of digits, of which there may be none in front of a point. -/
def isNumber (s : Text) : Bool :=
  let whole := s.takeWhile Text.isDecimal
  match s.dropWhile Text.isDecimal with
  | [] => !whole.isEmpty
  | .char '.' :: fraction => !fraction.isEmpty && fraction.all Text.isDecimal
  | _ => false

/-- Whether an argument is a negative number, which is a word.  One line break behind it
does not count. -/
def isNegativeNumber (s : Text) : Bool :=
  match s with
  | .char '-' :: body =>
      isNumber (if body.getLast? == some (.char '\n') then body.dropLast else body)
  | _ => false

def senseOf (usage : Usage) (argument : Text) : Except UsageError Sense :=
  if argument.head? != some (.char '-') then .ok .word
  else
    match usage.find? argument with
    | some option => .ok (.option option argument none)
    | none =>
        if argument.length == 1 then .ok .word
        else
          let (name, value?) := cutAtEquals argument
          match value?, usage.find? name with
          | some value, some option => .ok (.option option name (some value))
          | _, _ =>
              match usage.meanings argument with
              | [(option, name, value?)] => .ok (.option option name value?)
              | [] =>
                  .ok (if isNegativeNumber argument || argument.contains (.char ' ') then .word
                    else .unknown)
              | found => .error (.ambiguous argument (found.map fun (_, name, _) => name))

def separator : Text := "--"

def sensesOf (usage : Usage) : List Text → Except UsageError (List Argument)
  | [] => .ok []
  | argument :: rest =>
      if argument == separator then
        .ok (⟨argument, .separator⟩ :: rest.map fun word => ⟨word, .word⟩)
      else do
        let sense ← usage.senseOf argument
        return ⟨argument, sense⟩ :: (← usage.sensesOf rest)

structure Given where
  option : OptionSpec
  value? : Option Text
  deriving DecidableEq, Repr

/-- An option with a value that stands in the same argument. -/
def Given.withValue (option : OptionSpec) (value : Text) : Given :=
  ⟨option, if value = separator then none else some value⟩

/-- What one argument gives: options with their values, and at the end an option
whose value is still to come. -/
structure Gift where
  given : List Given
  pending? : Option OptionSpec
  deriving DecidableEq, Repr

def isShort (name : Text) : Bool := (name.drop 1).head? != some (.char '-')

/-- What an option gives without a value in the same argument. -/
def Gift.alone (option : OptionSpec) : Gift :=
  if option.takesValue then ⟨[], some option⟩ else ⟨[⟨option, none⟩], none⟩

/-- The options that stand together behind one dash, where the text is what follows
the first one. -/
def together (usage : Usage) (option : OptionSpec) : Text → Except UsageError Gift
  | [] => .ok (.alone option)
  | c :: s =>
      if option.takesValue then .ok ⟨[.withValue option (c :: s)], none⟩
      else
        match usage.find? ['-', c] with
        | none => .error (.valueIgnored option (c :: s))
        | some next => do
            let gift ← usage.together next s
            return { gift with given := ⟨option, none⟩ :: gift.given }

/-- What an option gives with the value that stands in the same argument. -/
def giftOf (usage : Usage) (option : OptionSpec) (name : Text) :
    Option Text → Except UsageError Gift
  | none => .ok (.alone option)
  | some value =>
      if option.takesValue then .ok ⟨[.withValue option value], none⟩
      else if isShort name && value != [] then usage.together option value
      else .error (.valueIgnored option value)

def check (given : Given) : Except UsageError Unit :=
  match given.option.kind, given.value? with
  | .value (some choices), some value =>
      if choices.contains value then .ok ()
      else .error (.noChoice given.option.title value choices)
  | _, _ => .ok ()

/-- What was read from arguments: the options that were given and the words, in
order, and what could not be understood. -/
structure Found where
  given : List Given
  words : List Text
  extras : List Text
  deriving DecidableEq, Repr

def Found.nothing : Found := ⟨[], [], []⟩

/-- Puts options to what was read.  Help is given as soon as it is asked for. -/
def Found.addAll (program : Text) (found : Found) : List Given → Except Stop Found
  | [] => .ok found
  | given :: rest =>
      if given.option.kind == .help then .error (.help program)
      else
        match check given with
        | .error error => .error (.error program error)
        | .ok () => addAll program { found with given := found.given ++ [given] } rest

def refuse {α : Type} (usage : Usage) (error : UsageError) : Except Stop α :=
  .error (.error usage.program error)

/-- Reads an argument that is an option, and the word behind it if that is its
value; gives what was read and the arguments that are left. -/
def readOption (usage : Usage) (found : Found) (gift : Gift) (rest : List Argument) :
    Except Stop (Found × List Argument) :=
  match gift.pending? with
  | none => do return (← found.addAll usage.program gift.given, rest)
  | some option =>
      match rest with
      | ⟨value, .word⟩ :: rest => do
          return (← found.addAll usage.program (gift.given ++ [⟨option, some value⟩]), rest)
      | _ => usage.refuse (.valueExpected option)

/-- The arguments without a separator that they begin with. -/
def dropSeparator : List Argument → List Argument
  | ⟨_, .separator⟩ :: rest => rest
  | rest => rest

/-- Reads arguments, at most `fuel`; as many words are taken as are `wanted`. -/
def readFrom (usage : Usage) : Nat → Found → (wanted : Nat) → List Argument → Except Stop Found
  | 0, found, _, _ => .ok found
  | _, found, _, [] => .ok found
  | fuel + 1, found, wanted, argument :: rest =>
      let extra := { found with extras := found.extras ++ [argument.raw] }
      match argument.sense with
      | .unknown => usage.readFrom fuel extra wanted rest
      | .option option name value? =>
          match usage.giftOf option name value? with
          | .error error => usage.refuse error
          | .ok gift => do
              let (found, rest) ← usage.readOption found gift rest
              usage.readFrom fuel found wanted rest
      | .word =>
          if wanted == 0 then usage.readFrom fuel extra wanted rest
          else
            usage.readFrom fuel { found with words := found.words ++ [argument.raw] } (wanted - 1)
              (dropSeparator rest)
      | .separator =>
          if wanted == 0 || rest.isEmpty then usage.readFrom fuel extra wanted rest
          else usage.readFrom fuel found wanted rest

/-- The titles of what is needed and was not given: words first. -/
def missingTitles (usage : Usage) (found : Found) : List Text :=
  usage.words.drop found.words.length ++
    (usage.options.filter fun option =>
      option.isRequired && !found.given.any fun given => given.option == option).map
        OptionSpec.title

/-- Reads arguments.  What is not understood is left to the caller. -/
def read (usage : Usage) (arguments : List Text) : Except Stop Found :=
  match usage.sensesOf arguments with
  | .error error => usage.refuse error
  | .ok pieces => do
      let found ← usage.readFrom (pieces.length + 1) .nothing usage.words.length pieces
      match usage.missingTitles found with
      | [] => return found
      | titles => usage.refuse (.missing titles)

def Found.count (found : Found) (option : OptionSpec) : Nat :=
  found.given.countP fun given => given.option == option

/-- What is known of an option that takes a value.  Of several times that it was given
the last one counts. -/
def Found.setting (found : Found) (option : OptionSpec) : Setting :=
  match found.given.reverse.find? fun given => given.option == option with
  | none => .absent
  | some ⟨_, none⟩ => .empty
  | some ⟨_, some text⟩ => .value text

end Usage

end PageScript.CommandLine

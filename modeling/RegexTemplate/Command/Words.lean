/-!
# Words of a command line

A command line is a row of words.  A word may name options: one by its long name behind two hyphens,
or several by their letters behind one.  The value of an option is attached to it, with or without
an equals sign, or is the next word unless that begins with a hyphen.  All other words are operands,
and behind a word of two hyphens there are only operands.
-/

namespace RegexTemplate.Command

/-- What an option does. -/
inductive Effect where
  /-- It is given or not. -/
  | flag
  /-- It has one value. -/
  | value
  /-- It may be given several times, each time with a value. -/
  | values
  /-- It asks for help, whatever follows. -/
  | help
  /-- It asks for the version, whatever follows. -/
  | version
deriving DecidableEq, Repr

/-- An option that a command knows. -/
structure Switch where
  long : String
  short : Option Char
  effect : Effect
deriving DecidableEq, Repr

/-- The reasons why a command line is refused. -/
inductive UsageError where
  | unknownOption (word : String)
  | repeatedOption (name : String)
  | missingValue (name : String)
  | unexpectedValue (name : String)
  | unexpectedOperand (word : String)
  | missingOperand (name : String)
  | missingCommand
  | unknownCommand (word : String)
deriving DecidableEq, Repr

/-- What a reason is called in a message. -/
def UsageError.message : UsageError → String
  | .unknownOption word => "unexpected argument '" ++ word ++ "' found"
  | .repeatedOption name => "the argument '--" ++ name ++ "' cannot be used multiple times"
  | .missingValue name => "a value is required for '--" ++ name ++ "' but none was supplied"
  | .unexpectedValue name => "the argument '--" ++ name ++ "' takes no value"
  | .unexpectedOperand word => "unexpected argument '" ++ word ++ "' found"
  | .missingOperand name => "the argument '<" ++ name ++ ">' is required"
  | .missingCommand => "a command is required"
  | .unknownCommand word => "unrecognized subcommand '" ++ word ++ "'"

/-- Where reading a command line ends without a command to run. -/
inductive Halt where
  /-- Help is asked for, about one command or about all. -/
  | help (topic : Option String)
  | version
  | refused (error : UsageError)
deriving DecidableEq, Repr

/-- What has been read of a command line. -/
structure Reading where
  /-- The options with their values, in order. -/
  given : List (String × String) := []
  operands : List String := []
  /-- The option whose value is the next word. -/
  pending : Option String := none
  /-- Whether all words that follow are operands. -/
  escaped : Bool := false
deriving DecidableEq, Repr

namespace Reading

/-- Whether an option is given. -/
def has (reading : Reading) (name : String) : Bool := reading.given.any (·.1 == name)

/-- The values of an option. -/
def values (reading : Reading) (name : String) : List String :=
  (reading.given.filter (·.1 == name)).map Prod.snd

/-- Records an option with its value. -/
def give (reading : Reading) (name value : String) : Reading :=
  { reading with given := reading.given ++ [(name, value)], pending := none }

/-- Takes an option with the value that is attached to it, if any. -/
def take (topic : Option String) (reading : Reading) (option : Switch) (attached : Option String) :
    Except Halt Reading :=
  let repeated := reading.has option.long && option.effect != .values
  match option.effect, attached with
  | .help, _ => .error (.help topic)
  | .version, _ => .error .version
  | .flag, some _ => .error (.refused (.unexpectedValue option.long))
  | _, _ =>
    if repeated then .error (.refused (.repeatedOption option.long))
    else
      match option.effect, attached with
      | .flag, _ => .ok (reading.give option.long "")
      | _, some value => .ok (reading.give option.long value)
      | _, none => .ok { reading with pending := some option.long }

/-- Takes a word behind two hyphens: the long name of an option, and the value behind an equals
sign. -/
def takeLong (topic : Option String) (known : List Switch) (reading : Reading) (word : List Char) :
    Except Halt Reading :=
  let name := String.ofList (word.takeWhile (· != '='))
  let attached : Option String :=
    match word.dropWhile (· != '=') with
    | [] => none
    | _ :: value => some (String.ofList value)
  match known.find? (·.long == name) with
  | none => .error (.refused (.unknownOption ("--" ++ String.ofList word)))
  | some option =>
    match option.effect, attached with
    | .help, some _ => .error (.refused (.unexpectedValue name))
    | .version, some _ => .error (.refused (.unexpectedValue name))
    | _, _ => reading.take topic option attached

/-- Takes the letters behind one hyphen. -/
def takeLetters (topic : Option String) (known : List Switch) (reading : Reading) :
    List Char → Except Halt Reading
  | [] => .ok reading
  | letter :: rest =>
    match known.find? (·.short == some letter) with
    | none => .error (.refused (.unknownOption ("-" ++ String.ofList [letter])))
    | some option =>
      if option.effect = .value ∨ option.effect = .values then
        match rest with
        | [] => reading.take topic option none
        | '=' :: value => reading.take topic option (some (String.ofList value))
        | value => reading.take topic option (some (String.ofList value))
      else do
        let reading ← reading.take topic option none
        reading.takeLetters topic known rest

/-- Takes a word. -/
def takeWord (topic : Option String) (known : List Switch) (reading : Reading) (word : String) :
    Except Halt Reading :=
  if reading.escaped then .ok { reading with operands := reading.operands ++ [word] }
  else
    match reading.pending, word.toList with
    | some name, '-' :: _ :: _ => .error (.refused (.missingValue name))
    | some name, _ => .ok (reading.give name word)
    | none, ['-', '-'] => .ok { reading with escaped := true }
    | none, '-' :: '-' :: long => reading.takeLong topic known long
    | none, '-' :: letter :: letters => reading.takeLetters topic known (letter :: letters)
    | none, _ => .ok { reading with operands := reading.operands ++ [word] }

/-- What has been read, unless the value of an option is missing. -/
def finish (reading : Reading) : Except Halt Reading :=
  match reading.pending with
  | some name => .error (.refused (.missingValue name))
  | none => .ok reading

end Reading

/-- Reads the words of a command that has a number of operands. -/
def readWords (topic : Option String) (known : List Switch) (count : Nat) (words : List String) :
    Except Halt Reading := do
  let reading ← words.foldlM
    (fun (reading : Reading) word => do
      let reading ← reading.takeWord topic known word
      match reading.operands[count]? with
      | some operand => .error (.refused (.unexpectedOperand operand))
      | none => .ok reading)
    {}
  reading.finish

end RegexTemplate.Command

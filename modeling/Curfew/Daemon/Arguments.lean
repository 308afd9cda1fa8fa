import Curfew.Environment

namespace Curfew

/-! The command line of the daemon. -/

/-- What is given on the command line. -/
structure Arguments where
  config : Option String := none
  dataDir : Option String := none
  logLevel : Option String := none
deriving DecidableEq, Repr

inductive ArgumentError where
  /-- Not an error of the user's, who only asks how to use the command. -/
  | helpWanted
  | unexpected (argument : String)
  | missingValue (option : String)
  | emptyPath (option : String)
  | repeatedOption (option : String)
deriving DecidableEq, Repr

/-- The options, each of which takes a value. -/
inductive CommandOption where
  | config
  | dataDir
  | logLevel
deriving DecidableEq, Repr

namespace CommandOption

def longName : CommandOption → String
  | .config => "config"
  | .dataDir => "data-dir"
  | .logLevel => "log-level"

def letter : CommandOption → Char
  | .config => 'c'
  | .dataDir => 'd'
  | .logLevel => 'l'

def all : List CommandOption := [.config, .dataDir, .logLevel]

def ofLongName? (name : String) : Option CommandOption := all.find? (·.longName == name)

def ofLetter? (letter : Char) : Option CommandOption := all.find? (·.letter == letter)

end CommandOption

namespace Arguments

/-- An option is given once, and a path is not empty. -/
def set (arguments : Arguments) (option : CommandOption) (value : String) :
    Except ArgumentError Arguments :=
  match option with
  | .config =>
      if arguments.config.isSome then .error (.repeatedOption option.longName)
      else if value.isEmpty then .error (.emptyPath option.longName)
      else .ok { arguments with config := some value }
  | .dataDir =>
      if arguments.dataDir.isSome then .error (.repeatedOption option.longName)
      else if value.isEmpty then .error (.emptyPath option.longName)
      else .ok { arguments with dataDir := some value }
  | .logLevel =>
      if arguments.logLevel.isSome then .error (.repeatedOption option.longName)
      else .ok { arguments with logLevel := some value }

/-- An argument as it is written. -/
inductive Token where
  /-- Nothing but values would follow. -/
  | terminator
  | long (name : String) (value : Option String)
  /-- Letters behind one dash.  What follows a letter may be its value. -/
  | short (letter : Char) (rest : List Char)
  | plain (text : String)
deriving DecidableEq, Repr

def Token.ofText (text : String) : Token :=
  match text.toList with
  | ['-', '-'] => .terminator
  | '-' :: '-' :: name =>
      match name.dropWhile (· ≠ '=') with
      | [] => .long (String.ofList name) none
      | _ :: value =>
          .long (String.ofList (name.takeWhile (· ≠ '='))) (some (String.ofList value))
  | '-' :: letter :: rest => .short letter rest
  | _ => .plain text

/-- An option and its value, if that is attached to it. -/
def Token.option : Token → Except ArgumentError (CommandOption × Option String)
  | .terminator => .error (.unexpected "--")
  | .plain text => .error (.unexpected text)
  | .long "help" none => .error .helpWanted
  | .long name value =>
      match CommandOption.ofLongName? name with
      | some option => .ok (option, value)
      | none => .error (.unexpected s!"--{name}")
  | .short 'h' _ => .error .helpWanted
  | .short letter rest =>
      match CommandOption.ofLetter? letter with
      | none => .error (.unexpected (String.ofList ['-', letter]))
      | some option =>
          match rest with
          | [] => .ok (option, none)
          | '=' :: value => .ok (option, some (String.ofList value))
          | value => .ok (option, some (String.ofList value))

/-- Reads the arguments after those that are known already. -/
def readAfter (known : Arguments) : List String → Except ArgumentError Arguments
  | [] => .ok known
  | text :: rest =>
      match Token.ofText text with
      | .terminator =>
          match rest with
          | [] => .ok known
          | extra :: _ => .error (.unexpected extra)
      | token =>
          match token.option with
          | .error error => .error error
          | .ok (option, some value) =>
              match known.set option value with
              | .ok known => readAfter known rest
              | .error error => .error error
          | .ok (option, none) =>
              match rest with
              | [] => .error (.missingValue option.longName)
              | value :: rest =>
                  match Token.ofText value with
                  | .plain value =>
                      match known.set option value with
                      | .ok known => readAfter known rest
                      | .error error => .error error
                  | _ => .error (.missingValue option.longName)

def read (texts : List String) : Except ArgumentError Arguments := readAfter {} texts

/-- The data directory of the environment counts where none is given, and is no empty path
then. -/
def withEnvironment (arguments : Arguments) (environment : Environment) :
    Except ArgumentError Arguments :=
  match arguments.dataDir, environment.dataDir with
  | none, some directory => arguments.set .dataDir directory
  | _, _ => .ok arguments

end Arguments

end Curfew

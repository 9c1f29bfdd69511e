/-! # Command line arguments
The commands with their options. An option takes one value, behind an equals sign or as the next
argument, and may be given once; behind two hyphens everything is an operand. -/
namespace Asymptote

inductive OutputFormat where
  | text
  | json
  deriving DecidableEq, Repr

inductive Command where
  | analyze (path : String) (language? title? : Option String) (format : OutputFormat)
      (config? : Option String)
  | check (file time space : String) (language? : Option String) (format : OutputFormat)
      (config? : Option String)
  | triple (title? brute? better? optimal? claims? language? : Option String)
      (format : OutputFormat) (config? : Option String)
  | validateConfig (path? : Option String)
  | showConfig (path? : Option String)
  deriving DecidableEq, Repr

inductive UsageFault where
  | missingCommand
  | unknownCommand (name : String)
  | unknownOption (name : String)
  | repeatedOption (name : String)
  | missingValue (name : String)
  | emptyPath (name : String)
  | unknownFormat (value : String)
  | missingOption (name : String)
  | missingOperand (name : String)
  | unexpectedOperand (value : String)
  deriving DecidableEq, Repr

namespace UsageFault

def message : UsageFault → String
  | missingCommand => "a command is required: analyze, check, triple or config"
  | unknownCommand name => "unknown command " ++ name
  | unknownOption name => "unexpected argument " ++ name
  | repeatedOption name => "--" ++ name ++ " cannot be used more than once"
  | missingValue name => "--" ++ name ++ " needs a value"
  | emptyPath name => name ++ " must not be empty"
  | unknownFormat value => "invalid format " ++ value ++ ": text or json"
  | missingOption name => "--" ++ name ++ " is required"
  | missingOperand name => name ++ " is required"
  | unexpectedOperand value => "unexpected argument " ++ value

end UsageFault

structure Arguments where
  options : List (String × String) := []
  operands : List String := []
  deriving DecidableEq, Repr

namespace Arguments

def looksLikeOption (argument : String) : Bool :=
  match argument.toList with
  | '-' :: _ :: _ => true
  | _ => false

def longOption? (argument : String) : Option (String × Option String) :=
  match argument.toList with
  | '-' :: '-' :: cs =>
    let value? :=
      match cs.dropWhile (· ≠ '=') with
      | [] => none
      | _ :: value => some (String.ofList value)
    some (String.ofList (cs.takeWhile (· ≠ '=')), value?)
  | _ => none

def addOption (a : Arguments) (name value : String) : Except UsageFault Arguments :=
  if a.options.any (·.1 = name) then .error (.repeatedOption name)
  else .ok { a with options := a.options ++ [(name, value)] }

def addOperands (a : Arguments) (values : List String) : Arguments :=
  { a with operands := a.operands ++ values }

def scan (known : List String) (a : Arguments) (pending? : Option String) :
    List String → Except UsageFault Arguments
  | [] =>
    match pending? with
    | some name => .error (.missingValue name)
    | none => .ok a
  | argument :: others =>
    match pending? with
    | some name =>
      if looksLikeOption argument then .error (.missingValue name)
      else do
        let a ← a.addOption name argument
        scan known a none others
    | none =>
      if argument = "--" then .ok (a.addOperands others)
      else if !looksLikeOption argument then scan known (a.addOperands [argument]) none others
      else
        match longOption? argument with
        | none => .error (.unknownOption argument)
        | some (name, value?) =>
          if !known.contains name then .error (.unknownOption argument)
          else
            match value? with
            | none => scan known a (some name) others
            | some value => do
              let a ← a.addOption name value
              scan known a none others

variable (a : Arguments)

def option? (name : String) : Option String :=
  (a.options.find? (·.1 = name)).map (·.2)

def required (name : String) : Except UsageFault String :=
  match a.option? name with
  | some value => .ok value
  | none => .error (.missingOption name)

def path? (name : String) : Except UsageFault (Option String) :=
  match a.option? name with
  | some "" => .error (.emptyPath name)
  | value? => .ok value?

def format : Except UsageFault OutputFormat :=
  match a.option? "format" with
  | none => .ok .text
  | some "text" => .ok .text
  | some "json" => .ok .json
  | some value => .error (.unknownFormat value)

def onlyPath (name : String) : Except UsageFault String :=
  match a.operands with
  | [] => .error (.missingOperand name)
  | [""] => .error (.emptyPath name)
  | [value] => .ok value
  | _ :: value :: _ => .error (.unexpectedOperand value)

def noOperands : Except UsageFault Unit :=
  match a.operands with
  | [] => .ok ()
  | value :: _ => .error (.unexpectedOperand value)

end Arguments

namespace Command
open Arguments (scan)

def readAnalyze (arguments : List String) : Except UsageFault Command := do
  let a ← scan ["lang", "title", "format", "config"] {} none arguments
  return .analyze (← a.onlyPath "path") (a.option? "lang") (a.option? "title") (← a.format)
    (← a.path? "config")

def readCheck (arguments : List String) : Except UsageFault Command := do
  let a ← scan ["time", "space", "lang", "format", "config"] {} none arguments
  return .check (← a.onlyPath "file") (← a.required "time") (← a.required "space")
    (a.option? "lang") (← a.format) (← a.path? "config")

def readTriple (arguments : List String) : Except UsageFault Command := do
  let a ← scan
    ["title", "brute", "better", "optimal", "claims", "lang", "format", "config"] {} none arguments
  a.noOperands
  return .triple (a.option? "title") (← a.path? "brute") (← a.path? "better")
    (← a.path? "optimal") (← a.path? "claims") (a.option? "lang") (← a.format)
    (← a.path? "config")

def readConfig (action : Option String → Command) (arguments : List String) :
    Except UsageFault Command := do
  let a ← scan ["path"] {} none arguments
  a.noOperands
  return action (← a.path? "path")

def read : List String → Except UsageFault Command
  | [] => .error .missingCommand
  | "analyze" :: arguments => readAnalyze arguments
  | "check" :: arguments => readCheck arguments
  | "triple" :: arguments => readTriple arguments
  | ["config"] => .error .missingCommand
  | "config" :: "validate" :: arguments => readConfig .validateConfig arguments
  | "config" :: "show" :: arguments => readConfig .showConfig arguments
  | "config" :: name :: _ => .error (.unknownCommand name)
  | name :: _ => .error (.unknownCommand name)

end Command
end Asymptote

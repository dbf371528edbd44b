/-!
# Command line arguments

An argument is an option when it begins with a minus sign and is more than that sign.
An option may carry its value after an equals sign; otherwise the value is the next
argument, which then must not be an option. Two minus signs alone end the options. No
option may be given twice.
-/

set_option autoImplicit false

namespace SingleWriter.Command

inductive Argument where
  /-- Two minus signs alone. -/
  | terminator
  | long (name : String) (value : Option String)
  | short (letter : Char) (rest : String)
  | word (s : String)

def Argument.ofText (s : String) : Argument :=
  match s.toList with
  | ['-', '-'] => .terminator
  | '-' :: '-' :: cs =>
    let (name, rest) := cs.span (· ≠ '=')
    .long (String.ofList name) (rest.tail?.map String.ofList)
  | '-' :: c :: cs => .short c (String.ofList cs)
  | _ => .word s

def isValue (s : String) : Bool :=
  match Argument.ofText s with
  | .word _ => true
  | _ => false

structure Arguments where
  options : List (String × String) := []
  words : List String := []

namespace Arguments

def addWord (s : String) (a : Arguments) : Arguments := { a with words := s :: a.words }

def addOption (name value : String) (a : Arguments) : Option Arguments :=
  if (a.options.lookup name).isSome then none
  else some { a with options := (name, value) :: a.options }

/-- Arguments with options of these names, each with a value. -/
def read (names : List String) : List String → Option Arguments
  | [] => some {}
  | s :: rest =>
    match Argument.ofText s with
    | .terminator => some { words := rest }
    | .word s => (read names rest).map (addWord s)
    | .short _ _ => none
    | .long name value =>
      if name ∉ names then none
      else match value with
        | some value => (read names rest).bind (addOption name value)
        | none =>
          match rest with
          | [] => none
          | value :: rest =>
            if isValue value then (read names rest).bind (addOption name value) else none

end Arguments

/-- The options before the command. -/
structure Preamble where
  config : Option String := none
  debug : Bool := false

namespace Preamble

def withConfig (path : String) (p : Preamble) : Option Preamble :=
  if p.config.isSome then none else some { p with config := some path }

def withDebug (p : Preamble) : Option Preamble :=
  if p.debug then none else some { p with debug := true }

/-- A short option carries its value right behind it or after an equals sign. -/
def attached (s : String) : Option String :=
  match s.toList with
  | [] => none
  | '=' :: cs => some (String.ofList cs)
  | cs => some (String.ofList cs)

/-- Splits the arguments at the first word. -/
def read (p : Preamble) : List String → Option (Preamble × List String)
  | [] => some (p, [])
  | s :: rest =>
    match Argument.ofText s with
    | .word _ => some (p, s :: rest)
    | .terminator => none
    | .long "debug" none => p.withDebug.bind fun p => read p rest
    | .long "config" (some path) => (p.withConfig path).bind fun p => read p rest
    | .long "config" none => readPath p rest
    | .short 'c' text =>
      match attached text with
      | some path => (p.withConfig path).bind fun p => read p rest
      | none => readPath p rest
    | _ => none
where
  readPath (p : Preamble) : List String → Option (Preamble × List String)
    | [] => none
    | path :: rest =>
      if isValue path then (p.withConfig path).bind fun p => read p rest else none

end Preamble

end SingleWriter.Command

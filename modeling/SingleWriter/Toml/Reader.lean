import SingleWriter.Toml.Quoted
import SingleWriter.Toml.Scalar

/-!
# Reading TOML

A document is a list of statements, one to a line: a heading in brackets, or a key,
an equals sign and a value. Comments run to the end of their line. Arrays may go over
several lines and end with a comma, inline tables may not. Arrays and inline tables
nest to a bounded depth, and a key has a bounded number of parts. A byte order mark
before the first statement is ignored.

The fuel of the readers is taken from the length of the text; each step spends some.
-/

set_option autoImplicit false

namespace SingleWriter.Toml

/-- How deep values nest, and how many parts a key has, at most. -/
def depthLimit : Nat := 79

def skipSpace (cs : List Char) : List Char := cs.dropWhile isSpace

/-! ## Line ends -/

/-- What follows the line, of which only blanks and a comment may be left. -/
def lineEnd (cs : List Char) : Option (List Char) :=
  let rest := match skipSpace cs with
    | '#' :: cs => cs.dropWhile isPlain
    | cs => cs
  match rest with
  | [] => some []
  | '\n' :: cs => some cs
  | '\r' :: '\n' :: cs => some cs
  | _ => none

/-- Skips blanks, line ends and comments. -/
def skipLines (inComment : Bool) : List Char → List Char
  | [] => []
  | '\r' :: '\n' :: cs => skipLines false cs
  | c :: cs =>
    if c = '\n' then skipLines false cs
    else if inComment then if isPlain c then skipLines true cs else c :: cs
    else if isSpace c then skipLines false cs
    else if c = '#' then skipLines true cs
    else c :: cs

/-! ## Keys -/

def isKeyChar (c : Char) : Bool := c.isAlphanum || c == '_' || c == '-'

def keyPart (cs : List Char) : Option (String × List Char) :=
  match cs with
  | '"' :: _ => lineText cs
  | '\'' :: _ => lineText cs
  | _ =>
    match cs.span isKeyChar with
    | ([], _) => none
    | (name, rest) => some (String.ofList name, rest)

/-- A dotted key of at most `parts` parts, with the blanks around it. -/
def key (parts : Nat) (cs : List Char) : Option (List String × List Char) :=
  match parts with
  | 0 => none
  | parts + 1 =>
    match keyPart (skipSpace cs) with
    | none => none
    | some (name, rest) =>
      match skipSpace rest with
      | '.' :: rest => (key parts rest).map fun (names, after) => (name :: names, after)
      | rest => some ([name], rest)

/-- A key and the equals sign after it. -/
def keyOf (cs : List Char) : Option (List String × List Char) :=
  match key depthLimit cs with
  | some (k, '=' :: rest) => some (k, skipSpace rest)
  | _ => none

/-! ## Values -/

mutual

def value : Nat → Nat → List Char → Option (Toml × List Char)
  | 0, _, _ => none
  | fuel + 1, depth, cs =>
    match cs with
    | '"' :: _ => (text cs).map fun (s, after) => (.string s, after)
    | '\'' :: _ => (text cs).map fun (s, after) => (.string s, after)
    | '[' :: rest =>
      match depth with
      | 0 => none
      | depth + 1 => (items fuel depth (skipLines false rest)).map fun (vs, after) => (.array vs, after)
    | '\x7b' :: rest =>
      match depth with
      | 0 => none
      | depth + 1 =>
        match skipSpace rest with
        | '\x7d' :: after => some (.table .inline [], after)
        | rest =>
          (pairs fuel depth rest).bind fun (ps, after) =>
            (addPairs ps []).map fun ms => (.table .inline ms, after)
    | cs => scalar cs

def items : Nat → Nat → List Char → Option (List Toml × List Char)
  | 0, _, _ => none
  | fuel + 1, depth, cs =>
    match cs with
    | ']' :: after => some ([], after)
    | cs =>
      match value fuel depth cs with
      | none => none
      | some (v, rest) =>
        match skipLines false rest with
        | ']' :: after => some ([v], after)
        | ',' :: rest =>
          (items fuel depth (skipLines false rest)).map fun (vs, after) => (v :: vs, after)
        | _ => none

def pairs : Nat → Nat → List Char → Option (List Pair × List Char)
  | 0, _, _ => none
  | fuel + 1, depth, cs =>
    match keyOf cs with
    | none => none
    | some (k, rest) =>
      match value fuel depth rest with
      | none => none
      | some (v, rest) =>
        match skipSpace rest with
        | '\x7d' :: after => some ([⟨k, v⟩], after)
        | ',' :: rest => (pairs fuel depth rest).map fun (ps, after) => (⟨k, v⟩ :: ps, after)
        | _ => none

end

/-! ## Documents -/

def headingOf (cs : List Char) : Option (Heading × List Char) :=
  match cs with
  | '[' :: '[' :: cs =>
    match key depthLimit cs with
    | some (path, ']' :: ']' :: rest) => some (.element path, rest)
    | _ => none
  | '[' :: cs =>
    match key depthLimit cs with
    | some (path, ']' :: rest) => some (.table path, rest)
    | _ => none
  | _ => none

def pairOf (cs : List Char) : Option (Pair × List Char) :=
  match keyOf cs with
  | none => none
  | some (k, rest) =>
    (value (2 * rest.length + 2) depthLimit rest).map fun (v, after) => (⟨k, v⟩, after)

def statementOf (cs : List Char) : Option (Statement × List Char) :=
  match cs with
  | '[' :: _ => (headingOf cs).map fun (h, rest) => (.heading h, rest)
  | _ => (pairOf cs).map fun (p, rest) => (.pair p, rest)

def statements : Nat → List Char → Option (List Statement)
  | 0, _ => none
  | fuel + 1, cs =>
    match skipLines false cs with
    | [] => some []
    | cs =>
      (statementOf cs).bind fun (s, rest) =>
        (lineEnd rest).bind fun rest => (statements fuel rest).map (s :: ·)

def withoutMark : List Char → List Char
  | '\uFEFF' :: cs => cs
  | cs => cs

def read (cs : List Char) : Option Toml :=
  (statements (cs.length + 1) (withoutMark cs)).bind ofStatements

def parse (s : String) : Option Toml := read s.toList

end SingleWriter.Toml

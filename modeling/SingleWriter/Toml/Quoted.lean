import SingleWriter.Text.Hex

/-!
# Quoted text in TOML

A text stands between two quotes on one line, or between two runs of three quotes
over several. Between double quotes a backslash begins an escape; between single
quotes every character stands for itself. Control characters other than the tab have
to be escaped, line ends in a text over several lines apart; there a line end is
always read as one line feed, one line end right after the opening quotes is left
out, and a backslash at the end of a line takes away the line end with all blanks
after it. Up to two quotes may stand right before the closing three.

Reading first finds the closing quotes and then replaces the escapes.
-/

set_option autoImplicit false

namespace SingleWriter.Toml

def isSpace (c : Char) : Bool := c == ' ' || c == '\t'

/-- Characters that stand in a text or a comment as they are. -/
def isPlain (c : Char) : Bool := c == '\t' || (0x20 ≤ c.toNat && c.toNat != 0x7F)

/-! ## Finding the closing quotes -/

/-- A text on one line after its opening quote, and what follows its closing quote. -/
def line (quote : Char) (escapes : Bool) : List Char → Option (List Char × List Char)
  | [] => none
  | c :: cs =>
    if c = quote then some ([], cs)
    else if !isPlain c then none
    else if escapes ∧ c = '\\' then
      match cs with
      | e :: rest =>
        if isPlain e then (line quote escapes rest).map fun (body, after) => (c :: e :: body, after)
        else none
      | [] => none
    else (line quote escapes cs).map fun (body, after) => (c :: body, after)

/-- The quotes that still belong to the text, after three quotes. -/
def lastQuotes (quote : Char) : List Char → List Char × List Char
  | c :: d :: rest =>
    if c = quote then if d = quote then ([c, d], rest) else ([c], d :: rest) else ([], c :: d :: rest)
  | [c] => if c = quote then ([c], []) else ([], [c])
  | [] => ([], [])

def isThird (quote : Char) : List Char → Bool
  | c :: d :: _ => c == quote && d == quote
  | _ => false

/-- A text over several lines after its opening quotes, and what follows its closing quotes. -/
def block (quote : Char) (escapes : Bool) : List Char → Option (List Char × List Char)
  | [] => none
  | c :: cs =>
    if c = quote ∧ isThird quote cs then some (lastQuotes quote (cs.drop 2))
    else if c = '\r' then
      match cs with
      | '\n' :: rest => (block quote escapes rest).map fun (body, after) => ('\n' :: body, after)
      | _ => none
    else if c ≠ '\n' ∧ !isPlain c then none
    else if escapes ∧ c = '\\' ∧ cs.head?.any (fun e => e == quote || e == '\\') then
      match cs with
      | e :: rest => (block quote escapes rest).map fun (body, after) => (c :: e :: body, after)
      | [] => none
    else (block quote escapes cs).map fun (body, after) => (c :: body, after)

def withoutFirstLineEnd : List Char → List Char
  | '\n' :: cs => cs
  | '\r' :: '\n' :: cs => cs
  | cs => cs

/-! ## Replacing the escapes -/

def escaped? : Char → Option Char
  | 'b' => some (Char.ofNat 0x08)
  | 't' => some '\t'
  | 'n' => some '\n'
  | 'f' => some (Char.ofNat 0x0C)
  | 'r' => some '\r'
  | '"' => some '"'
  | '\\' => some '\\'
  | _ => none

/-- The character with this number in hexadecimal, unless there is none. -/
def numbered? (digits : List Char) : Option Char :=
  ((digits.mapM Text.hexValue?).map fun ds => ds.foldl (16 * · + ·) 0).bind fun n =>
    if n.isValidChar then some (Char.ofNat n) else none

def endsLine (cs : List Char) : Bool := (cs.dropWhile isSpace).head? == some '\n'

/-- The text that a body with escapes stands for; `joining` while blanks are taken away. -/
def unescape (joining : Bool) : List Char → Option (List Char)
  | [] => some []
  | c :: cs =>
    if joining ∧ (isSpace c ∨ c = '\n') then unescape true cs
    else if c ≠ '\\' then (unescape false cs).map (c :: ·)
    else if endsLine cs then unescape true cs
    else
      match cs with
      | 'u' :: a :: b :: c :: d :: rest =>
        (numbered? [a, b, c, d]).bind fun x => (unescape false rest).map (x :: ·)
      | 'U' :: a :: b :: c :: d :: e :: f :: g :: h :: rest =>
        (numbered? [a, b, c, d, e, f, g, h]).bind fun x => (unescape false rest).map (x :: ·)
      | e :: rest => (escaped? e).bind fun x => (unescape false rest).map (x :: ·)
      | [] => none

def unescaped : List Char × List Char → Option (String × List Char)
  | (body, after) => (unescape false body).map fun text => (String.ofList text, after)

def verbatim : List Char × List Char → String × List Char
  | (body, after) => (String.ofList body, after)

/-- A text on one line, with its opening quote. -/
def lineText : List Char → Option (String × List Char)
  | '"' :: cs => (line '"' true cs).bind unescaped
  | '\'' :: cs => (line '\'' false cs).map verbatim
  | _ => none

def text : List Char → Option (String × List Char)
  | '"' :: '"' :: '"' :: cs => (block '"' true (withoutFirstLineEnd cs)).bind unescaped
  | '\'' :: '\'' :: '\'' :: cs => (block '\'' false (withoutFirstLineEnd cs)).map verbatim
  | cs => lineText cs

end SingleWriter.Toml

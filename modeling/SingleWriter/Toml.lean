/-!
# TOML documents

A value of a document. A float and a moment (a date, a time, or both) keep their
text, since nothing is computed with them.

A table remembers how it came about, because that decides what may still be added to
it. An inline table is complete. A table opened by a heading, or implied by a longer
heading, is no target for dotted keys from elsewhere, and only an implied one may be
opened once. A table made by dotted keys grows by dotted keys alone. The elements of
an array of tables each begin with their own heading, and a longer heading goes into
the last of them.
-/

set_option autoImplicit false

namespace SingleWriter

inductive Toml.Origin where
  | inline
  | heading
  | implied
  | dotted
  deriving DecidableEq

inductive Toml where
  | string (s : String)
  | integer (n : Int)
  | float (text : String)
  | bool (b : Bool)
  | moment (text : String)
  | array (items : List Toml)
  | table (origin : Toml.Origin) (members : List (String × Toml))
  | tables (elements : List (List (String × Toml)))

namespace Toml

abbrev Members := List (String × Toml)

structure Pair where
  /-- The parts of a dotted key; a plain key is one part. -/
  key : List String
  value : Toml

inductive Heading where
  /-- A heading that opens one table. -/
  | table (path : List String)
  /-- A heading that adds an element to an array of tables. -/
  | element (path : List String)

inductive Statement where
  | pair (p : Pair)
  | heading (h : Heading)

def put (key : String) (v : Toml) : Members → Members
  | [] => [(key, v)]
  | m :: ms => if m.1 = key then (key, v) :: ms else m :: put key v ms

/-- Adds a value under a dotted key; its last part must be new, the others name tables. -/
def addPair : List String → Toml → Members → Option Members
  | [], _, _ => none
  | [k], v, ms => if (ms.lookup k).isSome then none else some (put k v ms)
  | k :: l :: ks, v, ms =>
    match ms.lookup k with
    | none => (addPair (l :: ks) v []).map fun sub => put k (.table .dotted sub) ms
    | some (.table .dotted sub) =>
      (addPair (l :: ks) v sub).map fun sub => put k (.table .dotted sub) ms
    | some (.table .implied sub) =>
      if ks = [] then none
      else (addPair (l :: ks) v sub).map fun sub => put k (.table .implied sub) ms
    | some (.tables elements) =>
      match elements.getLast? with
      | none => none
      | some last =>
        if ks = [] then none
        else (addPair (l :: ks) v last).map fun sub => put k (.tables (elements.dropLast ++ [sub])) ms
    | some _ => none

def addPairs : List Pair → Members → Option Members
  | [], ms => some ms
  | p :: ps, ms => (addPair p.key p.value ms).bind (addPairs ps)

/-- Changes what stands at the end of a heading's path, implying the tables before it. -/
def alter (f : Option Toml → Option Toml) : List String → Members → Option Members
  | [], _ => none
  | [k], ms => (f (ms.lookup k)).map fun v => put k v ms
  | k :: l :: ks, ms =>
    match ms.lookup k with
    | none => (alter f (l :: ks) []).map fun sub => put k (.table .implied sub) ms
    | some (.table .inline _) => none
    | some (.table origin sub) => (alter f (l :: ks) sub).map fun sub => put k (.table origin sub) ms
    | some (.tables elements) =>
      match elements.getLast? with
      | none => none
      | some last =>
        (alter f (l :: ks) last).map fun sub => put k (.tables (elements.dropLast ++ [sub])) ms
    | some _ => none

def openTable (pairs : List Pair) : Option Toml → Option Toml
  | none => (addPairs pairs []).map (.table .heading)
  | some (.table .implied ms) => (addPairs pairs ms).map (.table .heading)
  | some _ => none

def addElement (pairs : List Pair) : Option Toml → Option Toml
  | none => (addPairs pairs []).map fun ms => .tables [ms]
  | some (.tables elements) => (addPairs pairs []).map fun ms => .tables (elements ++ [ms])
  | some _ => none

def addSection (pairs : List Pair) : Heading → Members → Option Members
  | .table path => alter (openTable pairs) path
  | .element path => alter (addElement pairs) path

/-- The pairs before the first heading, and every heading with the pairs under it. -/
def sections : List Statement → List Pair × List (Heading × List Pair)
  | [] => ([], [])
  | .pair p :: rest =>
    let (pairs, later) := sections rest
    (p :: pairs, later)
  | .heading h :: rest =>
    let (pairs, later) := sections rest
    ([], (h, pairs) :: later)

def addSections : List (Heading × List Pair) → Members → Option Members
  | [], ms => some ms
  | (h, pairs) :: rest, ms => (addSection pairs h ms).bind (addSections rest)

def ofStatements (statements : List Statement) : Option Toml :=
  let (pairs, rest) := sections statements
  ((addPairs pairs []).bind (addSections rest)).map (.table .heading)

end Toml

end SingleWriter

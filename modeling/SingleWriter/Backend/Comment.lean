import SingleWriter.Backend
import SingleWriter.Json.Reader
import SingleWriter.Json.Printer
import SingleWriter.Text.Blank

/-!
# The comment column

The server table has no columns for an annotation, so it is kept in the row's
comment. Three spellings are read: a bare role name, and a JSON object whose `role`
is either a name or two flags, with the override under `admin_status`. Other members
of the object are left alone. Whatever cannot be read is the empty annotation.

Written is always the object with both members and the role as flags; the empty
annotation is written as no comment at all.
-/

set_option autoImplicit false

namespace SingleWriter.Annotation

/-- How deep arrays and objects may nest in the value of `role`. -/
def roleDepth : Nat := 126

/-- The value under a key; `none` when the key is repeated. -/
def sole? (key : String) (members : List (Option String × Json)) : Option (Option Json) :=
  match members.filter (·.1 = some key) with
  | [] => some none
  | [m] => some (some m.2)
  | _ => none

def flag? (key : String) (members : List (Option String × Json)) : Option Bool :=
  match sole? key members with
  | none => none
  | some none => some false
  | some (some v) => v.bool?

def roleOfFlags (writer reader : Bool) : Role :=
  if writer then .writer else if reader then .reader else .none

def roleOf? (v : Json) : Option Role :=
  if v.isPlain ∧ v.depth ≤ roleDepth then
    match v with
    | .null => some .none
    | .string (some name) => some (Role.ofName name)
    | .object members =>
      match flag? "writer" members, flag? "reader" members with
      | some writer, some reader => some (roleOfFlags writer reader)
      | _, _ => none
    | _ => none
  else none

def overrideOf? : Json → Option (Option Status)
  | .null => some none
  | .string (some s) => some (Status.parse s).toOption
  | _ => none

def ofMembers? (members : List (Option String × Json)) : Option Annotation :=
  if members.all (·.1.isSome) then
    match sole? "role" members, sole? "admin_status" members with
    | some role, some override =>
      match roleOf? (role.getD .null), overrideOf? (override.getD .null) with
      | some role, some override => some { role, override }
      | _, _ => none
    | _, _ => none
  else none

def ofObject? (cs : List Char) : Option Annotation :=
  match Json.read cs with
  | some (.object members) => ofMembers? members
  | _ => none

def readComment (cs : List Char) : Annotation :=
  match Text.trim cs with
  | [] => {}
  | c :: rest =>
    if c = '\x7b' then (ofObject? (c :: rest)).getD {}
    else { role := Role.ofName (String.ofList (c :: rest)) }

def ofComment : Option String → Annotation
  | none => {}
  | some s => readComment s.toList

def commentObject (a : Annotation) : Json :=
  .record [
    ("admin_status", .optional (a.override.map Status.name)),
    ("role", .record [
      ("reader", .bool (a.role = .reader)),
      ("writer", .bool (a.role = .writer))])]

def toComment (a : Annotation) : Option String :=
  if a = {} then none else some a.commentObject.compactText

end SingleWriter.Annotation

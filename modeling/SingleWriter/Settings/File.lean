import SingleWriter.Settings.Source
import SingleWriter.Settings.Validation
import SingleWriter.Text.Utf8
import SingleWriter.Toml.Reader

/-!
# Settings files

A settings file is UTF-8 text with one TOML document. A file that is missing or not
text, that is no document or gives some setting a value of the wrong kind, or that
holds invalid settings is refused, in this order.
-/

set_option autoImplicit false

namespace SingleWriter

inductive SettingsError where
  | unreadable
  | malformed
  | invalid (problems : List Settings.Problem)
  deriving DecidableEq

def SettingsError.message : SettingsError → String
  | .unreadable => "IO error"
  | .malformed => "Parse error"
  | .invalid problems =>
    "Validation failed: " ++ ", ".intercalate (problems.map Settings.Problem.text)

namespace Settings

def checked (s : Settings) : Except SettingsError Settings :=
  if s.isValid then .ok s else .error (.invalid s.problems)

/-- Loads the content of a file, or `none` for a file that is not there. -/
def load (file : Option (List UInt8)) : Except SettingsError Settings :=
  match file.map Text.Utf8.decode with
  | some (.ok text) =>
    match (Toml.parse text).bind Settings.ofSource with
    | some settings => settings.checked
    | none => .error .malformed
  | _ => .error .unreadable

end Settings

end SingleWriter

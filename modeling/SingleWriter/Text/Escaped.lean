import SingleWriter.Text.Hex
import SingleWriter.Text.Shapeless

/-!
# Text shown between quotes

A text is shown between double quotes. Double quotes and backslashes in it get a
backslash, single quotes do not; tab, line ends and the null character have short
escapes; any other character without a shape of its own is shown by its number in
braces.
-/

set_option autoImplicit false

namespace SingleWriter.Text

def numberEscape (c : Char) : List Char :=
  "\\u\x7b".toList ++ hexDigits c.toNat ++ ['\x7d']

def shown (c : Char) : List Char :=
  match c with
  | '"' => ['\\', '"']
  | '\\' => ['\\', '\\']
  | '\t' => ['\\', 't']
  | '\n' => ['\\', 'n']
  | '\r' => ['\\', 'r']
  | c => if c.toNat = 0 then ['\\', '0'] else if isShapeless c then numberEscape c else [c]

def escaped (s : String) : String := String.ofList ('"' :: (s.toList.flatMap shown ++ ['"']))

end SingleWriter.Text

/-!
# Letter case

Only the ASCII letters have a case here. Two texts agree up to case when their
lowered forms are equal.
-/

set_option autoImplicit false

namespace SingleWriter.Text

def lowered (s : String) : String := String.ofList (s.toList.map Char.toLower)

def raised (s : String) : String := String.ofList (s.toList.map Char.toUpper)

def sameUpToCase (s t : String) : Bool := lowered s == lowered t

end SingleWriter.Text

import PermissionContexts.Text.LowerCase

/-! # Normal form

    Keys and values of contexts, and the sources of rewrite rules, are compared
    without regard to case and to blanks at their ends. The normal form of a
    text is what remains: trimmed, then in lower case.
-/

namespace PermissionContexts

namespace Text

/-- The normal form of a list of characters. -/
def normal (s : List Char) : List Char :=
  lower (trim s)

end Text

/-- `s` without the blanks at either end. -/
def trimmed (s : String) : String :=
  String.ofList (Text.trim s.toList)

/-- `s` in lower case. -/
def lowerCased (s : String) : String :=
  String.ofList (Text.lower s.toList)

/-- The normal form of `s`: trimmed and in lower case. -/
def normalForm (s : String) : String :=
  String.ofList (Text.normal s.toList)

end PermissionContexts

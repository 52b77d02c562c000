/-!
# Identifiers

Address templates and environment references both name variables, and both
accept the same names: a letter or an underscore, then letters, digits and
underscores, all of them ASCII.

## Main results

* `isIdentifier_cons`: how a name is built.
-/

namespace DeviceGateway.Text

/-- An ASCII letter or an underscore. -/
def isNameStart (c : Char) : Bool :=
  ('a' ≤ c && c ≤ 'z') || ('A' ≤ c && c ≤ 'Z') || c == '_'

/-- An ASCII letter, a digit or an underscore. -/
def isNameChar (c : Char) : Bool :=
  isNameStart c || ('0' ≤ c && c ≤ '9')

/-- The name of a variable. -/
def isIdentifier : List Char → Bool
  | [] => false
  | c :: rest => isNameStart c && rest.all isNameChar

theorem isIdentifier_cons {c : Char} {rest : List Char} :
    isIdentifier (c :: rest) = true ↔
      isNameStart c = true ∧ ∀ d ∈ rest, isNameChar d = true := by
  simp [isIdentifier]

end DeviceGateway.Text

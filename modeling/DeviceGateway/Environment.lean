import DeviceGateway.Text.Identifier

/-!
# Environment references

Secrets and endpoints are kept out of the configuration file by writing
`${NAME}` where the value belongs.  Expansion is a single pass from left to
right: a reference is replaced by the value of the variable, or by nothing if
the variable is not set, and a value is never looked at again.  Whatever is no
complete reference to an identifier stands as it is.

The pass is a machine with three states.  When a reference turns out to be
none, what was read of it is written out and the offending character is taken
up afresh, because it may begin a reference of its own.
-/

namespace DeviceGateway

/-- The environment variables that are set.  One whose value is not Unicode
counts as unset: it is replaced by nothing, too. -/
abbrev Environment := String → Option String

namespace Environment

/-- An environment with these variables. -/
def ofList (vars : List (String × String)) : Environment :=
  fun name => vars.lookup name

/-- Where the pass stands. -/
inductive Scan where
  | plain
  /-- Behind a dollar sign. -/
  | dollar
  /-- Behind a dollar sign and a brace; `name` holds what follows, the last
  character first. -/
  | reference (name : List Char)

/-- What is written out for a reference that was not completed. -/
def Scan.pending : Scan → List Char
  | .plain => []
  | .dollar => ['$']
  | .reference name => '$' :: '\x7b' :: name.reverse

/-- The state after a character that belongs to no reference, and what is
written for it. -/
def Scan.restart (c : Char) : Scan × List Char :=
  if c = '$' then (.dollar, []) else (.plain, [c])

/-- One character: the next state and what is written. -/
def step (env : Environment) (s : Scan) (c : Char) : Scan × List Char :=
  match s with
  | .plain => Scan.restart c
  | .dollar =>
    if c = '\x7b' then (.reference [], [])
    else ((Scan.restart c).1, s.pending ++ (Scan.restart c).2)
  | .reference name =>
    if c = '\x7d' ∧ name ≠ [] then
      (.plain, ((env (String.ofList name.reverse)).getD "").toList)
    else if Text.isIdentifier (name.reverse ++ [c]) then
      (.reference (c :: name), [])
    else ((Scan.restart c).1, s.pending ++ (Scan.restart c).2)

/-- Expands from a state; `done` holds what is written, the last character
first. -/
def expandFrom (env : Environment) (done : List Char) :
    Scan → List Char → List Char
  | s, [] => done.reverse ++ s.pending
  | s, c :: rest =>
    expandFrom env ((step env s c).2.reverse ++ done) (step env s c).1 rest

/-- Replaces the references in a text. -/
def expandChars (env : Environment) (cs : List Char) : List Char :=
  expandFrom env [] .plain cs

/-- `expandChars` on strings. -/
def expand (env : Environment) (s : String) : String :=
  String.ofList (env.expandChars s.toList)

end Environment

end DeviceGateway

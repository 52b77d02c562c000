import DeviceGateway.Text.Identifier

/-!
# Address templates

The address a message is sent to is written as a template, in which a name in
braces stands for what is known of the device.  Braces serve for nothing else:
a template in which they are not balanced is refused, and so is a name that is
no identifier.

A template binds if every variable in it is known and not empty.  The gateway
has several templates and takes the first that binds, so the order in which
they are configured is the order of preference, and a device for which none
binds sends to the empty address.
-/

namespace DeviceGateway.Address

/-- A piece of a template. -/
inductive Segment where
  | literal (text : String)
  | variable (name : String)
  deriving DecidableEq, Repr

/-- Why a text is no template. -/
inductive Fault where
  | unbalancedBrace
  | badName (name : String)
  deriving DecidableEq, Repr

/-- The wording of a fault. -/
def Fault.message : Fault → String
  | unbalancedBrace => "unbalanced brace"
  | badName name => "'" ++ name ++ "' is not a valid variable name"

/-- A template and the text it was read from. -/
structure Template where
  raw : String
  segments : List Segment
  deriving DecidableEq, Repr

/-- Where the reader of a template stands; both hold what was read since the
last brace, the last character first. -/
inductive Scan where
  | literal (text : List Char)
  | variable (name : List Char)

/-- A literal segment, or none if it would be empty. -/
def literalOf (text : List Char) : List Segment :=
  if text.isEmpty then [] else [.literal (String.ofList text.reverse)]

/-- Reads the segments of a template; `done` holds those read, the last
first. -/
def segmentsFrom (done : List Segment) :
    Scan → List Char → Except Fault (List Segment)
  | .literal text, [] => .ok (done.reverse ++ literalOf text)
  | .variable _, [] => .error .unbalancedBrace
  | .literal text, c :: rest =>
    if c = '\x7b' then segmentsFrom (literalOf text ++ done) (.variable []) rest
    else if c = '\x7d' then .error .unbalancedBrace
    else segmentsFrom done (.literal (c :: text)) rest
  | .variable name, c :: rest =>
    if c = '\x7b' then .error .unbalancedBrace
    else if c = '\x7d' then
      if Text.isIdentifier name.reverse then
        segmentsFrom (.variable (String.ofList name.reverse) :: done)
          (.literal []) rest
      else .error (.badName (String.ofList name.reverse))
    else segmentsFrom done (.variable (c :: name)) rest

/-- Reads a template. -/
def Template.parse (raw : String) : Except Fault Template :=
  (segmentsFrom [] (.literal []) raw.toList).map fun segments => ⟨raw, segments⟩

/-- What is known of a device; of two values of one name the first counts. -/
abbrev Variables := List (String × String)

/-- The text of a segment, if it is known and not empty. -/
def Segment.bind (vars : Variables) : Segment → Option String
  | literal text => some text
  | .variable name => (vars.lookup name).filter fun value => value != ""

/-- The text of a template, if every variable in it is known. -/
def Template.bind (t : Template) (vars : Variables) : Option String :=
  (t.segments.mapM (Segment.bind vars)).map fun parts => "".intercalate parts

/-- The address from the first template that binds, empty if none does. -/
def resolve (templates : List Template) (vars : Variables) : String :=
  (templates.findSome? fun t => t.bind vars).getD ""

end DeviceGateway.Address

import DeviceGateway.Failure
import DeviceGateway.Tenancy.Table

/-!
# The stage chain

The stages a connection's octets pass through form a chain with names.  At
first no frame decoder is among them, because the format depends on the tenant.
Resolving the tenancy puts the tenant's decoder in front of the topic decoder,
once; a chain that has one keeps it, and the tenancy that came with it, for
good.

No two stages share a name, and an insertion that fails changes nothing.

## Main results

* `insertBefore_cases`: an insertion puts the new stage directly in front of its
  anchor, or changes nothing.
* `resolve_of_contains`: a chain with a decoder is not resolved again.
-/

namespace DeviceGateway

/-- A stage of a connection. -/
inductive Stage where
  | tenancyResolver
  | frameDecoder (decoder : Wire.Decoder)
  | topicDecoder
  | session
  deriving DecidableEq, Repr

/-- The stages of a connection in order, each with its name, and the tenancy
they belong to. -/
structure Chain where
  stages : List (String × Stage)
  tenancy : Option Tenancy
  deriving DecidableEq, Repr

namespace Chain

/-- The name of the stage that resolves the tenancy. -/
def resolverName : String := "tenancy-resolver"

/-- The name of the tenant's decoder. -/
def decoderName : String := "tenant-frame-decoder"

/-- The name of the stage that makes parcels of frames. -/
def topicName : String := "device-topic-decoder"

/-- The name of the stage that holds the session. -/
def sessionName : String := "device-adapter"

/-- Why a chain cannot be changed. -/
inductive Fault where
  | stageNotFound (name : String)
  | duplicateStage (name : String)
  | missingTenancy
  deriving DecidableEq, Repr

namespace Fault

/-- The wording of a fault. -/
def message : Fault → String
  | stageNotFound name => "pipeline stage '" ++ name ++ "' not found"
  | duplicateStage name => "pipeline stage '" ++ name ++ "' already installed"
  | missingTenancy => "tenant decoder installed without a tenancy context"

/-- The failure of a connection whose chain is at fault. -/
def toFailure (f : Fault) : Failure :=
  Failure.of .invalidOperation f.message

end Fault

/-- The chain of a fresh connection. -/
def initial : Chain :=
  ⟨[(resolverName, .tenancyResolver), (topicName, .topicDecoder),
    (sessionName, .session)], none⟩

/-- The names of the stages in order. -/
def names (c : Chain) : List String :=
  c.stages.map Prod.fst

/-- Whether a stage has this name. -/
def contains (c : Chain) (name : String) : Bool :=
  c.names.contains name

/-- Puts a stage in front of the one with a given name. -/
def insertAt (anchor : String) (entry : String × Stage) :
    List (String × Stage) → Option (List (String × Stage))
  | [] => none
  | first :: rest =>
    if first.1 = anchor then some (entry :: first :: rest)
    else (insertAt anchor entry rest).map (first :: ·)

/-- Puts a stage with a new name in front of the one with a given name. -/
def insertBefore (c : Chain) (anchor name : String) (stage : Stage) :
    Except Fault Chain :=
  if c.contains name then .error (.duplicateStage name)
  else
    match insertAt anchor (name, stage) c.stages with
    | none => .error (.stageNotFound anchor)
    | some stages => .ok { c with stages }

/-- The first frame decoder of some stages. -/
def decoderOf : List (String × Stage) → Option Wire.Decoder
  | [] => none
  | (_, .frameDecoder d) :: _ => some d
  | _ :: rest => decoderOf rest

/-- Replaces the first frame decoder of some stages. -/
def setDecoder (d : Wire.Decoder) :
    List (String × Stage) → List (String × Stage)
  | [] => []
  | (name, .frameDecoder _) :: rest => (name, .frameDecoder d) :: rest
  | entry :: rest => entry :: setDecoder d rest

/-- The decoder that frames pass through. -/
def decoder (c : Chain) : Option Wire.Decoder :=
  decoderOf c.stages

/-- Takes the next frame or fault off the input; nothing while no decoder is
installed. -/
def next (c : Chain) (input : List UInt8) :
    Option (Except Wire.Fault Wire.Frame) × Chain × List UInt8 :=
  match c.decoder with
  | none => (none, c, input)
  | some d =>
    let (outcome, d, rest) := d.next input
    (outcome, { c with stages := setDecoder d c.stages }, rest)

/-- Takes frames off the input until it gives nothing more or a fatal fault
arises. -/
def drain (c : Chain) (input : List UInt8) :
    List (Except Wire.Fault Wire.Frame) × Chain × List UInt8 :=
  match c.decoder with
  | none => ([], c, input)
  | some d =>
    let (outcomes, d, rest) := d.drain input
    (outcomes, { c with stages := setDecoder d c.stages }, rest)

/-- Resolves the tenancy of a connection and installs its decoder, unless that
was done. -/
def resolve (c : Chain) (table : TenantTable) (maxMessageSize : Nat)
    (peer : Option Peer) :
    Except Fault (Tenancy × Chain) :=
  if c.contains decoderName then
    match c.tenancy with
    | none => .error .missingTenancy
    | some tenancy => .ok (tenancy, c)
  else
    let tenancy := table.lookup maxMessageSize peer
    match c.insertBefore topicName decoderName (.frameDecoder tenancy.decoder)
      with
    | .error fault => .error fault
    | .ok c => .ok (tenancy, { c with tenancy := some tenancy })

private theorem insertAt_eq_some {anchor : String} {entry : String × Stage}
    {stages after : List (String × Stage)}
    (h : insertAt anchor entry stages = some after) :
    ∃ front stage back, stages = front ++ (anchor, stage) :: back ∧
      after = front ++ entry :: (anchor, stage) :: back := by
  induction stages generalizing after with
  | nil => exact absurd h (by simp [insertAt])
  | cons first rest ih =>
    obtain ⟨name, stage⟩ := first
    simp only [insertAt] at h
    split at h
    · next hname =>
      obtain rfl : name = anchor := hname
      exact ⟨[], stage, rest, rfl, (Option.some.inj h).symm⟩
    · obtain ⟨tail, htail, rfl⟩ := Option.map_eq_some_iff.1 h
      obtain ⟨front, found, back, hrest, htail⟩ := ih htail
      exact ⟨(name, stage) :: front, found,
        back, by simp [hrest], by simp [htail]⟩

private theorem insertAt_eq_none_iff {anchor : String} {entry : String × Stage}
    {stages : List (String × Stage)} :
    insertAt anchor entry stages = none ↔ anchor ∉ stages.map Prod.fst := by
  induction stages with
  | nil => simp [insertAt]
  | cons first rest ih =>
    simp only [insertAt]
    split
    · next hname => simp [hname]
    · next hname => simp [ih, Ne.symm hname]

theorem contains_iff {c : Chain} {name : String} :
    c.contains name = true ↔ name ∈ c.names :=
  List.contains_iff_mem

/-- An insertion needs a new name and an anchor that is there. -/
theorem insertBefore_cases (c : Chain) (anchor name : String) (stage : Stage) :
    (name ∈ c.names ∧
      c.insertBefore anchor name stage = .error (.duplicateStage name)) ∨
    (name ∉ c.names ∧ anchor ∉ c.names ∧
      c.insertBefore anchor name stage = .error (.stageNotFound anchor)) ∨
    (name ∉ c.names ∧ ∃ front found back,
      c.stages = front ++ (anchor, found) :: back ∧
      c.insertBefore anchor name stage =
        .ok { c with stages := front ++ (name, stage) :: (anchor, found) ::
          back }) := by
  unfold insertBefore
  by_cases hname : name ∈ c.names
  · exact .inl ⟨hname, by rw [if_pos (contains_iff.2 hname)]⟩
  · rw [if_neg (mt contains_iff.1 hname)]
    cases hinsert : insertAt anchor (name, stage) c.stages with
    | none => exact .inr (.inl ⟨hname, insertAt_eq_none_iff.1 hinsert, rfl⟩)
    | some stages =>
      obtain ⟨front, found, back, hbefore, rfl⟩ := insertAt_eq_some hinsert
      exact .inr (.inr ⟨hname, front, found, back, hbefore, rfl⟩)

theorem resolve_of_contains {c : Chain} {tenancy : Tenancy}
    (h : c.contains decoderName = true) (htenancy : c.tenancy = some tenancy)
    (table : TenantTable) (maxMessageSize : Nat) (peer : Option Peer) :
    c.resolve table maxMessageSize peer = .ok (tenancy, c) := by
  simp [resolve, h, htenancy]

end Chain

end DeviceGateway

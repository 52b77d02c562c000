import DeviceGateway.Tenancy.Chain
import Mathlib.Data.List.Nodup

/-!
# The life of a chain

A chain can be asked for three things: to resolve the tenancy of a peer, to take
in a stage, and to decode input.  They may come in any order, each resolution
with another peer, and each new stage with any name, even that of the tenant's
decoder.

Two looks keep order.  A stage goes in only under a name that no stage has, so
names stay distinct.  A tenancy is bound only when no stage has the name of the
tenant's decoder, and with the tenancy that name is taken; so the first tenancy
stays, and its decoder is put in once.  Nothing ever goes out, so the stage that
every decoder is put in front of is always there.

`Step` says what one call does.  All that is said about a life is proved for one
step first and follows by induction on the calls.

## Main results

* `Paired.resolution`, `next_cases`: what resolving and decoding come to.
* `Sound.step`: each call is a step.
* `Step.sound`, `Step.outline_sublist`, `Step.tenancy_eq`: what every step
  preserves.
* `resolved_once`: the tenancy is resolved once, and the chain stays
  well-formed.
-/

namespace DeviceGateway

/-! ## Decoders -/

namespace Wire.Decoder

/-- A decoder as it was before it was given anything. -/
def fresh : Wire.Decoder → Wire.Decoder
  | .binary state => .binary { state with failed := false }
  | .lines state => .lines { state with discarding := false }

/-- A decoder keeps its format and its limit. -/
theorem fresh_next (d : Wire.Decoder) (input : List UInt8) :
    (d.next input).2.1.fresh = d.fresh := by
  cases d with
  | binary state =>
    simp only [next, Binary.Decoder.next]
    split
    · rfl
    · split <;> rfl
  | lines state =>
    have hline : ∀ input, (lines (state.nextLine input).2.1).fresh =
        (lines state).fresh := by
      intro input
      unfold Lines.Decoder.nextLine
      split
      · rfl
      · split <;> rfl
    simp only [next, Lines.Decoder.next]
    split
    · split
      · rfl
      · exact hline _
    · exact hline _

end Wire.Decoder

/-- A tenancy gives a fresh decoder. -/
theorem Tenancy.fresh_decoder (t : Tenancy) : t.decoder.fresh = t.decoder := by
  unfold Tenancy.decoder
  cases t.format <;> rfl

/-- A stage as it was when it was put in. -/
def Stage.fresh : Stage → Stage
  | .frameDecoder d => .frameDecoder d.fresh
  | other => other

namespace Chain

variable {chain chain' : Chain} {table : TenantTable} {maxMessageSize : Nat}
  {peer : Option Peer} {tenancy : Tenancy}

/-- The stages of a chain, whatever they were given so far. -/
def outline (c : Chain) : List (String × Stage) :=
  c.stages.map fun entry => (entry.1, entry.2.fresh)

/-! ## Decoding -/

theorem setDecoder_names (d : Wire.Decoder) (stages : List (String × Stage)) :
    (setDecoder d stages).map Prod.fst = stages.map Prod.fst := by
  induction stages with
  | nil => rfl
  | cons entry stages ih =>
    obtain ⟨name, stage⟩ := entry
    cases stage with
    | frameDecoder d' => rfl
    | tenancyResolver | topicDecoder | session => simp [setDecoder, ih]

theorem decoderOf_setDecoder {d : Wire.Decoder} {stages : List (String × Stage)}
    (h : decoderOf stages = some d) (d' : Wire.Decoder) :
    decoderOf (setDecoder d' stages) = some d' := by
  induction stages with
  | nil => cases h
  | cons entry stages ih =>
    obtain ⟨name, stage⟩ := entry
    cases stage with
    | frameDecoder d' => rfl
    | tenancyResolver | topicDecoder | session => exact ih h

private theorem decoderOf_append (front back : List (String × Stage)) :
    decoderOf (front ++ back) = (decoderOf front).or (decoderOf back) := by
  induction front with
  | nil => rfl
  | cons entry front ih =>
    obtain ⟨name, stage⟩ := entry
    cases stage <;> simp [decoderOf, ih]

private theorem setDecoder_append {front : List (String × Stage)}
    (h : decoderOf front = none) (d : Wire.Decoder)
    (back : List (String × Stage)) :
    setDecoder d (front ++ back) = front ++ setDecoder d back := by
  induction front with
  | nil => rfl
  | cons entry front ih =>
    obtain ⟨name, stage⟩ := entry
    cases stage with
    | frameDecoder d' => cases h
    | tenancyResolver | topicDecoder | session => exact congrArg _ (ih h)

/-- The decoder that frames pass through is the first. -/
theorem decoderOf_eq_some {d : Wire.Decoder} {stages : List (String × Stage)}
    (h : decoderOf stages = some d) :
    ∃ front name back, stages = front ++ (name, .frameDecoder d) :: back ∧
      decoderOf front = none := by
  induction stages with
  | nil => cases h
  | cons entry stages ih =>
    obtain ⟨name, stage⟩ := entry
    cases stage with
    | frameDecoder d' =>
      obtain rfl : d' = d := Option.some.inj h
      exact ⟨[], name, stages, rfl, rfl⟩
    | tenancyResolver | topicDecoder | session =>
      obtain ⟨front, found, back, rfl, hfront⟩ := ih h
      exact ⟨(name, _) :: front, found, back, rfl, hfront⟩

/-- A chain without a decoder leaves the input alone.  Any other gives what its
first decoder gives, and nothing else of it changes. -/
theorem next_cases (chain : Chain) (input : List UInt8) :
    (chain.decoder = none ∧ chain.next input = (none, chain, input)) ∨
    ∃ front name d back, chain.stages = front ++ (name, .frameDecoder d) ::
      back ∧
      decoderOf front = none ∧
      chain.next input = ((d.next input).1,
        { chain with stages := front ++ (name,
          .frameDecoder (d.next input).2.1) :: back },
        (d.next input).2.2) := by
  unfold next
  cases hdecoder : chain.decoder with
  | none => exact .inl ⟨rfl, rfl⟩
  | some d =>
    obtain ⟨front, name, back, hstages, hfront⟩ := decoderOf_eq_some hdecoder
    refine .inr ⟨front, name, d, back, hstages, hfront, ?_⟩
    dsimp only
    rw [hstages, setDecoder_append hfront]
    rfl

theorem tenancy_next (chain : Chain) (input : List UInt8) :
    (chain.next input).2.1.tenancy = chain.tenancy := by
  unfold next
  split <;> rfl

private theorem contains_next (chain : Chain) (input : List UInt8)
    (name : String) :
    (chain.next input).2.1.contains name = chain.contains name := by
  unfold next
  split
  · rfl
  · next d hdecoder =>
    have hnames :
        { chain with
          stages := setDecoder (d.next input).2.1 chain.stages }.names =
        chain.names := setDecoder_names _ _
    rw [contains, contains, hnames]

/-! ## Resolving -/

/-- A chain that was resolved has a tenancy. -/
theorem tenancy_resolve
    (h : chain.resolve table maxMessageSize peer = .ok (tenancy, chain')) :
    chain'.tenancy = some tenancy := by
  unfold resolve at h
  split at h
  · split at h
    · cases h
    · next htenancy => cases h; exact htenancy
  · dsimp only at h
    split at h
    · cases h
    · cases h; rfl

/-- A chain that has a decoder is not resolved again. -/
theorem eq_of_resolve (hcontains : chain.contains decoderName = true)
    (hresolve : chain.resolve table maxMessageSize peer =
      .ok (tenancy, chain')) :
    chain' = chain := by
  simp only [resolve, hcontains, if_true] at hresolve
  split at hresolve
  · cases hresolve
  · cases hresolve
    rfl

/-- A chain is given its tenancy together with a decoder. -/
def Paired (chain : Chain) : Prop :=
  ∀ tenancy, chain.tenancy = some tenancy → chain.contains decoderName = true

theorem Paired.next (h : chain.Paired) (input : List UInt8) :
    (chain.next input).2.1.Paired := by
  intro tenancy htenancy
  rw [contains_next]
  rw [tenancy_next] at htenancy
  exact h tenancy htenancy

/-- A chain that has a tenancy gives it again.  One that has none is given that
of the table, with its decoder in front of the topic decoder, unless the name of
the decoder is taken or the topic decoder is not there. -/
theorem Paired.resolution (h : chain.Paired) (table : TenantTable)
    (maxMessageSize : Nat) (peer : Option Peer) :
    (∃ tenancy, chain.tenancy = some tenancy ∧
      chain.resolve table maxMessageSize peer = .ok (tenancy, chain)) ∨
    chain.tenancy = none ∧
      (decoderName ∈ chain.names ∧
          chain.resolve table maxMessageSize peer = .error .missingTenancy ∨
        decoderName ∉ chain.names ∧ topicName ∉ chain.names ∧
          chain.resolve table maxMessageSize peer =
            .error (.stageNotFound topicName) ∨
        decoderName ∉ chain.names ∧ ∃ front stage back,
          chain.stages = front ++ (topicName, stage) :: back ∧
          chain.resolve table maxMessageSize peer =
            .ok (table.lookup maxMessageSize peer,
              ⟨front ++ (decoderName,
                .frameDecoder (table.lookup maxMessageSize peer).decoder) ::
                (topicName, stage) :: back,
                  some (table.lookup maxMessageSize peer)⟩)) := by
  cases htenancy : chain.tenancy with
  | some tenancy =>
    exact .inl ⟨tenancy, rfl, resolve_of_contains (h tenancy htenancy)
      htenancy _ _ _⟩
  | none =>
    refine .inr ⟨rfl, ?_⟩
    by_cases htaken : decoderName ∈ chain.names
    · exact .inl ⟨htaken, by simp [resolve, contains_iff.2 htaken, htenancy]⟩
    · have hnew : chain.contains decoderName = false :=
        Bool.eq_false_iff.2 (mt contains_iff.1 htaken)
      refine .inr ?_
      rcases chain.insertBefore_cases topicName decoderName
        (.frameDecoder (table.lookup maxMessageSize peer).decoder) with
        ⟨htaken', -⟩ | ⟨-, hmissing, hinsert⟩ | ⟨-, front, stage, back, hstages,
          hinsert⟩
      · exact absurd htaken' htaken
      · exact .inl ⟨htaken, hmissing, by simp [resolve, hnew, hinsert]⟩
      · exact .inr ⟨htaken, front, stage, back,
          hstages, by simp [resolve, hnew, hinsert]⟩

/-- A chain that has a tenancy is not resolved again, and one that has none is
resolved by the table. -/
theorem Paired.resolve_cases (h : chain.Paired)
    (hresolve : chain.resolve table maxMessageSize peer =
      .ok (tenancy, chain')) :
    chain'.Paired ∧
      (chain' = chain ∨
        chain.tenancy = none ∧
          chain'.tenancy = some (table.lookup maxMessageSize peer)) := by
  rcases h.resolution table maxMessageSize peer with ⟨known, -, hknown⟩ |
    ⟨hunknown, ⟨-, hfault⟩ | ⟨-, -, hfault⟩ | ⟨-, front, stage, back, -,
      hbound⟩⟩
  · obtain ⟨rfl, rfl⟩ :=
      Prod.mk.inj (Except.ok.inj (hknown.symm.trans hresolve))
    exact ⟨h, .inl rfl⟩
  · cases hfault.symm.trans hresolve
  · cases hfault.symm.trans hresolve
  · obtain ⟨rfl, rfl⟩ :=
      Prod.mk.inj (Except.ok.inj (hbound.symm.trans hresolve))
    exact ⟨fun _ _ => contains_iff.2 (by simp [names]), .inr ⟨hunknown, rfl⟩⟩

/-! ## Calls -/

/-- What a chain may be asked for. -/
inductive Call where
  | resolve (table : TenantTable) (maxMessageSize : Nat) (peer : Option Peer)
  | insert (anchor name : String) (stage : Stage)
  | decode (input : List UInt8)
  deriving DecidableEq, Repr

/-- What a chain answers. -/
inductive Answer where
  | resolved (tenancy : Tenancy)
  | inserted
  | refused (fault : Fault)
  | decoded (outcome : Option (Except Wire.Fault Wire.Frame))
      (rest : List UInt8)

/-- The tenancy an answer gives. -/
def Answer.tenancy? : Answer → Option Tenancy
  | .resolved tenancy => some tenancy
  | _ => none

/-- Whether a call has failed. -/
def Answer.isFailure : Answer → Bool
  | .refused _ => true
  | .decoded (some (.error _)) _ => true
  | _ => false

/-- Makes one call. -/
def call (c : Chain) : Call → Answer × Chain
  | .resolve table maxMessageSize peer =>
    match c.resolve table maxMessageSize peer with
    | .error fault => (.refused fault, c)
    | .ok (tenancy, after) => (.resolved tenancy, after)
  | .insert anchor name stage =>
    match c.insertBefore anchor name stage with
    | .error fault => (.refused fault, c)
    | .ok after => (.inserted, after)
  | .decode input =>
    let (outcome, after, rest) := c.next input
    (.decoded outcome rest, after)

/-- The chain after some calls. -/
def after (c : Chain) (calls : List Call) : Chain :=
  calls.foldl (fun c x => (c.call x).2) c

/-- The answers to some calls. -/
def answers (c : Chain) : List Call → List Answer
  | [] => []
  | x :: calls => (c.call x).1 :: (c.call x).2.answers calls

/-! ## Steps -/

/-- What one call may do. -/
inductive Step (c : Chain) : Call → Answer → Chain → Prop
  /-- The tenancy is known. -/
  | known {table : TenantTable} {maxMessageSize : Nat} {peer : Option Peer}
      {tenancy : Tenancy} (htenancy : c.tenancy = some tenancy) :
      Step c (.resolve table maxMessageSize peer) (.resolved tenancy) c
  /-- The tenancy is bound, and its decoder goes in front of the topic
  decoder. -/
  | bound {table : TenantTable} {maxMessageSize : Nat} {peer : Option Peer}
      {tenancy : Tenancy} {front back : List (String × Stage)} {stage : Stage}
      (htenancy : tenancy = table.lookup maxMessageSize peer)
      (hunknown : c.tenancy = none) (hnew : decoderName ∉ c.names)
      (hstages : c.stages = front ++ (topicName, stage) :: back) :
      Step c (.resolve table maxMessageSize peer) (.resolved tenancy)
        ⟨front ++ (decoderName, .frameDecoder tenancy.decoder) :: (topicName,
          stage) :: back,
          some tenancy⟩
  /-- Someone else has put in a stage under the name of the decoder. -/
  | taken {table : TenantTable} {maxMessageSize : Nat} {peer : Option Peer}
      (hunknown : c.tenancy = none) (htaken : decoderName ∈ c.names) :
      Step c (.resolve table maxMessageSize peer) (.refused .missingTenancy) c
  | inserted {anchor name : String} {stage found : Stage}
      {front back : List (String × Stage)} (hnew : name ∉ c.names)
      (hstages : c.stages = front ++ (anchor, found) :: back) :
      Step c (.insert anchor name stage) .inserted
        { c with stages := front ++ (name, stage) :: (anchor, found) :: back }
  | duplicate {anchor name : String} {stage : Stage} (htaken : name ∈ c.names) :
      Step c (.insert anchor name stage) (.refused (.duplicateStage name)) c
  | notFound {anchor name : String} {stage : Stage}
      (hnew : name ∉ c.names) (hmissing : anchor ∉ c.names) :
      Step c (.insert anchor name stage) (.refused (.stageNotFound anchor)) c
  /-- There is no decoder yet. -/
  | idle {input : List UInt8} (hdecoder : c.decoder = none) :
      Step c (.decode input) (.decoded none input) c
  /-- The first decoder is asked. -/
  | decoded {input : List UInt8} {front back : List (String × Stage)}
      {name : String} {d : Wire.Decoder}
      (hstages : c.stages = front ++ (name, .frameDecoder d) :: back)
      (hfront : decoderOf front = none) :
      Step c (.decode input) (.decoded (d.next input).1 (d.next input).2.2)
        { c with stages := front ++ (name, .frameDecoder (d.next input).2.1) ::
          back }

/-- A well-formed chain. -/
structure Sound (c : Chain) : Prop where
  distinct : c.names.Nodup
  topic : topicName ∈ c.names
  paired : c.Paired

theorem Sound.initial : Chain.initial.Sound where
  distinct := by decide
  topic := by decide
  paired := nofun

/-- A chain gives the tenancy it has, and binds one if it has none. -/
theorem Sound.resolve_ok (h : chain.Sound)
    (hresolve : chain.resolve table maxMessageSize peer =
      .ok (tenancy, chain')) :
    chain.tenancy = some tenancy ∧ chain' = chain ∨
      chain.tenancy = none ∧ tenancy = table.lookup maxMessageSize peer ∧
      ∃ front stage back, chain.stages = front ++ (topicName, stage) :: back ∧
        chain'.stages = front ++ (decoderName, .frameDecoder tenancy.decoder) ::
          (topicName, stage) :: back := by
  rcases h.paired.resolution table maxMessageSize peer with
    ⟨known, htenancy, hknown⟩ | ⟨hunknown,
      ⟨-, hfault⟩ | ⟨-, -, hfault⟩ | ⟨-, front, stage, back, hstages, hbound⟩⟩
  · obtain ⟨rfl, rfl⟩ :=
      Prod.mk.inj (Except.ok.inj (hknown.symm.trans hresolve))
    exact .inl ⟨htenancy, rfl⟩
  · cases hfault.symm.trans hresolve
  · cases hfault.symm.trans hresolve
  · obtain ⟨rfl, rfl⟩ :=
      Prod.mk.inj (Except.ok.inj (hbound.symm.trans hresolve))
    exact .inr ⟨hunknown, rfl, front, stage, back, hstages, rfl⟩

/-- Each call does one of the things there are to do. -/
theorem Sound.step {c : Chain} (h : c.Sound) (x : Call) :
    c.Step x (c.call x).1 (c.call x).2 := by
  cases x with
  | resolve table maxMessageSize peer =>
    rcases h.paired.resolution table maxMessageSize peer with
      ⟨tenancy, htenancy, hknown⟩ |
        ⟨hunknown, ⟨htaken, hfault⟩ | ⟨-, hmissing, -⟩ | ⟨hnew, front, stage,
          back, hstages, hbound⟩⟩
    · simp only [call, hknown]
      exact .known htenancy
    · simp only [call, hfault]
      exact .taken hunknown htaken
    · exact absurd h.topic hmissing
    · simp only [call, hbound]
      exact .bound rfl hunknown hnew hstages
  | insert anchor name stage =>
    rcases c.insertBefore_cases anchor name stage with ⟨htaken, hinsert⟩ |
      ⟨hnew, hmissing, hinsert⟩ | ⟨hnew, front, found, back, hstages, hinsert⟩
    · simp only [call, hinsert]
      exact .duplicate htaken
    · simp only [call, hinsert]
      exact .notFound hnew hmissing
    · simp only [call, hinsert]
      exact .inserted hnew hstages
  | decode input =>
    rcases c.next_cases input with ⟨hdecoder, hnext⟩ |
      ⟨front, name, d, back, hstages, hfront, hnext⟩
    · simp only [call, hnext]
      exact .idle hdecoder
    · simp only [call, hnext]
      exact .decoded hstages hfront

section Steps

variable {c c' : Chain} {x : Call} {a : Answer}

/-- A stage with a new name keeps a chain well-formed, and so does a tenancy
that comes with the decoder. -/
theorem Sound.insert {front back : List (String × Stage)} {name : String}
    (h : c.Sound) (hstages : c.stages = front ++ back) (hnew : name ∉ c.names)
    (stage : Stage) {tenancy : Option Tenancy}
    (hpaired : tenancy.isSome = true → decoderName ∈ name :: c.names) :
    Sound ⟨front ++ (name, stage) :: back, tenancy⟩ := by
  have hperm : (Chain.mk (front ++ (name, stage) :: back) tenancy).names.Perm
      (name :: c.names) := by
    simp only [names, hstages, List.map_append, List.map_cons]
    exact List.perm_middle
  exact
    { distinct := hperm.nodup_iff.2 (List.nodup_cons.2 ⟨hnew, h.distinct⟩)
      topic := hperm.mem_iff.2 (List.mem_cons_of_mem _ h.topic)
      paired := fun known hsome => contains_iff.2
        (hperm.mem_iff.2 (hpaired (Option.isSome_iff_exists.2 ⟨known, hsome⟩)))
        }

theorem Step.sound (h : c.Step x a c') (hc : c.Sound) : c'.Sound := by
  cases h with
  | known | taken | duplicate | notFound | idle => exact hc
  | bound htenancy hunknown hnew hstages =>
    exact hc.insert hstages hnew _ fun _ => List.mem_cons_self
  | inserted hnew hstages =>
    refine hc.insert hstages hnew _ fun hsome => List.mem_cons_of_mem _ ?_
    obtain ⟨tenancy, htenancy⟩ := Option.isSome_iff_exists.1 hsome
    exact contains_iff.1 (hc.paired tenancy htenancy)
  | @decoded input front back name d hstages hfront =>
    have hnames : Chain.names { c with
        stages := front ++ (name, .frameDecoder (d.next input).2.1) :: back } =
          c.names := by
      simp [names, hstages]
    exact
      { distinct := hnames ▸ hc.distinct
        topic := hnames ▸ hc.topic
        paired := fun tenancy htenancy =>
          contains_iff.2 (hnames ▸ contains_iff.1 (hc.paired tenancy htenancy))
            }

/-- A step puts a stage in, or lets a decoder take input, or changes nothing. -/
theorem Step.change (h : c.Step x a c') :
    c' = c ∨ a.isFailure = false ∧ c.stages.Sublist c'.stages ∨
      ∃ input, x = .decode input ∧ c'.outline = c.outline := by
  cases h with
  | known | taken | duplicate | notFound | idle => exact .inl rfl
  | bound _ _ _ hstages | inserted _ hstages =>
    rw [hstages]
    exact .inr
      (.inl ⟨rfl, (List.Sublist.refl _).append (List.sublist_cons_self _ _)⟩)
  | decoded hstages hfront =>
    refine .inr (.inr ⟨_, rfl, ?_⟩)
    simp [outline, hstages, Stage.fresh, Wire.Decoder.fresh_next]

/-- No stage is taken out, and none changes its place among the others. -/
theorem Step.outline_sublist (h : c.Step x a c') :
    c.outline.Sublist c'.outline := by
  rcases h.change with rfl | ⟨-, hsublist⟩ | ⟨-, -, hsame⟩
  · exact .refl _
  · exact hsublist.map _
  · rw [hsame]

/-- Only decoding reaches into a stage. -/
theorem Step.stages_sublist (h : c.Step x a c')
    (hx : ∀ input, x ≠ .decode input) :
    c.stages.Sublist c'.stages := by
  rcases h.change with rfl | ⟨-, hsublist⟩ | ⟨input, hdecode, -⟩
  · exact .refl _
  · exact hsublist
  · exact absurd hdecode (hx input)

/-- The tenancy that is known is kept, and the one that is given is known
then. -/
theorem Step.tenancy_eq (h : c.Step x a c') :
    c'.tenancy = c.tenancy.or a.tenancy? ∧
      ∀ tenancy, a.tenancy? = some tenancy → c'.tenancy = some tenancy := by
  cases h with
  | known htenancy => exact ⟨by rw [htenancy]; rfl, fun _ h => htenancy.trans h⟩
  | bound htenancy hunknown hnew hstages =>
    exact ⟨by rw [hunknown]; rfl, fun _ h => h⟩
  | taken | inserted | duplicate | notFound | idle | decoded =>
    exact ⟨Option.or_none.symm, nofun⟩

/-- A call that is refused changes nothing. -/
theorem Step.of_refused {fault : Fault} (h : c.Step x (.refused fault) c') :
    c' = c := by
  cases h <;> rfl

/-- A call that fails leaves every stage and the tenancy. -/
theorem Step.of_failure (h : c.Step x a c') (hfailure : a.isFailure = true) :
    c'.outline = c.outline ∧ c'.tenancy = c.tenancy := by
  have htenancy : a.tenancy? = none := by
    cases a with
    | resolved tenancy => cases hfailure
    | inserted | refused fault | decoded outcome rest => rfl
  refine ⟨?_, by rw [h.tenancy_eq.1, htenancy, Option.or_none]⟩
  rcases h.change with rfl | ⟨hsuccess, -⟩ | ⟨-, -, hsame⟩
  · rfl
  · rw [hsuccess] at hfailure
    cases hfailure
  · exact hsame

/-- Whether a call puts in a stage of the caller's choice. -/
def Call.isInsert : Call → Bool
  | .insert .. => true
  | _ => false

/-- A chain whose decoder is that of its tenancy. -/
def Served (c : Chain) : Prop :=
  c.decoder.map Wire.Decoder.fresh = c.tenancy.map Tenancy.decoder

theorem Step.served (h : c.Step x a c') (hx : x.isInsert = false)
    (hc : c.Served) : c'.Served := by
  cases h with
  | known | taken | idle => exact hc
  | @bound _ _ _ tenancy front back stage htenancy hunknown hnew hstages =>
    have hnone : decoderOf c.stages = none := by
      simpa [Served, hunknown, decoder] using hc
    rw [hstages, decoderOf_append] at hnone
    have hfront : decoderOf front = none := (Option.or_eq_none_iff.1 hnone).1
    simp [Served, decoder, decoderOf_append, hfront, decoderOf,
      tenancy.fresh_decoder]
  | inserted | duplicate | notFound => cases hx
  | decoded hstages hfront =>
    have hsame := hc
    simp only [Served, decoder, hstages, decoderOf_append, hfront, decoderOf,
      Option.none_or] at hsame
    simpa [Served, decoder, decoderOf_append, hfront, decoderOf,
      Wire.Decoder.fresh_next] using hsame

end Steps

/-! ## Lives -/

theorem Sound.after {c : Chain} (h : c.Sound) (calls : List Call) :
    (c.after calls).Sound := by
  induction calls generalizing c with
  | nil => exact h
  | cons x calls ih => exact ih ((h.step x).sound h)

theorem Sound.outline_sublist {c : Chain} (h : c.Sound) (calls : List Call) :
    c.outline.Sublist (c.after calls).outline := by
  induction calls generalizing c with
  | nil => exact .refl _
  | cons x calls ih =>
    exact (h.step x).outline_sublist.trans (ih ((h.step x).sound h))

/-- The tenancy of a chain is the first that was given, and no other is
given. -/
theorem Sound.tenancy_after {c : Chain} (h : c.Sound) (calls : List Call) :
    (c.after calls).tenancy =
      c.tenancy.or ((c.answers calls).findSome? Answer.tenancy?) ∧
      ∀ tenancy, .resolved tenancy ∈ c.answers calls →
        (c.after calls).tenancy = some tenancy := by
  induction calls generalizing c with
  | nil => exact ⟨Option.or_none.symm, nofun⟩
  | cons x calls ih =>
    obtain ⟨hfirst, hgiven⟩ := (h.step x).tenancy_eq
    obtain ⟨hlater, hmem⟩ := ih ((h.step x).sound h)
    have hrun : (c.after (x :: calls)).tenancy =
        c.tenancy.or ((c.answers (x :: calls)).findSome? Answer.tenancy?) := by
      rw [hfirst, Option.or_assoc] at hlater
      refine hlater.trans (congrArg _ ?_)
      cases hanswer : (c.call x).1.tenancy? <;> simp [answers, hanswer]
    refine ⟨hrun, fun tenancy htenancy => ?_⟩
    rcases List.mem_cons.1 htenancy with hhead | htail
    · have hnow := hgiven tenancy (by rw [← hhead]; rfl)
      exact (hlater.trans (by rw [hnow, Option.some_or]))
    · exact hmem tenancy htail

theorem Sound.served_after {c : Chain} (h : c.Sound) (hc : c.Served)
    {calls : List Call} (hcalls : ∀ x ∈ calls, x.isInsert = false) :
    (c.after calls).Served := by
  induction calls generalizing c with
  | nil => exact hc
  | cons x calls ih =>
    obtain ⟨hx, hcalls⟩ := List.forall_mem_cons.1 hcalls
    exact ih ((h.step x).sound h) ((h.step x).served hx hc) hcalls

/-- Whatever a fresh chain is asked for, in any order:

* names stay distinct, and the stages that are there stay, in their order;
* each call is a `Step`: a resolution is refused only when someone else took the
  name of the decoder, an insertion only when its name is taken or its anchor
  missing;
* a call that fails leaves the stages and the tenancy, one that is refused
  leaves the whole chain, and only decoding reaches into a stage;
* a resolution that succeeds gives the tenancy of the chain.  It leaves a chain
  that has one as it is, with all that its decoder has taken in.  Otherwise it
  binds the tenancy of the peer and puts its decoder directly in front of the
  topic decoder;
* every resolution that succeeded gave the tenancy of the first, and with it
  there is one stage with the name of the decoder;
* unless a foreign stage was put in, there is a decoder exactly when there is a
  tenancy, and it is of the format of the tenancy. -/
theorem resolved_once (calls : List Call) :
    let c := initial.after calls
    c.names.Nodup ∧
    (∀ later, c.outline.Sublist (c.after later).outline) ∧
    (∀ x, c.Step x (c.call x).1 (c.call x).2) ∧
    (∀ x, (c.call x).1.isFailure = true →
      (c.call x).2.outline = c.outline ∧ (c.call x).2.tenancy = c.tenancy) ∧
    (∀ x fault, (c.call x).1 = .refused fault → (c.call x).2 = c) ∧
    (∀ x, (∀ input, x ≠ .decode input) → c.stages.Sublist (c.call x).2.stages) ∧
    (∀ table maxMessageSize peer tenancy c',
      c.resolve table maxMessageSize peer = .ok (tenancy, c') →
        c'.tenancy = some tenancy ∧
        (c.tenancy = some tenancy ∧ c' = c ∨
          c.tenancy = none ∧ tenancy = table.lookup maxMessageSize peer ∧
          ∃ front stage back, c.stages = front ++ (topicName, stage) :: back ∧
            c'.stages = front ++ (decoderName, .frameDecoder tenancy.decoder) ::
              (topicName, stage) :: back)) ∧
    c.tenancy = (initial.answers calls).findSome? Answer.tenancy? ∧
    (∀ tenancy, .resolved tenancy ∈ initial.answers calls →
      c.tenancy = some tenancy) ∧
    (c.tenancy.isSome = true → c.names.count decoderName = 1) ∧
    ((∀ x ∈ calls, x.isInsert = false) →
      c.decoder.map Wire.Decoder.fresh =
        c.tenancy.map fun tenancy =>
          tenancy.format.decoder tenancy.maxMessageSize) := by
  intro c
  have hsound : c.Sound := Sound.initial.after calls
  obtain ⟨htenancy, hmem⟩ := Sound.initial.tenancy_after calls
  refine ⟨hsound.distinct, hsound.outline_sublist, hsound.step, fun x =>
    (hsound.step x).of_failure, fun x fault hrefused => ?_, fun x =>
      (hsound.step x).stages_sublist,
    fun _ _ _ _ _ hresolve =>
      ⟨tenancy_resolve hresolve, hsound.resolve_ok hresolve⟩,
    htenancy, hmem, fun hsome => ?_, Sound.initial.served_after rfl⟩
  · have hstep := hsound.step x
    rw [hrefused] at hstep
    exact hstep.of_refused
  · obtain ⟨tenancy, hknown⟩ := Option.isSome_iff_exists.1 hsome
    exact List.count_eq_one_of_mem hsound.distinct
      (contains_iff.1 (hsound.paired tenancy hknown))

/-- A stage may come between the tenant's decoder and the topic decoder
later. -/
example :
    let c := initial.after
      [.resolve {} 1024 none, .insert topicName "tap" .session,
        .resolve {} 2048 none]
    c.names = [resolverName, decoderName, "tap", topicName, sessionName] ∧
      c.tenancy = some (Tenancy.delayed 1024) := by
  decide

end Chain

end DeviceGateway

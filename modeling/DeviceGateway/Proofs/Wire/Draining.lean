import DeviceGateway.Wire.Decoder

/-!
# Draining an input

`drainWith` takes outcomes off an input with a bound on their number, because a
loop has to end.  `Drains` is the same without a bound: a relation that holds
exactly of what the loop is meant to compute.  A proof about draining speaks of
the relation, follows its constructors, and shows apart from that, for the
decoder at hand, that the bound is never met.

An input arrives in chunks.  `feed` appends each chunk to what the one before
has left, and drains.

## Main results

* `Drains.drainWith_eq`: with bound enough, the loop computes what is related.
* `Drains.unique`: there is one way to drain an input.
-/

namespace DeviceGateway.Wire.Decoder

/-- Whether more is to be taken after an outcome. -/
def goesOn (goOn : Fault → Bool) : Except Fault Frame → Bool
  | .ok _ => true
  | .error fault => goOn fault

/-- Taking outcomes off an input until it gives nothing more, or one after which
no more is to be taken. -/
inductive Drains (goOn : Fault → Bool) :
    Decoder → List UInt8 → List (Except Fault Frame) → Decoder →
      List UInt8 → Prop
  | done {d d' : Decoder} {input rest : List UInt8}
      (h : d.next input = (none, d', rest)) :
      Drains goOn d input [] d' rest
  | last {d d' : Decoder} {input rest : List UInt8} {o : Except Fault Frame}
      (h : d.next input = (some o, d', rest)) (hstop : goesOn goOn o = false) :
      Drains goOn d input [o] d' rest
  | more {d d₁ d' : Decoder} {input rest₁ rest : List UInt8}
      {o : Except Fault Frame} {os : List (Except Fault Frame)}
      (h : d.next input = (some o, d₁, rest₁)) (hgo : goesOn goOn o = true)
      (hmore : Drains goOn d₁ rest₁ os d' rest) :
      Drains goOn d input (o :: os) d' rest

theorem Drains.drainWith_eq {goOn : Fault → Bool} {d d' : Decoder}
    {input rest : List UInt8} {os : List (Except Fault Frame)}
    (h : Drains goOn d input os d' rest) {fuel : Nat} (hfuel : os.length < fuel)
    (done : List (Except Fault Frame)) :
    drainWith goOn done fuel d input = (done.reverse ++ os, d', rest) := by
  induction h generalizing fuel done with
  | done h =>
    obtain ⟨fuel, rfl⟩ : ∃ n, fuel = n + 1 := ⟨fuel - 1, by omega⟩
    simp [drainWith, h]
  | @last d d' input rest o h hstop =>
    obtain ⟨fuel, rfl⟩ : ∃ n, fuel = n + 1 := ⟨fuel - 1, by omega⟩
    cases o with
    | ok frame => cases hstop
    | error fault =>
      have hnot : goOn fault = false := hstop
      simp [drainWith, h, hnot]
  | @more d d₁ d' input rest₁ rest o os h hgo hmore ih =>
    obtain ⟨fuel, rfl⟩ : ∃ n, fuel = n + 1 := ⟨fuel - 1, by omega⟩
    have hfuel' : os.length < fuel := by simpa using hfuel
    have hrest := ih hfuel' (o :: done)
    cases o with
    | ok frame =>
      simp only [drainWith, h]
      simpa using hrest
    | error fault =>
      have hgo' : goOn fault = true := hgo
      simp only [drainWith, h, hgo', if_true]
      simpa using hrest

/-- There is one way to drain an input. -/
theorem Drains.unique {goOn : Fault → Bool} {d d₁ d₂ : Decoder}
    {input rest₁ rest₂ : List UInt8} {os₁ os₂ : List (Except Fault Frame)}
    (h₁ : Drains goOn d input os₁ d₁ rest₁)
    (h₂ : Drains goOn d input os₂ d₂ rest₂) :
    os₁ = os₂ ∧ d₁ = d₂ ∧ rest₁ = rest₂ := by
  induction h₁ generalizing os₂ with
  | done h =>
    cases h₂ with
    | done h' =>
      rw [h] at h'
      cases h'
      exact ⟨rfl, rfl, rfl⟩
    | last h' => rw [h] at h'; cases h'
    | more h' => rw [h] at h'; cases h'
  | last h hstop =>
    cases h₂ with
    | done h' => rw [h] at h'; cases h'
    | last h' =>
      rw [h] at h'
      cases h'
      exact ⟨rfl, rfl, rfl⟩
    | more h' hgo' =>
      rw [h] at h'
      cases h'
      rw [hstop] at hgo'
      cases hgo'
  | more h hgo hmore ih =>
    cases h₂ with
    | done h' => rw [h] at h'; cases h'
    | last h' hstop' =>
      rw [h] at h'
      cases h'
      rw [hgo] at hstop'
      cases hstop'
    | more h' hgo' hmore' =>
      rw [h] at h'
      cases h'
      obtain ⟨rfl, hd, hrest⟩ := ih hmore'
      exact ⟨rfl, hd, hrest⟩

/-- Appends chunk after chunk to what is left of the input, and drains it. -/
def feed (drain : Decoder → List UInt8 →
    List (Except Fault Frame) × Decoder × List UInt8)
    (d : Decoder) (input : List UInt8) :
    List (List UInt8) → List (Except Fault Frame) × Decoder × List UInt8
  | [] => ([], d, input)
  | chunk :: chunks =>
    let first := drain d (input ++ chunk)
    let others := feed drain first.2.1 first.2.2 chunks
    (first.1 ++ others.1, others.2)

end DeviceGateway.Wire.Decoder

import SevenSegment.Proofs.Session.Playback

namespace SevenSegment.Session

open Line (Gpio Link Playback)
open Panel (Payload)

namespace Stage

def resets : Stage → Bool
  | .resetClockLow | .resetDataLow | .resetClockRelease | .resetDataRelease | .resetVerify => true
  | _ => false

-- The part of a bus reset that gives the pulses.
def pulsing : Stage → Bool
  | .resetClockLow | .resetDataLow | .resetClockRelease | .resetDataRelease => true
  | _ => false

-- The stages from which the way to the next bit leads through no acknowledgement.
def beforeBit : Stage → Bool
  | .idle | .resetClockLow | .resetDataLow | .resetClockRelease | .resetDataRelease | .resetVerify
  | .startDataLow | .startClockLow | .bitClockLow | .bitDrive => true
  | _ => false

theorem resets_of_pulsing {stage : Stage} (h : stage.pulsing = true) : stage.resets = true := by
  cases stage <;> first | rfl | cases h

end Stage

section Settle

variable {session next : Session} {resetPulses : UInt8} {up : Bool}

theorem countBit_bits (session : Session) : session.countBit.bits = session.driven := by
  unfold countBit driven
  split <;> rfl

theorem countBit_pulses (session : Session) : session.countBit.pulses = session.pulses := by
  unfold countBit
  split <;> rfl

theorem bits_le_driven (session : Session) : session.bits ≤ session.driven := by
  unfold driven
  split <;> omega

theorem driven_le_of_settle (hmove : session.move? ≠ none)
    (h : session.countBit.settle resetPulses up = .ok next)
    (hdriven : session.driven ≤ Payload.totalBits) : next.driven ≤ Payload.totalBits := by
  rw [driven_of_settle h]
  split
  · rename_i hstage
    have hsame : session.driven = session.bits := if_neg (by simp [hstage])
    have hbits := mt (move?_eq_none_iff _).mpr hmove
    simp only [hstage, true_and, Nat.not_le] at hbits
    omega
  · exact hdriven

theorem pulses_of_leaving (h : session.countBit.settle resetPulses up = .ok next)
    (hnext : next.stage.pulsing = false) :
    session.stage.pulsing = false ∧ next.pulses = session.pulses ∨ next.pulses = 0 := by
  obtain ⟨payload, bits, pulses, stage⟩ := session
  cases stage <;>
    simp only [countBit, settle, proceed, proceedIf, countPulse, reduceCtorEq, if_false,
      if_true] at h <;>
    (repeat' split at h) <;> cases h <;> simp_all [Stage.pulsing]

-- After the last bit there is no way back to a bit but through the idle stage.
theorem bits_ne_of_settle (h : session.countBit.settle resetPulses up = .ok next)
    (hnext : next.stage.beforeBit = true) (hidle : next.stage ≠ .idle) :
    session.stage.beforeBit = true ∧ next.bits = session.bits ∨ next.bits ≠ Payload.totalBits := by
  obtain ⟨payload, bits, pulses, stage⟩ := session
  cases stage <;>
    simp only [countBit, settle, proceed, proceedIf, countPulse, reduceCtorEq, if_false,
      if_true] at h <;>
    (repeat' split at h) <;> cases h <;>
    simp_all [Stage.beforeBit, Payload.endsTransfer, Payload.continuesAfter, Payload.commandBits,
      Payload.gridBits, Payload.totalBits, Payload.size] <;> omega

end Settle

variable {σ : Type} [Gpio σ]

theorem step_of_no_move {session : Session} (h : session.move? = none) (resetPulses : UInt8)
    (link : Link) (lines : σ) :
    session.step resetPulses link lines =
      ⟨session, link, lines, .trapped .payloadOverrun, [.step session.stage]⟩ := by
  simp only [step, h]

theorem step_trapped_iff (session : Session) (resetPulses : UInt8) (link : Link) (lines : σ)
    (trap : Trap) :
    (session.step resetPulses link lines).progress = .trapped trap ↔
      trap = .payloadOverrun ∧ session.move? = none := by
  constructor
  · intro htrap
    obtain ⟨hoverrun, hmove, -⟩ := (htrap ▸ session.step_becomes resetPulses link lines).of_trapped
    exact ⟨hoverrun, hmove⟩
  · rintro ⟨rfl, hmove⟩
    rw [step_of_no_move hmove]

-- What may be done with a session. Pulses, pins and lines may be others at every step.
inductive Use (σ : Type) where
  | load (payload : Payload)
  | clear
  | step (resetPulses : UInt8) (link : Link) (lines : σ)

-- A step that was taken: from which stage, and what it came to.
structure Turn where
  stage : Stage
  progress : Progress

-- A session and its steps since it was last loaded or cleared.
structure Used where
  session : Session := .empty
  turns : List Turn := []

namespace Used

def apply (used : Used) : Use σ → Used
  | .load payload => { session := .load payload }
  | .clear => { session := .empty }
  | .step resetPulses link lines =>
    let step := used.session.step resetPulses link lines
    ⟨step.session, used.turns ++ [⟨used.session.stage, step.progress⟩]⟩

def after (uses : List (Use σ)) : Used := uses.foldl apply {}

def HasEnded (used : Used) : Prop :=
  ∃ turn ∈ used.turns, ∃ outcome, turn.progress = .complete outcome

def GaveUpInReset (used : Used) : Prop :=
  ∃ turn ∈ used.turns, turn.stage.resets = true ∧
    ∃ fault, turn.progress = .complete (.failed fault)

-- The counters are in range whatever an earlier end of the session left in them, and it leaves
-- pulses only where a bus reset was given up.
structure InRange (used : Used) : Prop where
  driven : used.session.driven ≤ Payload.totalBits
  pulses : used.session.pulses < 255
  left : ¬used.HasEnded → used.session.stage.beforeBit = true →
    used.session.bits < Payload.totalBits
  counted : ¬used.GaveUpInReset → used.session.stage.pulsing = false → used.session.pulses = 0

theorem InRange.fresh (payload : Payload) : InRange { session := .load payload } where
  driven := Nat.zero_le _
  pulses := Nat.zero_lt_succ _
  left _ _ := Nat.zero_lt_succ _
  counted _ _ := rfl

variable {used : Used} {next : Session}

theorem not_hasEnded_of_append {turn : Turn}
    (h : ¬HasEnded ⟨next, used.turns ++ [turn]⟩) :
    ¬used.HasEnded ∧ ∀ outcome, turn.progress ≠ .complete outcome := by
  refine ⟨fun ⟨earlier, hmem, hended⟩ => h ⟨earlier, List.mem_append_left _ hmem, hended⟩,
    fun outcome hcomplete => h ⟨turn, by simp, outcome, hcomplete⟩⟩

theorem not_gaveUpInReset_of_append {turn : Turn}
    (h : ¬GaveUpInReset ⟨next, used.turns ++ [turn]⟩) :
    ¬used.GaveUpInReset ∧
      (turn.stage.resets = true → ∀ fault, turn.progress ≠ .complete (.failed fault)) := by
  refine ⟨fun ⟨earlier, hmem, hgave⟩ => h ⟨earlier, List.mem_append_left _ hmem, hgave⟩,
    fun hresets fault hfailed => h ⟨turn, by simp, hresets, fault, hfailed⟩⟩

theorem InRange.becomes {resetPulses : UInt8} {progress : Progress} (h : used.InRange)
    (hbecomes : used.session.Becomes resetPulses next progress) :
    InRange ⟨next, used.turns ++ [⟨used.session.stage, progress⟩]⟩ := by
  cases hbecomes with
  | trapped hmove =>
      exact ⟨h.driven, h.pulses, fun hended => h.left (not_hasEnded_of_append hended).1,
        fun hgave => h.counted (not_gaveUpInReset_of_append hgave).1⟩
  | failed fault =>
      refine ⟨?_, ?_, fun hended => ?_, fun hgave _ => ?_⟩
      · exact Nat.le_trans (Nat.le_of_eq used.session.countBit_bits) h.driven
      · exact Nat.lt_of_le_of_lt (Nat.le_of_eq used.session.countBit_pulses) h.pulses
      · exact absurd rfl ((not_hasEnded_of_append hended).2 (.failed fault))
      · obtain ⟨hbefore, hnow⟩ := not_gaveUpInReset_of_append hgave
        have hpulsing : used.session.stage.pulsing = false := by
          rw [Bool.eq_false_iff]
          exact fun hpulsing => hnow (Stage.resets_of_pulsing hpulsing) fault rfl
        exact used.session.countBit_pulses.trans (h.counted hbefore hpulsing)
  | settled hmove hsettle hprogress =>
      refine ⟨?_, ?_, fun hended hnext => ?_, fun hgave hnext => ?_⟩
      · exact driven_le_of_settle hmove hsettle h.driven
      · rcases pulses_le_of_settle hsettle with hle | hlt
        · exact Nat.lt_of_le_of_lt hle h.pulses
        · exact Nat.lt_of_lt_of_le hlt (Nat.le_of_lt_succ resetPulses.toNat_lt)
      · obtain ⟨hbefore, hnow⟩ := not_hasEnded_of_append hended
        have hidle : next.stage ≠ .idle := fun hidle => hnow .sent (hprogress.trans (if_pos hidle))
        rcases bits_ne_of_settle hsettle hnext hidle with ⟨hstage, hsame⟩ | hbits
        · exact hsame ▸ h.left hbefore hstage
        · have hle := driven_le_of_settle hmove hsettle h.driven
          exact Nat.lt_of_le_of_ne (Nat.le_trans next.bits_le_driven hle) hbits
      · obtain ⟨hbefore, -⟩ := not_gaveUpInReset_of_append hgave
        rcases pulses_of_leaving hsettle hnext with ⟨hpulsing, hsame⟩ | hzero
        · exact hsame.trans (h.counted hbefore hpulsing)
        · exact hzero

theorem InRange.apply (h : used.InRange) : ∀ (call : Use σ), (used.apply call).InRange
  | .load payload => .fresh payload
  | .clear => .fresh .zero
  | .step resetPulses link lines => h.becomes (used.session.step_becomes resetPulses link lines)

theorem InRange.after (uses : List (Use σ)) : (Used.after uses).InRange := by
  have hfold : ∀ used : Used, used.InRange → (uses.foldl Used.apply used).InRange := by
    induction uses with
    | nil => exact fun _ h => h
    | cons call uses ih => exact fun used h => ih _ (h.apply call)
  exact hfold {} (.fresh .zero)

theorem InRange.trapped_iff (h : used.InRange) (resetPulses : UInt8) (link : Link)
    (lines : σ) (trap : Trap) :
    (used.session.step resetPulses link lines).progress = .trapped trap ↔
      trap = .payloadOverrun ∧ used.session.stage = .bitDrive ∧
        used.session.bits = Payload.totalBits := by
  have hbits := Nat.le_trans used.session.bits_le_driven h.driven
  rw [step_trapped_iff, move?_eq_none_iff, Nat.le_antisymm_iff (a := used.session.bits)]
  simp only [hbits, true_and]

theorem InRange.hasEnded (h : InRange used) (hstage : used.session.stage = .bitDrive)
    (hbits : used.session.bits = Payload.totalBits) : used.HasEnded := by
  apply Classical.byContradiction
  intro hended
  have hleft := h.left hended (by rw [hstage]; rfl)
  omega

-- However a session is used, both of its counters leave room in a byte for one more. Pulses are
-- left over outside a bus reset only if one was given up. A step traps just where a bit after the
-- last one is due, which happens only beyond an end of the session, and it changes nothing then.
theorem after_in_range (uses : List (Use σ)) :
    let used := after uses
    used.session.bits ≤ Payload.totalBits ∧ used.session.bits + 1 < UInt8.size ∧
    used.session.pulses ≤ 254 ∧ used.session.pulses + 1 < UInt8.size ∧
    (used.session.stage.resets = false → used.session.pulses ≠ 0 → used.GaveUpInReset) ∧
    (∀ resetPulses link lines trap,
      let step := used.session.step resetPulses link (lines : σ)
      (step.progress = .trapped trap ↔
        trap = .payloadOverrun ∧ used.session.stage = .bitDrive ∧
          used.session.bits = Payload.totalBits) ∧
      (step.progress = .trapped trap →
        used.HasEnded ∧ step.session = used.session ∧ step.link = link ∧ step.lines = lines)) ∧
    (∀ payload, (after (uses ++ [.load payload])).session = ⟨payload, 0, 0, .idle⟩) ∧
    (after (uses ++ [.clear])).session = ⟨.zero, 0, 0, .idle⟩ := by
  intro used
  have h : used.InRange := InRange.after uses
  have hbits : used.session.bits ≤ 72 := Nat.le_trans used.session.bits_le_driven h.driven
  have hpulses := h.pulses
  have hsize : UInt8.size = 256 := rfl
  refine ⟨hbits, by omega, by omega, by omega, fun hresets hpulses => ?_,
    fun resetPulses link lines trap => ⟨h.trapped_iff resetPulses link lines trap, fun htrap => ?_⟩,
    fun payload => ?_, ?_⟩
  · apply Classical.byContradiction
    intro hgave
    have hpulsing : used.session.stage.pulsing = false :=
      Bool.eq_false_iff.mpr fun hpulsing => by simp [Stage.resets_of_pulsing hpulsing] at hresets
    exact hpulses (h.counted hgave hpulsing)
  · obtain ⟨-, hstage, hlast⟩ := (h.trapped_iff resetPulses link lines trap).mp htrap
    have hmove := ((step_trapped_iff _ _ _ _ _).mp htrap).2
    rw [step_of_no_move hmove]
    exact ⟨h.hasEnded hstage hlast, rfl, rfl, rfl⟩
  · simp only [after, List.foldl_append, List.foldl_cons, List.foldl_nil, apply, load]
  · simp only [after, List.foldl_append, List.foldl_cons, List.foldl_nil, apply, empty]

-- Lines on their own read high, so no byte is acknowledged. Stepped on after each refusal, a
-- session gets through its payload a byte at a time.
def refused : List (Use Playback) := List.replicate 283 (.step 8 (.bind 0 1) ⟨[]⟩)

-- A bus reset given up when the clock cannot be pulled low for its second pulse.
def interrupted : List (Use Playback) :=
  [.step 8 (.bind 0 1) ⟨[.configure 0 .released (.ok ()), .read 0 (.ok false)]⟩] ++
    List.replicate 4 (.step 8 (.bind 0 1) ⟨[]⟩) ++
    [.step 8 (.bind 0 1) ⟨[.configure 0 .low (.error ⟨"open circuit"⟩)]⟩]

theorem after_in_range_left_over :
    ((after refused).session.stage = .bitDrive ∧
      (after refused).session.bits = Payload.totalBits ∧ (after refused).HasEnded ∧
      ((after refused).session.step 8 (.bind 0 1) (⟨[]⟩ : Playback)).session =
        (after refused).session) ∧
    (after interrupted).session.stage = .idle ∧ (after interrupted).session.pulses = 1 ∧
      (after interrupted).GaveUpInReset := by
  have hstage : (after refused).session.stage = .bitDrive := by decide +kernel
  have hbits : (after refused).session.bits = Payload.totalBits := by decide +kernel
  obtain ⟨-, -, -, -, -, hsteps, -⟩ := after_in_range refused
  obtain ⟨htrapped, hkept⟩ := hsteps 8 (.bind 0 1) ⟨[]⟩ .payloadOverrun
  obtain ⟨hended, hsame, -⟩ := hkept (htrapped.mpr ⟨rfl, hstage, hbits⟩)
  have hidle : (after interrupted).session.stage = .idle := by decide +kernel
  have hpulses : (after interrupted).session.pulses = 1 := by decide +kernel
  obtain ⟨-, -, -, -, hgave, -⟩ := after_in_range interrupted
  exact ⟨⟨hstage, hbits, hended, hsame⟩, hidle, hpulses,
    hgave (by rw [hidle]; rfl) (by rw [hpulses]; decide)⟩

end Used

end SevenSegment.Session

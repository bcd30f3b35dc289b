import SevenSegment.Session.Step

namespace SevenSegment.Session

open Line (Gpio Link)
open Panel (Payload)

def bitCodes : List Nat := [30, 31, 32]

def byteCodes : List Nat := (List.replicate 8 bitCodes).flatten ++ [40, 41, 42, 43]

def transferCodes (bytes : Nat) : List Nat :=
  [20, 21] ++ (List.replicate bytes byteCodes).flatten ++ [44, 45, 50, 51, 52, 53]

def payloadCodes : List Nat := transferCodes 1 ++ transferCodes 7 ++ transferCodes 1

def pulseCodes : List Nat := [10, 11, 12, 13]

-- A bus reset gives one pulse even if it is asked for none.
def resetCodes (resetPulses : UInt8) : List Nat :=
  (List.replicate (max 1 resetPulses.toNat) pulseCodes).flatten ++ [14]

def word (resetPulses : UInt8) (busy : Bool) : List Nat :=
  0 :: (if busy then resetCodes resetPulses else []) ++ payloadCodes

theorem length_flatten_replicate (count : Nat) (codes : List Nat) :
    (List.replicate count codes).flatten.length = count * codes.length := by
  simp [List.length_flatten]

theorem length_transferCodes (bytes : Nat) :
    (transferCodes bytes).length = 28 * bytes + 8 := by
  have hbyte : byteCodes.length = 28 := rfl
  simp only [transferCodes, List.length_append, length_flatten_replicate, hbyte, List.length_cons,
    List.length_nil]
  omega

theorem length_word (resetPulses : UInt8) (busy : Bool) :
    (word resetPulses busy).length =
      277 + if busy then 4 * max 1 resetPulses.toNat + 1 else 0 := by
  have hpayload : payloadCodes.length = 276 := by
    simp only [payloadCodes, List.length_append, length_transferCodes]
  cases busy with
  | false => simp [word, hpayload]
  | true =>
      have hpulse : pulseCodes.length = 4 := rfl
      simp only [word, ite_true, resetCodes, List.length_append, List.length_cons,
        length_flatten_replicate, hpulse, hpayload, List.length_nil]
      omega

-- The answer that does not end a session in this stage. The idle stage takes either one.
def Stage.expects (busy : Bool) : Stage → Bool
  | .idle => !busy
  | .ackSample => false
  | _ => true

-- A session goes through stages with these codes and every answer is the expected one.
inductive Walk (resetPulses : UInt8) (busy : Bool) : Session → List Nat → Session → Prop where
  | nil (session : Session) : Walk resetPulses busy session [] session
  | cons {session next last : Session} {codes : List Nat} :
      session.countBit.settle resetPulses (session.stage.expects busy) = .ok next →
      Walk resetPulses busy next codes last →
      Walk resetPulses busy session (session.stage.code :: codes) last

section Walk

variable (resetPulses : UInt8) (busy : Bool)

variable {resetPulses busy} in
theorem Walk.append {first middle last : Session} {codes more : List Nat}
    (h : Walk resetPulses busy first codes middle) (h' : Walk resetPulses busy middle more last) :
    Walk resetPulses busy first (codes ++ more) last := by
  induction h with
  | nil => exact h'
  | cons hsettle _ ih => exact .cons hsettle (ih h')

variable {resetPulses busy} in
theorem Walk.eq_of_nil {first last : Session} (h : Walk resetPulses busy first [] last) :
    first = last := by
  cases h
  rfl

variable {resetPulses busy} in
theorem Walk.head_code {first last : Session} {code : Nat} {codes : List Nat}
    (h : Walk resetPulses busy first (code :: codes) last) : first.stage.code = code := by
  cases h
  rfl

theorem walk_bit (payload : Payload) (bits pulses : Nat) :
    Walk resetPulses busy ⟨payload, bits, pulses, .bitClockLow⟩ bitCodes
      ⟨payload, bits + 1, pulses,
        if (bits + 1) % 8 = 0 then .ackClockLow else .bitClockLow⟩ :=
  .cons rfl (.cons rfl (.cons rfl (.nil _)))

theorem walk_bits (payload : Payload) (byte count pulses : Nat) (hcount : count < 8) :
    Walk resetPulses busy ⟨payload, 8 * byte, pulses, .bitClockLow⟩
      (List.replicate count bitCodes).flatten
      ⟨payload, 8 * byte + count, pulses, .bitClockLow⟩ := by
  induction count with
  | zero => exact .nil _
  | succ count ih =>
      have hbit := walk_bit resetPulses busy payload
        (8 * byte + count) pulses
      rw [if_neg (by omega)] at hbit
      rw [List.replicate_succ', List.flatten_concat]
      exact (ih (by omega)).append hbit

theorem walk_byte (payload : Payload) (byte pulses : Nat) :
    Walk resetPulses busy ⟨payload, 8 * byte, pulses, .bitClockLow⟩ byteCodes
      ⟨payload, 8 * (byte + 1), pulses,
        if Payload.endsTransfer (8 * (byte + 1)) then .ackHoldClock else .bitClockLow⟩ := by
  have hbits := walk_bits resetPulses busy payload byte 7 pulses
    (by omega)
  have hlast := walk_bit resetPulses busy payload (8 * byte + 7) pulses
  rw [if_pos (by omega)] at hlast
  exact (hbits.append hlast).append (.cons rfl (.cons rfl (.cons rfl (.cons rfl (.nil _)))))

-- The bytes of a transfer but its last one.
theorem walk_bytes (payload : Payload) (first count pulses : Nat)
    (hinner : ∀ byte < count, Payload.endsTransfer (8 * (first + byte + 1)) = false) :
    Walk resetPulses busy ⟨payload, 8 * first, pulses, .bitClockLow⟩
      (List.replicate count byteCodes).flatten
      ⟨payload, 8 * (first + count), pulses, .bitClockLow⟩ := by
  induction count with
  | zero => exact .nil _
  | succ count ih =>
      have hbyte := walk_byte resetPulses busy payload
        (first + count) pulses
      rw [hinner count (by omega)] at hbyte
      rw [List.replicate_succ', List.flatten_concat]
      exact (ih fun byte h => hinner byte (by omega)).append hbyte

theorem walk_transfer (payload : Payload) (first count pulses : Nat)
    (hinner : ∀ byte < count, Payload.endsTransfer (8 * (first + byte + 1)) = false)
    (hlast : Payload.endsTransfer (8 * (first + count + 1)) = true) :
    Walk resetPulses busy ⟨payload, 8 * first, pulses, .startDataLow⟩ (transferCodes (count + 1))
      ⟨payload, 8 * (first + count + 1), pulses,
        if Payload.continuesAfter (8 * (first + count + 1)) then .startDataLow else .idle⟩ := by
  have hbytes := walk_bytes resetPulses busy payload first count
    pulses hinner
  have hbyte := walk_byte resetPulses busy payload
    (first + count) pulses
  rw [hlast] at hbyte
  have hall := hbytes.append hbyte
  rw [← List.flatten_concat, ← List.replicate_succ'] at hall
  have hstart : Walk resetPulses busy ⟨payload, 8 * first, pulses, .startDataLow⟩ [20, 21]
      ⟨payload, 8 * first, pulses, .bitClockLow⟩ := .cons rfl (.cons rfl (.nil _))
  exact (hstart.append hall).append
    (.cons rfl (.cons rfl (.cons rfl (.cons rfl (.cons rfl (.cons rfl (.nil _)))))))

theorem walk_payload (payload : Payload) (pulses : Nat) :
    Walk resetPulses busy ⟨payload, 0, pulses, .startDataLow⟩ payloadCodes
      ⟨payload, Payload.totalBits, pulses, .idle⟩ := by
  have hcommand := walk_transfer resetPulses busy payload 0 0 pulses
    (by omega) rfl
  have hgrids := walk_transfer resetPulses busy payload 1 6 pulses
    (by decide) rfl
  have hcontrol := walk_transfer resetPulses busy payload 8 0 pulses
    (by omega) rfl
  exact (hcommand.append hgrids).append hcontrol

-- The pulses that are still to come, the last of which leads to the check.
theorem walk_pulses (payload : Payload) (bits pulses count : Nat)
    (hcount : pulses + count + 1 = max 1 resetPulses.toNat) :
    Walk resetPulses busy ⟨payload, bits, pulses, .resetClockLow⟩
      (List.replicate (count + 1) pulseCodes).flatten ⟨payload, bits, 0, .resetVerify⟩ := by
  have hpulse : Walk resetPulses busy ⟨payload, bits, pulses, .resetClockLow⟩ pulseCodes
      (countPulse ⟨payload, bits, pulses, .resetDataRelease⟩ resetPulses) :=
    .cons rfl (.cons rfl (.cons rfl (.cons rfl (.nil _))))
  induction count generalizing pulses with
  | zero =>
      simp only [countPulse, if_pos (show resetPulses.toNat ≤ pulses + 1 by omega)] at hpulse
      simpa using hpulse
  | succ count ih =>
      simp only [countPulse, if_neg (show ¬resetPulses.toNat ≤ pulses + 1 by omega)] at hpulse
      rw [List.replicate_succ, List.flatten_cons]
      exact hpulse.append (ih (pulses + 1) (by omega)
        (.cons rfl (.cons rfl (.cons rfl (.cons rfl (.nil _))))))

theorem walk_reset (payload : Payload) (bits : Nat) :
    Walk resetPulses busy ⟨payload, bits, 0, .resetClockLow⟩ (resetCodes resetPulses)
      ⟨payload, bits, 0, .startDataLow⟩ := by
  obtain ⟨count, hcount⟩ : ∃ count, max 1 resetPulses.toNat = count + 1 :=
    ⟨max 1 resetPulses.toNat - 1, by omega⟩
  have hpulses := walk_pulses resetPulses busy payload bits 0 count
    (by omega)
  rw [resetCodes, hcount]
  exact hpulses.append (.cons rfl (.nil _))

theorem walk_word (payload : Payload) :
    Walk resetPulses busy (load payload) (word resetPulses busy)
      ⟨payload, Payload.totalBits, 0, .idle⟩ := by
  cases busy with
  | false => exact .cons rfl (walk_payload resetPulses false payload 0)
  | true =>
      exact .cons rfl ((walk_reset resetPulses true payload 0).append
        (walk_payload resetPulses true payload 0))

theorem payload_of_settle {session next : Session} {resetPulses : UInt8} {up : Bool}
    (h : session.countBit.settle resetPulses up = .ok next) :
    next.payload = session.payload := by
  obtain ⟨payload, bits, pulses, stage⟩ := session
  cases stage <;>
    simp only [countBit, settle, proceed, proceedIf, countPulse, reduceCtorEq, if_false,
      if_true] at h <;>
    (repeat' split at h) <;> cases h <;> rfl

-- What a step can make of a session: nothing if there is no move to make, else it gives up or goes
-- where its stage leads.
inductive Becomes (session : Session) (resetPulses : UInt8) : Session → Progress → Prop where
  | trapped (hmove : session.move? = none) :
      Becomes session resetPulses session (.trapped .payloadOverrun)
  | failed (fault : Fault) :
      Becomes session resetPulses { session.countBit with stage := .idle }
        (.complete (.failed fault))
  | settled {up : Bool} {next : Session} {progress : Progress} (hmove : session.move? ≠ none)
      (hsettle : session.countBit.settle resetPulses up = .ok next)
      (hprogress : progress = if next.stage = .idle then .complete .sent else .active) :
      Becomes session resetPulses next progress

theorem step_becomes {σ : Type} [Gpio σ] (session : Session) (resetPulses : UInt8) (link : Link)
    (lines : σ) :
    session.Becomes resetPulses (session.step resetPulses link lines).session
      (session.step resetPulses link lines).progress := by
  unfold step
  split
  · rename_i hmove
    exact .trapped hmove
  · rename_i move hmove
    have hsome : session.move? ≠ none := by simp [hmove]
    simp only [react]
    split
    · exact .failed .pin
    · split
      · rename_i fault _
        exact .failed fault
      · rename_i next hsettle
        exact .settled hsome hsettle rfl

namespace Becomes

variable {session next : Session} {resetPulses : UInt8}

theorem payload_eq {progress : Progress} (h : session.Becomes resetPulses next progress) :
    next.payload = session.payload := by
  cases h with
  | trapped => rfl
  | failed =>
      unfold countBit
      split <;> rfl
  | settled _ hsettle => exact payload_of_settle hsettle

theorem of_active (h : session.Becomes resetPulses next .active) :
    next.stage ≠ .idle ∧ ∃ up, session.countBit.settle resetPulses up = .ok next := by
  cases h with
  | settled _ hsettle hprogress =>
      refine ⟨fun hidle => ?_, _, hsettle⟩
      rw [if_pos hidle] at hprogress
      cases hprogress

theorem of_trapped {trap : Trap} (h : session.Becomes resetPulses next (.trapped trap)) :
    trap = .payloadOverrun ∧ session.move? = none ∧ next = session := by
  cases h with
  | trapped hmove => exact ⟨rfl, hmove, rfl⟩
  | settled _ _ hprogress => split at hprogress <;> cases hprogress

end Becomes

theorem step_payload {σ : Type} [Gpio σ] (session : Session) (resetPulses : UInt8) (link : Link)
    (lines : σ) : (session.step resetPulses link lines).session.payload = session.payload :=
  (session.step_becomes resetPulses link lines).payload_eq

-- The bits put on the data wire so far.
def driven (session : Session) : Nat :=
  if session.stage = .bitClockRelease then session.bits + 1 else session.bits

variable {resetPulses busy}

theorem driven_of_settle {session next : Session} {up : Bool}
    (h : session.countBit.settle resetPulses up = .ok next) :
    next.driven = if session.stage = .bitDrive then session.driven + 1 else session.driven := by
  obtain ⟨payload, bits, pulses, stage⟩ := session
  cases stage <;>
    simp only [countBit, settle, proceed, proceedIf, countPulse, reduceCtorEq, if_false,
      if_true] at h <;>
    (repeat' split at h) <;> cases h <;> simp [driven]

-- A pulse is added to the count only while more of them are asked for.
theorem pulses_le_of_settle {session next : Session} {up : Bool}
    (h : session.countBit.settle resetPulses up = .ok next) :
    next.pulses ≤ session.pulses ∨ next.pulses < resetPulses.toNat := by
  obtain ⟨payload, bits, pulses, stage⟩ := session
  cases stage <;>
    simp only [countBit, settle, proceed, proceedIf, countPulse, reduceCtorEq, if_false,
      if_true] at h <;>
    (repeat' split at h) <;> cases h <;> simp only <;> omega

theorem Walk.driven_eq {first last : Session} {codes : List Nat}
    (h : Walk resetPulses busy first codes last) :
    last.driven = first.driven + codes.count 31 := by
  induction h with
  | nil => rfl
  | @cons session next last codes hsettle _ ih =>
      have hcode : session.stage.code = 31 ↔ session.stage = .bitDrive := by
        cases session.stage <;> simp [Stage.code]
      rw [ih, driven_of_settle hsettle, List.count_cons]
      simp only [beq_iff_eq, hcode]
      split <;> omega

end Walk

end SevenSegment.Session

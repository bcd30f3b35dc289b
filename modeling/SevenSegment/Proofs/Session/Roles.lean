import SevenSegment.Bench.Basic
import SevenSegment.Proofs.Panel.Bytes
import SevenSegment.Proofs.Session.Trace

namespace SevenSegment.Session

open Line (Call Gpio Link LineError Move Recorded Role Wire)
open Panel (Payload)

-- The data pin is as this bit of the payload puts it.
def Carries (payload : Payload) (index : Nat) (link : Link) : Prop :=
  ∃ bit, payload.bit? index = some bit ∧ link.data.role = if bit then .released else .low

-- What the stage of a session tells about its bits and its pins.
def Fits (session : Session) (link : Link) : Prop :=
  match session with
  | ⟨_, bits, _, .idle⟩ => bits = 0
  | ⟨_, bits, _, .resetClockLow⟩ => bits = 0 ∧ link.clock.role = .released
  | ⟨_, bits, _, .resetDataLow⟩ => bits = 0 ∧ link.clock.role = .low
  | ⟨_, bits, _, .resetClockRelease⟩ =>
    bits = 0 ∧ link.clock.role = .low ∧ link.data.role = .low
  | ⟨_, bits, _, .resetDataRelease⟩ =>
    bits = 0 ∧ link.clock.role = .released ∧ link.data.role = .low
  | ⟨_, bits, _, .resetVerify⟩ =>
    bits = 0 ∧ link.clock.role = .released ∧ link.data.role = .released
  | ⟨_, bits, _, .startDataLow⟩ =>
    (bits = 0 ∨ bits = 8 ∨ bits = 64) ∧ link.clock.role = .released ∧ link.data.role = .released
  | ⟨_, bits, _, .startClockLow⟩ =>
    (bits = 0 ∨ bits = 8 ∨ bits = 64) ∧ link.clock.role = .released ∧ link.data.role = .low
  | ⟨_, bits, _, .bitClockLow⟩ => bits < 72
  | ⟨_, bits, _, .bitDrive⟩ => bits < 72 ∧ link.clock.role = .low
  | ⟨payload, bits, _, .bitClockRelease⟩ =>
    bits < 72 ∧ link.clock.role = .low ∧ Carries payload bits link
  | ⟨payload, bits, _, .ackClockLow⟩ =>
    0 < bits ∧ bits ≤ 72 ∧ 8 ∣ bits ∧ link.clock.role = .released ∧ Carries payload (bits - 1) link
  | ⟨payload, bits, _, .ackDataRelease⟩ =>
    0 < bits ∧ bits ≤ 72 ∧ 8 ∣ bits ∧ link.clock.role = .low ∧ Carries payload (bits - 1) link
  | ⟨_, bits, _, .ackClockRelease⟩ =>
    0 < bits ∧ bits ≤ 72 ∧ 8 ∣ bits ∧ link.clock.role = .low ∧ link.data.role = .released
  | ⟨_, bits, _, .ackSample⟩ =>
    0 < bits ∧ bits ≤ 72 ∧ 8 ∣ bits ∧ link.clock.role = .released ∧ link.data.role = .released
  | ⟨_, bits, _, .ackHoldClock⟩ =>
    Payload.endsTransfer bits = true ∧ link.clock.role = .released ∧ link.data.role = .released
  | ⟨_, bits, _, .ackHoldData⟩ =>
    Payload.endsTransfer bits = true ∧ link.clock.role = .low ∧ link.data.role = .released
  | ⟨_, bits, _, .stopClockLow⟩ | ⟨_, bits, _, .stopDataLow⟩ | ⟨_, bits, _, .stopClockRelease⟩ =>
    Payload.endsTransfer bits = true ∧ link.clock.role = .low ∧ link.data.role = .low
  | ⟨_, bits, _, .stopDataRelease⟩ =>
    Payload.endsTransfer bits = true ∧ link.clock.role = .released ∧ link.data.role = .low

-- A move that succeeds and does not end the session takes both pins to where the next stage
-- expects them.
theorem Fits.settles {session next : Session} {link after : Link} {resetPulses : UInt8}
    {move : Move} {up : Bool} (h : session.Fits link) (hmove : session.move? = some move)
    (hmoved : link.Moved after up move)
    (hsettle : session.countBit.settle resetPulses up = .ok next) (hstage : next.stage ≠ .idle) :
    next.Fits after := by
  obtain ⟨payload, bits, pulses, stage⟩ := session
  cases stage with
  | idle =>
      cases hmove
      obtain ⟨hclock, hdata⟩ := hmoved
      cases up with
      | false =>
          cases hsettle
          exact ⟨h, hclock⟩
      | true =>
          cases hsettle
          exact ⟨.inl h, hclock, hdata rfl⟩
  | resetClockLow =>
      cases hmove; cases hmoved; cases hsettle
      exact ⟨h.1, rfl⟩
  | resetDataLow =>
      cases hmove; cases hmoved; cases hsettle
      exact ⟨h.1, h.2, rfl⟩
  | resetClockRelease =>
      cases hmove; cases hmoved; cases hsettle
      exact ⟨h.1, rfl, h.2.2⟩
  | resetDataRelease =>
      obtain rfl : countPulse ⟨payload, bits, pulses, .resetDataRelease⟩ resetPulses = next :=
        Except.ok.inj hsettle
      cases hmove; cases hmoved
      unfold countPulse
      split
      · exact ⟨h.1, h.2.1, rfl⟩
      · exact ⟨h.1, h.2.1⟩
  | resetVerify =>
      cases hmove
      obtain ⟨hclock, hdata⟩ := hmoved
      cases up with
      | false => cases hsettle
      | true =>
          cases hsettle
          exact ⟨.inl h.1, hclock, hdata rfl⟩
  | startDataLow =>
      cases hmove; cases hmoved; cases hsettle
      exact ⟨h.1, h.2.1, rfl⟩
  | startClockLow =>
      cases hmove; cases hmoved; cases hsettle
      have hbits := h.1
      show bits < 72
      omega
  | bitClockLow =>
      cases hmove; cases hmoved; cases hsettle
      exact ⟨h, rfl⟩
  | bitDrive =>
      obtain ⟨hbits, hclock⟩ := h
      obtain ⟨bit, hbit⟩ := Option.isSome_iff_exists.mp ((payload.bit?_isSome_iff bits).mpr hbits)
      simp only [move?, hbit, Option.map_some, Option.some.injEq] at hmove
      subst hmove
      cases bit with
      | false =>
          cases hmoved
          cases up <;> cases hsettle
          exact ⟨hbits, hclock, false, hbit, rfl⟩
      | true =>
          cases hmoved
          cases up <;> cases hsettle
          exact ⟨hbits, hclock, true, hbit, rfl⟩
  | bitClockRelease =>
      obtain ⟨hbits, -, hcarries⟩ := h
      cases hmove; cases hmoved
      cases up with
      | false => cases hsettle
      | true =>
          obtain rfl : (⟨payload, bits + 1, pulses,
              if (bits + 1) % 8 = 0 then .ackClockLow else .bitClockLow⟩ : Session) = next :=
            Except.ok.inj hsettle
          by_cases hend : (bits + 1) % 8 = 0
          · rw [if_pos hend]
            exact ⟨by omega, by omega, by omega, rfl, hcarries⟩
          · rw [if_neg hend]
            show bits + 1 < 72
            omega
  | ackClockLow =>
      cases hmove; cases hmoved; cases hsettle
      exact ⟨h.1, h.2.1, h.2.2.1, rfl, h.2.2.2.2⟩
  | ackDataRelease =>
      cases hmove; cases hmoved; cases hsettle
      exact ⟨h.1, h.2.1, h.2.2.1, h.2.2.2.1, rfl⟩
  | ackClockRelease =>
      cases hmove; cases hmoved
      cases up with
      | false => cases hsettle
      | true =>
          cases hsettle
          exact ⟨h.1, h.2.1, h.2.2.1, rfl, h.2.2.2.2⟩
  | ackSample =>
      obtain ⟨hpos, hle, hdvd, hclock, -⟩ := h
      cases hmove; cases hmoved
      cases up with
      | true => cases hsettle
      | false =>
          obtain rfl : (⟨payload, bits, pulses,
              if Payload.endsTransfer bits then .ackHoldClock else .bitClockLow⟩ : Session) = next :=
            Except.ok.inj hsettle
          cases hend : Payload.endsTransfer bits with
          | true => exact ⟨hend, hclock, rfl⟩
          | false =>
              have hne : bits ≠ 72 := by
                rintro rfl
                cases hend
              show bits < 72
              omega
  | ackHoldClock =>
      cases hmove; cases hmoved; cases hsettle
      exact ⟨h.1, rfl, h.2.2⟩
  | ackHoldData =>
      cases hmove; cases hmoved; cases hsettle
      exact ⟨h.1, h.2.1, rfl⟩
  | stopClockLow =>
      cases hmove; cases hmoved; cases hsettle
      exact ⟨h.1, rfl, h.2.2⟩
  | stopDataLow =>
      cases hmove; cases hmoved; cases hsettle
      exact ⟨h.1, h.2.1, rfl⟩
  | stopClockRelease =>
      cases hmove; cases hmoved
      cases up with
      | false => cases hsettle
      | true =>
          cases hsettle
          exact ⟨h.1, rfl, h.2.2⟩
  | stopDataRelease =>
      obtain ⟨hend, hclock, -⟩ := h
      cases hmove; cases hmoved
      cases up with
      | false => cases hsettle
      | true =>
          obtain rfl : (⟨payload, bits, pulses,
              if Payload.continuesAfter bits then .startDataLow else .idle⟩ : Session) = next :=
            Except.ok.inj hsettle
          cases hmore : Payload.continuesAfter bits with
          | false => simp [hmore] at hstage
          | true =>
              refine ⟨?_, hclock, rfl⟩
              simp only [Payload.continuesAfter, Bool.or_eq_true, beq_iff_eq, Payload.commandBits,
                Payload.gridBits] at hmore
              omega

-- A session comes to its end in one stage only.
theorem stage_of_settle {session next : Session} {resetPulses : UInt8} {up : Bool}
    (h : session.countBit.settle resetPulses up = .ok next)
    (hidle : next.stage = .idle) : session.stage = .stopDataRelease := by
  obtain ⟨payload, bits, pulses, stage⟩ := session
  cases stage <;>
    simp only [countBit, settle, proceed, proceedIf, countPulse, reduceCtorEq, if_false,
      if_true] at h ⊢ <;>
    (repeat' split at h) <;> cases h <;> revert hidle <;> simp

variable {σ : Type} [Gpio σ]

theorem Fits.bits_lt {session : Session} {link : Link} (h : session.Fits link)
    (hstage : session.stage = .bitDrive) : session.bits < Payload.totalBits := by
  obtain ⟨payload, bits, pulses, stage⟩ := session
  obtain rfl : stage = .bitDrive := hstage
  exact h.1

theorem Fits.exists_move {session : Session} {link : Link} (h : session.Fits link) :
    ∃ move, session.move? = some move := by
  apply Option.ne_none_iff_exists'.mp
  intro hnone
  obtain ⟨hstage, hover⟩ := (move?_eq_none_iff _).mp hnone
  exact absurd (h.bits_lt hstage) (Nat.not_lt.mpr hover)

-- A session that goes on still fits its pins, and one that does not is idle.
theorem Fits.step {run : Run σ} (h : run.session.Fits run.link) (resetPulses : UInt8) :
    (run.step resetPulses).progress = .active ∧
        (run.step resetPulses).session.Fits (run.step resetPulses).link ∧
        (run.step resetPulses).session.payload = run.session.payload ∨
      (run.step resetPulses).progress ≠ .active ∧ (run.step resetPulses).session.stage = .idle := by
  obtain ⟨move, hmove⟩ := h.exists_move
  simp only [Run.step, Session.step, hmove]
  cases hanswer : (run.link.perform move run.lines).1 with
  | error error => exact .inr ⟨by simp [react, abort], rfl⟩
  | ok up =>
      cases hsettle : run.session.countBit.settle resetPulses up with
      | error fault => exact .inr ⟨by simp [react, hsettle, abort], by simp [react, hsettle, abort]⟩
      | ok next =>
          simp only [react, hsettle]
          by_cases hidle : next.stage = .idle
          · exact .inr ⟨by simp [hidle], hidle⟩
          · exact .inl ⟨if_neg hidle, h.settles hmove (Link.moved_of_ok hanswer) hsettle hidle,
              payload_of_settle hsettle⟩

-- What a step reconfigures the data pin for, unless the clock is low all the while.
theorem Fits.reconfigures {run : Run σ} (h : run.session.Fits run.link) {resetPulses : UInt8}
    {role : Role} {answer : Except LineError Unit}
    (happart : run.link.clock.line ≠ run.link.data.line)
    (hcall : .configure run.link.data.line role answer ∈ run.calls resetPulses)
    (hup : ¬(run.link.clock.role = .low ∧ (run.step resetPulses).link.clock.role = .low)) :
    run.session.stage.code ∈ [0, 13, 20, 53] ∧ (role = .low → run.session.stage.code = 20) := by
  obtain ⟨move, hmove⟩ := h.exists_move
  obtain ⟨⟨payload, bits, pulses, stage⟩, link, lines⟩ := run
  simp only [Run.calls, Run.step, Session.step, hmove] at hcall hup
  rcases Link.reconfigured_of_perform hcall with hnone | ⟨wire, hwire, hline, hpath⟩
  · cases hnone
  -- the lines differ, so the move is one on the data pin
  obtain rfl : wire = .data := by
    cases wire with
    | clock => exact absurd hline.symm happart
    | data => rfl
  obtain ⟨hne, hrole⟩ := Role.mem_path hpath
  have hreleased : move.target = .released → role ≠ .low := by
    rintro htarget rfl
    simp [htarget] at hrole
  cases stage with
  | idle =>
      cases hmove
      exact ⟨by simp [Stage.code], fun hlow => absurd hlow (hreleased rfl)⟩
  | resetDataRelease | stopDataRelease =>
      cases hmove
      exact ⟨by simp [Stage.code], fun hlow => absurd hlow (hreleased rfl)⟩
  | startDataLow => exact ⟨by simp [Stage.code], fun _ => rfl⟩
  | resetClockLow | resetClockRelease | startClockLow | bitClockLow | bitClockRelease | ackClockLow
  | ackClockRelease | ackHoldClock | stopClockLow | stopClockRelease =>
      cases hmove
      cases hwire
  | resetDataLow =>
      cases hmove
      exact absurd ⟨h.2, h.2⟩ hup
  | ackHoldData | stopDataLow =>
      cases hmove
      exact absurd ⟨h.2.1, h.2.1⟩ hup
  | ackDataRelease =>
      cases hmove
      exact absurd ⟨h.2.2.2.1, h.2.2.2.1⟩ hup
  | bitDrive =>
      obtain ⟨bit, -, rfl⟩ := Option.map_eq_some_iff.mp hmove
      cases bit <;> exact absurd ⟨h.2, h.2⟩ hup
  | resetVerify =>
      cases hmove
      exact absurd h.2.2 hne
  | ackSample =>
      cases hmove
      exact absurd h.2.2.2.2 hne

section Codes

variable {session : Session} {link : Link}

theorem Fits.bits_of_code (h : session.Fits link) :
    (session.stage.code ∈ [10, 11, 12, 13, 14] → session.bits = 0) ∧
    (session.stage.code ∈ [20, 21] → session.bits = 0 ∨ session.bits = 8 ∨ session.bits = 64) ∧
    (session.stage.code ∈ [30, 31, 32] → session.bits < 72) ∧
    (session.stage.code ∈ [40, 41, 42, 43, 44, 45] → 0 < session.bits ∧ 8 ∣ session.bits) ∧
    (session.stage.code ∈ [44, 45, 50, 51, 52, 53] →
      session.bits = 8 ∨ session.bits = 64 ∨ session.bits = 72) := by
  obtain ⟨payload, bits, pulses, stage⟩ := session
  cases stage <;> simp only [Fits, Payload.endsTransfer_iff] at h <;> simp [Stage.code] <;> omega

theorem Fits.clock_of_code (h : session.Fits link) :
    (session.stage.code ∈ [11, 12, 31, 32, 41, 42, 45, 50, 51, 52] → link.clock.role = .low) ∧
    (session.stage.code ∈ [10, 13, 14, 20, 21, 40, 43, 44, 53] → link.clock.role = .released) := by
  obtain ⟨payload, bits, pulses, stage⟩ := session
  cases stage <;> simp only [Fits] at h <;> simp [Stage.code, h]

theorem Fits.data_of_code (h : session.Fits link) :
    (session.stage.code ∈ [12, 13, 21, 50, 51, 52, 53] → link.data.role = .low) ∧
    (session.stage.code ∈ [14, 20, 42, 43, 44, 45] → link.data.role = .released) ∧
    (session.stage.code = 32 → Carries session.payload session.bits link) ∧
    (session.stage.code ∈ [40, 41] → Carries session.payload (session.bits - 1) link) := by
  obtain ⟨payload, bits, pulses, stage⟩ := session
  cases stage <;> simp only [Fits] at h <;> simp [Stage.code, h]

end Codes

-- A session stepped until it ends, asked for any number of reset pulses at each step.
def stepping (payload : Payload) (resetPulses : Nat → UInt8) (link : Link) (lines : σ) : Nat → Run σ
  | 0 => { session := load payload, link, lines }
  | count + 1 =>
    let run := stepping payload resetPulses link lines count
    if run.progress = .active then run.step (resetPulses count) else run

section Stepping

variable (payload : Payload) (resetPulses : Nat → UInt8) (link : Link) (lines : σ)

theorem stepping_fits (count : Nat) :
    let run := stepping payload resetPulses link lines count
    run.progress = .active ∧ run.session.Fits run.link ∧ run.session.payload = payload ∨
      run.progress ≠ .active ∧ run.session.stage = .idle := by
  induction count with
  | zero => exact .inl ⟨rfl, rfl, rfl⟩
  | succ count ih =>
      simp only [stepping]
      rcases ih with ⟨hactive, hfits, hpayload⟩ | ⟨hended, hidle⟩
      · rw [if_pos hactive]
        rcases hfits.step (resetPulses count) with ⟨hactive', hfits', hsame⟩ | hended
        · exact .inl ⟨hactive', hfits', hsame.trans hpayload⟩
        · exact .inr hended
      · rw [if_neg hended]
        exact .inr ⟨hended, hidle⟩

theorem stepping_sameLines (count : Nat) :
    (stepping payload resetPulses link lines count).link.SameLines link := by
  induction count with
  | zero => exact fun _ => rfl
  | succ count ih =>
      simp only [stepping]
      split
      · exact (step_sameLines _ _ _ _).trans ih
      · exact ih

end Stepping

-- The stage of a session fixes how many bits are out and the roles of both pins. The data pin is
-- reconfigured under a clock that is not pulled low in four stages only, and pulled low there in
-- one of them: no start condition comes about in any other way, and no bit changes under a
-- released clock.
theorem stage_fixes_roles (payload : Payload) (resetPulses : Nat → UInt8) (link : Link) (lines : σ)
    (count : Nat) :
    let run := stepping payload resetPulses link lines count
    let code := run.session.stage.code
    let bits := run.session.bits
    (code ∈ [10, 11, 12, 13, 14] → bits = 0) ∧
    (code ∈ [20, 21] → bits = 0 ∨ bits = 8 ∨ bits = 64) ∧
    (code ∈ [30, 31, 32] → bits < 72) ∧
    (code ∈ [40, 41, 42, 43, 44, 45] → 0 < bits ∧ 8 ∣ bits) ∧
    (code ∈ [44, 45, 50, 51, 52, 53] → bits = 8 ∨ bits = 64 ∨ bits = 72) ∧
    (code ∈ [11, 12, 31, 32, 41, 42, 45, 50, 51, 52] → run.link.clock.role = .low) ∧
    (code ∈ [10, 13, 14, 20, 21, 40, 43, 44, 53] → run.link.clock.role = .released) ∧
    (code ∈ [12, 13, 21, 50, 51, 52, 53] → run.link.data.role = .low) ∧
    (code ∈ [14, 20, 42, 43, 44, 45] → run.link.data.role = .released) ∧
    (code = 32 → Carries payload bits run.link) ∧
    (code ∈ [40, 41] → Carries payload (bits - 1) run.link) ∧
    (link.clock.line ≠ link.data.line → run.progress = .active → ∀ role answer,
      .configure link.data.line role answer ∈ run.calls (resetPulses count) →
      ¬(run.link.clock.role = .low ∧ (run.step (resetPulses count)).link.clock.role = .low) →
      code ∈ [0, 13, 20, 53] ∧ (role = .low → code = 20)) := by
  intro run code bits
  have hsame := stepping_sameLines payload resetPulses link lines count
  rcases stepping_fits payload resetPulses link lines count with
    ⟨-, hfits, hpayload⟩ | ⟨hended, hidle⟩
  · obtain ⟨hreset, hstart, hwrite, hack, hstop⟩ := hfits.bits_of_code
    obtain ⟨hlow, hreleased⟩ := hfits.clock_of_code
    obtain ⟨hdataLow, hdataReleased, hbit, hlast⟩ := hfits.data_of_code
    rw [hpayload] at hbit hlast
    refine ⟨hreset, hstart, hwrite, hack, hstop, hlow, hreleased, hdataLow, hdataReleased, hbit,
      hlast, fun happart _ role answer => ?_⟩
    have hclock : run.link.clock.line = link.clock.line := hsame .clock
    have hdata : run.link.data.line = link.data.line := hsame .data
    rw [← hdata]
    exact hfits.reconfigures (by rwa [hclock, hdata])
  · have hcode : code = 0 := congrArg Stage.code hidle
    simp only [hcode]
    refine ⟨by simp, by simp, by simp, by simp, by simp, by simp, by simp, by simp, by simp, by simp,
      by simp, ?_⟩
    exact fun _ hactive => absurd hactive hended

-- A payload is about to start on a bus that was found free.
def starting : Run Bench := stepping .zero (fun _ => 11) (.bind 0 1) (Bench.ofSize 1) 1

theorem stage_fixes_roles_starting :
    starting.link.clock.role = .released ∧ starting.session.stage.code = 20 ∧
      starting.calls 11 = [.configure 1 .inert (.ok ()), .configure 1 .low (.ok ())] := by
  have hup : starting.link.clock.role = .released := rfl
  have hcalls : starting.calls 11 =
      [.configure 1 .inert (.ok ()), .configure 1 .low (.ok ())] := rfl
  obtain ⟨-, -, -, -, -, -, -, -, -, -, -, hreconfigured⟩ :=
    stage_fixes_roles .zero (fun _ => 11) (.bind 0 1) (Bench.ofSize 1) 1
  have hmem : .configure (Link.bind 0 1).data.line .low (.ok ()) ∈ starting.calls 11 := by
    rw [hcalls]
    exact .tail _ (.head _)
  obtain ⟨-, hcode⟩ := hreconfigured (by decide) rfl .low (.ok ()) hmem fun hlow =>
    absurd (hup.symm.trans hlow.1) (by decide)
  exact ⟨hup, hcode rfl, hcalls⟩

end SevenSegment.Session

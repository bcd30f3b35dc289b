import SevenSegment.Proofs.Bench.View

namespace SevenSegment.Session

open Line (Gpio Link LineError Move)

-- They differ in their payloads at most.
structure InStep (first second : Session) : Prop where
  stage : first.stage = second.stage
  bits : first.bits = second.bits
  pulses : first.pulses = second.pulses

section InStep

variable {first second : Session} {resetPulses : UInt8}

-- Only a session in its first stage has a choice where to go.
theorem InStep.settle (h : first.InStep second) {up up' : Bool} {next next' : Session}
    (hup : first.stage = .idle → up = up')
    (hfirst : first.countBit.settle resetPulses up = .ok next)
    (hsecond : second.countBit.settle resetPulses up' = .ok next') : next.InStep next' := by
  obtain ⟨payload, bits, pulses, stage⟩ := first
  obtain ⟨payload', bits', pulses', stage'⟩ := second
  obtain ⟨hstage, hbits, hpulses⟩ := h
  simp only at hstage hbits hpulses
  subst hstage hbits hpulses
  cases stage with
  | idle =>
      obtain rfl := hup rfl
      cases up <;> cases hfirst <;> cases hsecond <;> exact ⟨rfl, rfl, rfl⟩
  | _ =>
      -- Which way it goes on depends on the counters alone.
      simp only [countBit, Session.settle, proceed, proceedIf, countPulse, reduceCtorEq, if_false,
        if_true] at hfirst hsecond
      (repeat' split at hfirst) <;> cases hfirst <;>
        (repeat' split at hsecond) <;> cases hsecond <;>
        first
        | exact ⟨rfl, rfl, rfl⟩
        | contradiction

theorem InStep.clockPath (h : first.InStep second) {move move' : Move}
    (hfirst : first.move? = some move) (hsecond : second.move? = some move') (role : Line.Role) :
    move.clockPath role = move'.clockPath role := by
  obtain ⟨payload, bits, pulses, stage⟩ := first
  obtain ⟨payload', bits', pulses', stage'⟩ := second
  obtain rfl : stage = stage' := h.stage
  cases stage with
  | bitDrive =>
      obtain ⟨bit, -, rfl⟩ := Option.map_eq_some_iff.mp hfirst
      obtain ⟨bit', -, rfl⟩ := Option.map_eq_some_iff.mp hsecond
      cases bit <;> cases bit' <;> rfl
  | _ =>
      cases hfirst
      cases hsecond
      rfl

end InStep

variable {σ : Type} [Gpio σ]

-- A step that went well, taken apart.
structure Succeeds (session : Session) (resetPulses : UInt8) (link : Link) (lines : σ)
    (move : Move) (up : Bool) : Prop where
  moves : session.move? = some move
  answer : (link.perform move lines).1 = .ok up
  settles : session.countBit.settle resetPulses up =
    .ok (session.step resetPulses link lines).session
  pins : (session.step resetPulses link lines).link = (link.perform move lines).2.1
  wires : (session.step resetPulses link lines).lines = (link.perform move lines).2.2
  progress : (session.step resetPulses link lines).progress =
    if (session.step resetPulses link lines).session.stage = .idle then .complete .sent
    else .active

theorem succeeds_of_progress {session : Session} {resetPulses : UInt8} {link : Link} {lines : σ}
    (h : (session.step resetPulses link lines).progress =
      if (session.step resetPulses link lines).session.stage = .idle then .complete .sent
      else .active) :
    ∃ move up, session.Succeeds resetPulses link lines move up := by
  cases hmove : session.move? with
  | none =>
      simp only [step, hmove] at h
      split at h <;> cases h
  | some move =>
      cases hanswer : (link.perform move lines).1 with
      | error error =>
          simp [step, hmove, hanswer, react, abort] at h
      | ok up =>
          cases hsettle : session.countBit.settle resetPulses up with
          | error fault => simp [step, hmove, hanswer, react, hsettle, abort] at h
          | ok next =>
              refine ⟨move, up, hmove, hanswer, ?_, ?_, ?_, h⟩ <;>
                simp [step, hmove, hanswer, react, hsettle]

namespace Succeeds

variable {session second : Session} {resetPulses : UInt8} {link link' : Link} {lines : σ}
  {move move' : Move} {up up' : Bool}

-- At the end of a session both wires are released.
theorem link_of_idle (h : session.Succeeds resetPulses link lines move up)
    (hidle : (session.step resetPulses link lines).session.stage = .idle) :
    (session.step resetPulses link lines).link =
      { link with data := { link.data with role := .released } } := by
  have hlast := stage_of_settle h.settles hidle
  have hmove := h.moves
  have hmoved := Link.moved_of_ok h.answer
  simp only [move?, hlast, Option.some.injEq] at hmove
  subst hmove
  exact h.pins.trans hmoved

section Bench

variable {bench bench' : Bench} {index : Nat}

theorem clockEvents (h : session.Succeeds resetPulses link bench move up) (hon : link.On index)
    (hindex : index < bench.stations.size) :
    (session.step resetPulses link bench).lines.clockEvents = bench.clockEvents ++
      (move.clockPath link.clock.role).map fun role => ⟨index, .clock, role⟩ := by
  rw [h.wires]
  exact Link.clockEvents_perform hon hindex h.answer

-- What two sessions in step do to their clocks.
theorem clock_agree (h : session.Succeeds resetPulses link bench move up)
    (h' : second.Succeeds resetPulses link' bench' move' up') (hstep : session.InStep second)
    (hclock : link.clock = link'.clock) :
    (session.step resetPulses link bench).link.clock =
        (second.step resetPulses link' bench').link.clock ∧
      move.clockPath link.clock.role = move'.clockPath link'.clock.role := by
  have hpath := hstep.clockPath h.moves h'.moves link.clock.role
  rw [h.pins, h'.pins, Link.clock_of_ok h.answer, Link.clock_of_ok h'.answer, ← hclock, hpath]
  exact ⟨rfl, rfl⟩

end Bench

end Succeeds

end SevenSegment.Session

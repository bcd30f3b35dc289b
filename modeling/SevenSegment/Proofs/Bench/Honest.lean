import SevenSegment.Bench.Pad
import SevenSegment.Proofs.Bench.History
import SevenSegment.Proofs.Bench.View
import SevenSegment.Proofs.Line.Honest

namespace SevenSegment

open Line (Board Deed Gpio Latches LineError LineId OpenDrain Pad Role Wire)

namespace Bench

-- Whether the driver pulls a line of the bench low.
def low? (line : LineId) (bench : Bench) : Option Bool :=
  bench.stations[busOf line]?.map fun station => station.bus.pulled (wireOf line)

section Calls

variable {bench : Bench} {line other : LineId}

-- Two lines are told apart by their bus or by their wire.
theorem line_eq (hbus : busOf other = busOf line) (hwire : wireOf other = wireOf line) :
    other = line := by
  have hparity : other % 2 = line % 2 := by
    rcases Nat.mod_two_eq_zero_or_one other with h | h <;>
      rcases Nat.mod_two_eq_zero_or_one line with h' | h' <;> simp_all [wireOf]
  rw [← Nat.div_add_mod other 2, ← Nat.div_add_mod line 2, hparity]
  exact congrArg (2 * · + line % 2) hbus

theorem low?_set {after : Bench} {station : Station}
    (hstation : bench.stations[busOf line]? = some station) {next : Station}
    (hafter : after.stations = bench.stations.setIfInBounds (busOf line) next) :
    after.low? other =
      if busOf other = busOf line then some (next.bus.pulled (wireOf other))
      else bench.low? other := by
  obtain ⟨hindex, -⟩ := Array.getElem?_eq_some_iff.mp hstation
  rw [low?, low?, hafter, Array.getElem?_setIfInBounds]
  by_cases hbus : busOf other = busOf line
  · simp [hbus, hindex]
  · rw [if_neg (Ne.symm hbus), if_neg hbus]

end Calls

theorem Station.pulled_configure (station : Station) (wire other : Wire) (role : Role) :
    (station.configure wire role).2.bus.pulled other =
      if other = wire ∧ (station.configure wire role).1 = .ok () then role.isLow
      else station.bus.pulled other := by
  simp only [configure]
  by_cases hother : other = wire
  · subst hother
    (repeat' split) <;> simp_all [Bus.pulled_drive, Role.isLow]
  · (repeat' split) <;> simp_all [Bus.pulled_drive_of_ne]

theorem Station.pulled_read (station : Station) (wire other : Wire) :
    (station.read wire).2.bus.pulled other = station.bus.pulled other := by
  simp only [read]
  split
  · rw [count_bus]
  · cases other <;> simp [Bus.pulled]

theorem latches_low? : Latches (fun _ => True) low? where
  accepts {line role bench} _ hdone := by
    simp only [Gpio.configure] at hdone ⊢
    cases hstation : bench.stations[busOf line]? with
    | none => simp [configure_of_none hstation, low?, hstation]
    | some station =>
        obtain ⟨hanswer, hafter, -⟩ := configure_of_some hstation role
        rw [low?_set hstation hafter, if_pos rfl, Station.pulled_configure,
          if_pos ⟨rfl, hanswer ▸ hdone⟩, low?, hstation]
        rfl
  refuses {line role bench error} _ hdone := by
    simp only [Gpio.configure] at hdone ⊢
    cases hstation : bench.stations[busOf line]? with
    | none => simp [configure_of_none hstation]
    | some station =>
        obtain ⟨hanswer, hafter, -⟩ := configure_of_some hstation role
        rw [low?_set hstation hafter, if_pos rfl, Station.pulled_configure,
          if_neg (by simp [← hanswer, hdone]), low?, hstation]
        rfl
  others {line other role bench} _ _ hne := by
    simp only [Gpio.configure]
    cases hstation : bench.stations[busOf line]? with
    | none => rw [configure_of_none hstation]
    | some station =>
        obtain ⟨-, hafter, -⟩ := configure_of_some hstation role
        rw [low?_set hstation hafter]
        split
        · rename_i hbus
          rw [Station.pulled_configure, if_neg fun h => hne (line_eq hbus h.1), low?, hbus, hstation]
          rfl
        · rfl
  read {line other bench} _ _ := by
    simp only [Gpio.read]
    cases hstation : bench.stations[busOf line]? with
    | none => rw [read_of_none hstation]
    | some station =>
        obtain ⟨-, hafter, -⟩ := read_of_some hstation
        rw [low?_set hstation hafter]
        split
        · rename_i hbus
          rw [Station.pulled_read, low?, hbus, hstation]
          rfl
        · rfl

theorem low?_ofSize {size : Nat} {line : LineId} :
    (ofSize size).low? line = if busOf line < size then some false else none := by
  simp only [low?, ofSize, Array.getElem?_replicate]
  split
  · cases wireOf line <;> rfl
  · rfl

-- A tester pulls at the wires in other places than the driver.
theorem low?_act {bench : Bench} {action : Action} (h : ∀ line role, action ≠ .configure line role)
    (line : LineId) : (bench.act action).low? line = bench.low? line := by
  have hmodify : ∀ index (change : Station → Station),
      (∀ station wire, (change station).bus.pulled wire = station.bus.pulled wire) →
      (bench.modifyStation index change).low? line = bench.low? line := by
    intro index change hchange
    simp only [low?, modifyStation, Array.getElem?_modify]
    split
    · rw [Option.map_map]
      simp only [Function.comp_def, hchange]
    · rfl
  cases action with
  | configure line role => exact absurd rfl (h line role)
  | read other => exact latches_low?.read trivial trivial
  | setFault | force => exact hmodify _ _ fun station wire => by rw [Station.setTap_bus]
  | adjust index setting =>
      exact hmodify _ _ fun station wire => by cases setting <;> cases wire <;> rfl

end Bench

namespace Line

-- What a write to a pad leaves at its output. One that fails leaves it alone.
def Pad.Wrote {π : Type} (low : π → Bool) (pad : π) (level : Bool)
    (write : Except LineError Unit × π) : Prop :=
  match write.1 with
  | .ok () => low write.2 = level
  | .error _ => low write.2 = low pad

-- How the output of a pad follows the calls on it.
structure Pad.Drives {π : Type} [Pad π] (low : π → Bool) : Prop where
  setLow (pad : π) : Pad.Wrote low pad true (Pad.setLow pad)
  setHigh (pad : π) : Pad.Wrote low pad false (Pad.setHigh pad)
  isHigh (pad : π) : low (Pad.isHigh pad).2 = low pad

variable {π : Type} [Pad π] {low : π → Bool}

theorem Pad.Drives.wrote (h : Pad.Drives low) (line : LineId) (role : Role) (lines : OpenDrain π) :
    Pad.Wrote low lines.pad role.isLow ((Gpio.configure line role lines).1,
      (Gpio.configure line role lines).2.pad) := by
  cases role with
  | inert | released => exact h.setHigh lines.pad
  | low => exact h.setLow lines.pad

-- A pad has one line, and whoever has that line has the pad.
theorem Pad.Drives.latches (h : Pad.Drives low) (line : LineId) :
    Latches (fun other => other = line) fun _ (lines : OpenDrain π) => some (low lines.pad) where
  accepts {other role lines} _ hdone := by
    have hwrote := h.wrote other role lines
    rw [Pad.Wrote, hdone] at hwrote
    exact congrArg some hwrote
  refuses {other role lines error} _ hdone := by
    have hwrote := h.wrote other role lines
    rw [Pad.Wrote, hdone] at hwrote
    exact congrArg some hwrote
  others hfirst hsecond hne := absurd (hsecond.trans hfirst.symm) hne
  read {first other lines} _ _ := congrArg some (h.isHigh lines.pad)

end Line

theorem Bench.SimulatedPad.drives : Pad.Drives (fun pad : SimulatedPad => pad.low) where
  setLow pad := by
    cases hfails : pad.failLow <;> simp [Pad.Wrote, Pad.setLow, write, record, hfails]
  setHigh pad := by
    cases hfails : pad.failHigh <;> simp [Pad.Wrote, Pad.setHigh, write, record, hfails]
  isHigh _ := rfl

namespace Line.Board

-- A pin is in the role that its line was put into last, and what is at the far end agrees. Calls
-- may fail as they like, and the world may change in between. A pad that is handed over low stays
-- low until a call on it is accepted, so it agrees with its pin from that call on, or from the
-- start if it was handed over high.
theorem roles_are_honest :
    (∀ {σ : Type} [Gpio σ] (lines : σ) (deeds : List (Deed σ)) (line : LineId),
      let board := Board.after lines deeds
      let taken := accepted line board.record.calls
      (board.roles line = .low ↔ taken.getLast? = some .low) ∧
      (board.roles line = .released ↔ taken.getLast? = some .released) ∧
      (board.roles line = .inert ↔ taken.getLast? = some .inert ∨ taken = []) ∧
      ((Role.inert :: taken).IsChain fun first second => first = .inert ↔ second ≠ .inert) ∧
      ∀ touch : Touch, board.roles line = touch.role →
        ∃ made, (board.act (.touch line touch)).record.calls = board.record.calls ++ made ∧
          ∀ call ∈ made, ∃ answer, call = .read line answer) ∧
    (∀ (size : Nat) (deeds : List (Deed Bench)),
      (∀ change, .meanwhile change ∈ deeds →
        ∀ line bench, (change bench).low? line = bench.low? line) →
      let board := Board.after (Bench.ofSize size) deeds
      ∀ index < size, ∃ station, board.record.lines.stations[index]? = some station ∧
        station.bus.clockLow = decide (board.roles (2 * index) = .low) ∧
        station.bus.dataLow = decide (board.roles (2 * index + 1) = .low)) ∧
    (∀ {π : Type} [Pad π] (low : π → Bool), Pad.Drives low →
      ∀ (line : LineId) (pad : π) (deeds : List (Deed (OpenDrain π))),
      (∀ other touch, .touch other touch ∈ deeds → other = line) →
      (∀ change, .meanwhile change ∈ deeds → ∀ lines, low (change lines).pad = low lines.pad) →
      let board := Board.after ⟨pad⟩ deeds
      let taken := accepted line board.record.calls
      (taken = [] → low board.record.lines.pad = low pad) ∧
      (taken ≠ [] ∨ low pad = false →
        (low board.record.lines.pad = true ↔ board.roles line = .low))) := by
  refine ⟨?_, ?_, ?_⟩
  · intro σ _ lines deeds line board taken
    have htold : (board.pin line).Told board.record.calls := told_after lines deeds line
    have hiff : ∀ role, board.roles line = role ↔
        taken.getLast? = some role ∨ role = .inert ∧ taken = [] := htold.role_eq_iff
    exact ⟨by simpa using hiff .low, by simpa using hiff .released, by simpa using hiff .inert,
      htold.alternates,
      fun touch hrole => Touch.perform_of_role hrole board.record⟩
  · intro size deeds hchange board index hindex
    have hfair : ∀ deed ∈ deeds, Latches.Fair (fun _ => True) Bench.low? deed := by
      intro deed hmem
      cases deed with
      | touch line touch => trivial
      | meanwhile change => exact fun line bench _ => hchange change hmem line bench
    have hlow : ∀ line, Bench.busOf line = index →
        board.record.lines.low? line = some (board.roles line).isLow := by
      intro line hline
      have hstart : (Bench.ofSize size).low? line = some false := by
        rw [Bench.low?_ofSize, hline, if_pos hindex]
      have htold : (board.pin line).Told board.record.calls := told_after _ deeds line
      have hafter := Bench.latches_low?.low?_after (Bench.ofSize size) hfair line trivial
      rw [hafter, hstart]
      exact congrArg some (htold.shows_eq (.inr rfl))
    have hclock := hlow (2 * index) (Bench.busOf_clock index)
    have hdata := hlow (2 * index + 1) (Bench.busOf_data index)
    rw [Bench.low?, Bench.busOf_clock, Bench.wireOf_clock] at hclock
    rw [Bench.low?, Bench.busOf_data, Bench.wireOf_data] at hdata
    obtain ⟨station, hstation, hclock⟩ := Option.map_eq_some_iff.mp hclock
    rw [hstation] at hdata
    exact ⟨station, hstation, hclock, Option.some.inj hdata⟩
  · intro π _ low hdrives line pad deeds htouch hchange board taken
    have hfair : ∀ deed ∈ deeds, Latches.Fair (fun other => other = line)
        (fun _ (lines : OpenDrain π) => some (low lines.pad)) deed := by
      intro deed hmem
      cases deed with
      | touch other touch => exact htouch other touch hmem
      | meanwhile change => exact fun _ lines _ => congrArg some (hchange change hmem lines)
    have hafter : low board.record.lines.pad = shows (low pad) taken :=
      Option.some.inj ((hdrives.latches line).low?_after ⟨pad⟩ hfair line rfl)
    have htold : (board.pin line).Told board.record.calls := told_after _ deeds line
    refine ⟨fun hnone => by rw [hafter, hnone]; rfl, fun hwas => ?_⟩
    have hshows : shows (low pad) taken = (board.roles line).isLow := htold.shows_eq hwas
    rw [hafter, hshows, Role.isLow, decide_eq_true_iff]

-- A wire is pulled low, and then the call fails that is to let go of it.
def stubbornWire : List (Deed Bench) :=
  [.touch 0 .pullLow, .meanwhile fun bench => bench.act (.setFault 0 (.configure .inert) ⟨0, 1⟩),
    .touch 0 .release]

def stubbornPad : List (Deed (OpenDrain Bench.SimulatedPad)) :=
  [.touch 4 .pullLow, .meanwhile fun lines => ⟨{ lines.pad with failHigh := true }⟩, .touch 4 .reset]

theorem roles_are_honest_stubborn :
    (∃ station, (after (Bench.ofSize 1) stubbornWire).record.lines.stations[0]? = some station ∧
      station.bus.clockLow = true ∧ station.bus.dataLow = false) ∧
    (after ⟨({} : Bench.SimulatedPad)⟩ stubbornPad).record.lines.pad.low = true := by
  obtain ⟨-, hbench, hpad⟩ := roles_are_honest
  constructor
  · have hchange : ∀ change, .meanwhile change ∈ stubbornWire →
        ∀ line bench, (change bench).low? line = bench.low? line := by
      intro change hmem line bench
      have heq : change = fun bench => bench.act (.setFault 0 (.configure .inert) ⟨0, 1⟩) := by
        simpa [stubbornWire] using hmem
      rw [heq]
      exact Bench.low?_act (by simp) line
    obtain ⟨station, hstation, hclock, hdata⟩ := hbench 1 stubbornWire hchange 0 (by decide)
    exact ⟨station, hstation, hclock.trans (by decide), hdata.trans (by decide)⟩
  · have htouch : ∀ other touch, .touch other touch ∈ stubbornPad → other = 4 := by
      intro other touch hmem
      simp only [stubbornPad, List.mem_cons, Deed.touch.injEq, reduceCtorEq, List.not_mem_nil,
        or_false, false_or] at hmem
      exact hmem.elim And.left And.left
    have hchange : ∀ change, .meanwhile change ∈ stubbornPad →
        ∀ lines, (change lines).pad.low = lines.pad.low := by
      intro change hmem lines
      have heq : change = fun lines => ⟨{ lines.pad with failHigh := true }⟩ := by
        simpa [stubbornPad] using hmem
      rw [heq]
    exact ((hpad _ Bench.SimulatedPad.drives 4 {} stubbornPad htouch hchange).2
      (.inr rfl)).mpr (by decide)

end Line.Board

end SevenSegment

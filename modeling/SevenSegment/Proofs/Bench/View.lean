import SevenSegment.Proofs.Bench.Wire
import SevenSegment.Proofs.Session.Roles

namespace SevenSegment.Bench

open Line (Alike Gpio LineError LineId Link Move Pin Role Wire)

-- All there is to see of one bus.
def view (bench : Bench) (index : Nat) : Option Station × List Event :=
  (bench.stations[index]?, bench.events.toList.filter fun event => event.bus = index)

def clockEvents (bench : Bench) : List Event :=
  bench.events.toList.filter fun event => event.wire = .clock

-- What is recorded of a call.
def recorded (line : LineId) (role : Role) : Except LineError Unit → List Event
  | .ok () => [⟨busOf line, wireOf line, role⟩]
  | .error _ => []

section Calls

variable {bench : Bench} {line : LineId}

-- There is no such line.
theorem configure_of_none (h : bench.stations[busOf line]? = none) (role : Role) :
    bench.configure line role = (.ok (), bench) := by
  have hsize : ¬busOf line < bench.stations.size := by
    simpa using Array.getElem?_eq_none_iff.mp h
  simp [configure, hsize]

theorem read_of_none (h : bench.stations[busOf line]? = none) :
    bench.read line = (.ok true, bench) := by
  have hsize : ¬busOf line < bench.stations.size := by
    simpa using Array.getElem?_eq_none_iff.mp h
  simp [read, hsize]

variable {station : Station}

theorem configure_of_some (h : bench.stations[busOf line]? = some station) (role : Role) :
    (bench.configure line role).1 = (station.configure (wireOf line) role).1 ∧
      (bench.configure line role).2.stations =
        bench.stations.setIfInBounds (busOf line) (station.configure (wireOf line) role).2 ∧
      (bench.configure line role).2.events.toList = bench.events.toList ++
        recorded line role (station.configure (wireOf line) role).1 := by
  obtain ⟨hindex, rfl⟩ := Array.getElem?_eq_some_iff.mp h
  simp only [configure, hindex, dif_pos, Array.setIfInBounds]
  split
  · rename_i hdone
    simp [hdone, recorded]
  · rename_i error hdone
    simp [hdone, recorded]

theorem read_of_some (h : bench.stations[busOf line]? = some station) :
    (bench.read line).1 = (station.read (wireOf line)).1 ∧
      (bench.read line).2.stations =
        bench.stations.setIfInBounds (busOf line) (station.read (wireOf line)).2 ∧
      (bench.read line).2.events = bench.events := by
  obtain ⟨hindex, rfl⟩ := Array.getElem?_eq_some_iff.mp h
  simp [read, hindex, Array.setIfInBounds]

theorem getElem?_set_of_some {stations : Array Station} {index : Nat}
    (h : stations[index]? = some station) (after : Station) :
    (stations.setIfInBounds index after)[index]? = some after := by
  obtain ⟨hindex, -⟩ := Array.getElem?_eq_some_iff.mp h
  simp [hindex]

theorem filter_recorded (p : Event → Bool) (role : Role) (done : Except LineError Unit)
    (h : p ⟨busOf line, wireOf line, role⟩ = false) : (recorded line role done).filter p = [] := by
  cases done <;> simp [recorded, h]

-- A call shows on its own bus alone.
theorem view_configure_of_ne {index : Nat} (hne : busOf line ≠ index) (role : Role) :
    (bench.configure line role).2.view index = bench.view index := by
  cases hstation : bench.stations[busOf line]? with
  | none => rw [configure_of_none hstation]
  | some station =>
      obtain ⟨-, hset, hmade⟩ := configure_of_some hstation role
      simp only [view, hset, hmade, List.filter_append, Array.getElem?_setIfInBounds_ne hne]
      rw [filter_recorded _ _ _ (by simpa using hne), List.append_nil]

theorem view_read_of_ne {index : Nat} (hne : busOf line ≠ index) :
    (bench.read line).2.view index = bench.view index := by
  cases hstation : bench.stations[busOf line]? with
  | none => rw [read_of_none hstation]
  | some station =>
      obtain ⟨-, hset, hsame⟩ := read_of_some hstation
      simp only [view, hset, hsame, Array.getElem?_setIfInBounds_ne hne]

theorem clockEvents_read (bench : Bench) (line : LineId) :
    (bench.read line).2.clockEvents = bench.clockEvents := by
  cases hstation : bench.stations[busOf line]? with
  | none => rw [read_of_none hstation]
  | some station =>
      obtain ⟨-, -, hsame⟩ := read_of_some hstation
      rw [clockEvents, hsame, clockEvents]

end Calls

-- The answers of a bus depend on what there is to see of it, and calls show there alike.
theorem alike_view (index : Nat) :
    Alike (fun line => busOf line = index) fun first second : Bench =>
      first.view index = second.view index where
  configure line role first second hline h := by
    subst hline
    obtain ⟨hstations, hevents⟩ := Prod.mk.inj h
    cases hfirst : first.stations[busOf line]? with
    | none =>
        have hsecond := hstations.symm.trans hfirst
        simp only [Gpio.configure, configure_of_none hfirst, configure_of_none hsecond]
        exact ⟨trivial, h⟩
    | some station =>
        have hsecond := hstations.symm.trans hfirst
        obtain ⟨hdone, hset, hmade⟩ := configure_of_some hfirst role
        obtain ⟨hdone', hset', hmade'⟩ := configure_of_some hsecond role
        refine ⟨hdone.trans hdone'.symm, ?_⟩
        simp only [Gpio.configure, view, hset, hset', hmade, hmade', List.filter_append, hevents,
          getElem?_set_of_some hfirst, getElem?_set_of_some hsecond]
  read line first second hline h := by
    subst hline
    obtain ⟨hstations, hevents⟩ := Prod.mk.inj h
    cases hfirst : first.stations[busOf line]? with
    | none =>
        have hsecond := hstations.symm.trans hfirst
        simp only [Gpio.read, read_of_none hfirst, read_of_none hsecond]
        exact ⟨trivial, h⟩
    | some station =>
        have hsecond := hstations.symm.trans hfirst
        obtain ⟨hlevel, hset, hsame⟩ := read_of_some hfirst
        obtain ⟨hlevel', hset', hsame'⟩ := read_of_some hsecond
        refine ⟨hlevel.trans hlevel'.symm, ?_⟩
        simp only [Gpio.read, view, hset, hset', hsame, hsame', hevents,
          getElem?_set_of_some hfirst, getElem?_set_of_some hsecond]

-- Calls on other buses do not show on this one.
theorem alike_elsewhere (bench : Bench) (index : Nat) :
    Alike (fun line => busOf line ≠ index) fun first second : Bench =>
      first = second ∧ first.view index = bench.view index where
  configure line role first second hline h := by
    obtain ⟨rfl, h⟩ := h
    exact ⟨rfl, rfl, (view_configure_of_ne hline role).trans h⟩
  read line first second hline h := by
    obtain ⟨rfl, h⟩ := h
    exact ⟨rfl, rfl, (view_read_of_ne hline).trans h⟩

-- Calls on data lines do not show on any clock.
theorem alike_data (bench : Bench) :
    Alike (fun line => wireOf line = .data) fun first second : Bench =>
      first = second ∧ first.clockEvents = bench.clockEvents where
  configure line role first second hline h := by
    obtain ⟨rfl, h⟩ := h
    refine ⟨rfl, rfl, ?_⟩
    cases hstation : first.stations[busOf line]? with
    | none =>
        simp only [Gpio.configure, configure_of_none hstation]
        exact h
    | some station =>
        obtain ⟨-, -, hmade⟩ := configure_of_some hstation role
        simp only [clockEvents, Gpio.configure, hmade, List.filter_append] at h ⊢
        rw [filter_recorded _ _ _ (by simp [hline]), List.append_nil, h]
  read line first second hline h := by
    obtain ⟨rfl, h⟩ := h
    exact ⟨rfl, rfl, (first.clockEvents_read line).trans h⟩

end SevenSegment.Bench

namespace SevenSegment.Line

open Bench (busOf wireOf)

-- The roles that a move takes a clock pin through.
def Move.clockPath (role : Role) : Move → List Role
  | .release .clock | .probe => role.path .released
  | .pullLow .clock => role.path .low
  | .release .data | .pullLow .data => []

section Clock

variable {pin : Pin} {link : Link} {move : Move} {bench : Bench} {index : Nat} {up : Bool}

theorem Pin.clockEvents_follow {path : List Role} (hwire : wireOf pin.line = .clock)
    (hindex : busOf pin.line < bench.stations.size) (h : (follow path pin bench).1 = .ok ()) :
    (follow path pin bench).2.2.clockEvents =
      bench.clockEvents ++ path.map fun role => ⟨busOf pin.line, .clock, role⟩ := by
  induction path generalizing pin bench with
  | nil => simp [follow]
  | cons role path ih =>
      obtain ⟨station, hstation⟩ : ∃ station, bench.stations[busOf pin.line]? = some station :=
        ⟨_, Array.getElem?_eq_getElem hindex⟩
      obtain ⟨hdone, hset, hmade⟩ := Bench.configure_of_some hstation role
      simp only [follow, Gpio.configure] at h ⊢
      generalize bench.configure pin.line role = answer at h hdone hset hmade ⊢
      obtain ⟨done, after⟩ := answer
      cases done with
      | error error => cases h
      | ok =>
          simp only at h hdone hset hmade ⊢
          have hsize : after.stations.size = bench.stations.size := by simp [hset]
          rw [← hdone] at hmade
          rw [ih (by exact hwire) (by rw [hsize]; exact hindex) h, Bench.clockEvents, hmade]
          simp [Bench.recorded, hwire, Bench.clockEvents]

theorem Pin.clockEvents_enter {role : Role} (hwire : wireOf pin.line = .clock)
    (hindex : busOf pin.line < bench.stations.size) (h : (pin.enter role bench).1 = .ok ()) :
    (pin.enter role bench).2.2.clockEvents = bench.clockEvents ++
      (pin.role.path role).map fun role => ⟨busOf pin.line, .clock, role⟩ :=
  clockEvents_follow hwire hindex h

theorem Pin.clockEvents_release (hwire : wireOf pin.line = .clock)
    (hindex : busOf pin.line < bench.stations.size) (h : (pin.release bench).1 = .ok up) :
    (pin.release bench).2.2.clockEvents = bench.clockEvents ++
      (pin.role.path .released).map fun role => ⟨busOf pin.line, .clock, role⟩ := by
  have hentered : (pin.enter .released bench).1 = .ok () → _ := clockEvents_enter hwire hindex
  unfold release at h ⊢
  split at h
  · cases h
  · rename_i pin' after heq
    rw [heq] at hentered
    exact (after.clockEvents_read pin'.line).trans (hentered rfl)

theorem Link.clockEvents_data (hon : link.On index) :
    (link.release .data bench).2.2.clockEvents = bench.clockEvents ∧
      (link.pullLow .data bench).2.2.clockEvents = bench.clockEvents := by
  have hdata : wireOf (link.pin .data).line = .data := hon.wireOf_line .data
  have alike := Bench.alike_data bench
  exact ⟨(alike.release link .data hdata ⟨rfl, rfl⟩).2.2.2,
    (alike.pullLow link .data hdata ⟨rfl, rfl⟩).2.2.2⟩

theorem Link.clockEvents_perform (hon : link.On index) (hindex : index < bench.stations.size)
    (h : (link.perform move bench).1 = .ok up) :
    (link.perform move bench).2.2.clockEvents = bench.clockEvents ++
      (move.clockPath link.clock.role).map fun role => ⟨index, .clock, role⟩ := by
  have hwire : wireOf link.clock.line = .clock := hon.wireOf_line .clock
  have hbus : busOf link.clock.line = index := hon.busOf_line .clock
  have hclock : ∀ {up}, (link.clock.release bench).1 = .ok up → _ :=
    Pin.clockEvents_release hwire (hbus ▸ hindex)
  rw [hbus] at hclock
  cases move with
  | release wire =>
      cases wire with
      | clock => exact hclock h
      | data => exact (clockEvents_data hon).1.trans (List.append_nil _).symm
  | pullLow wire =>
      cases wire with
      | clock =>
          have hentered : (link.clock.enter .low bench).1 = .ok () := by
            cases hdone : (link.clock.enter .low bench).1 with
            | error error => simp [perform, pullLow, Pin.pullLow, pin, hdone, Except.map] at h
            | ok => rfl
          have hlow := Pin.clockEvents_enter hwire (hbus ▸ hindex) hentered
          rw [hbus] at hlow
          exact hlow
      | data => exact (clockEvents_data hon).2.trans (List.append_nil _).symm
  | probe =>
      have hsame := link.release_sameLines .clock bench
      have hreleased : ∀ {up}, (link.release .clock bench).1 = .ok up →
          (link.release .clock bench).2.2.clockEvents = _ := hclock
      simp only [perform] at h ⊢
      generalize link.release .clock bench = clock at h hsame hreleased ⊢
      obtain ⟨level, link', after⟩ := clock
      cases level with
      | error error => cases h
      | ok level =>
          cases level with
          | false => exact hreleased rfl
          | true => exact (clockEvents_data (hon.of_sameLines hsame)).1.trans (hreleased rfl)

end Clock

-- The clock pin after a move that succeeded.
theorem Link.clock_of_ok {σ : Type} [Gpio σ] {link : Link} {move : Move} {lines : σ} {up : Bool}
    (h : (link.perform move lines).1 = .ok up) :
    (link.perform move lines).2.1.clock =
      { link.clock with role := (move.clockPath link.clock.role).getLastD link.clock.role } := by
  have hmoved := moved_of_ok h
  have hline : (link.perform move lines).2.1.clock.line = link.clock.line :=
    link.perform_sameLines move lines .clock
  generalize (link.perform move lines).2.1 = after at hmoved hline ⊢
  cases move with
  | release wire =>
      cases wire with
      | clock =>
          rw [hmoved, Move.clockPath, Role.getLastD_path]
          rfl
      | data =>
          rw [hmoved]
          rfl
  | pullLow wire =>
      cases wire with
      | clock =>
          rw [hmoved, Move.clockPath, Role.getLastD_path]
          rfl
      | data =>
          rw [hmoved]
          rfl
  | probe =>
      obtain ⟨clock, data⟩ := after
      obtain ⟨line, role⟩ := clock
      obtain ⟨hrole, -⟩ := hmoved
      simp only at hline hrole
      rw [Move.clockPath, Role.getLastD_path, hline, hrole]

end SevenSegment.Line

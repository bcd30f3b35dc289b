import SevenSegment.Bench.Basic
import SevenSegment.Proofs.Line.Alike

namespace SevenSegment.Bench

open Line (Alike Gpio LineId Link Move Pin Role Wire)

theorem busOf_clock (index : Nat) : busOf (2 * index) = index := by
  simp [busOf]

theorem busOf_data (index : Nat) : busOf (2 * index + 1) = index := by
  simp only [busOf]
  omega

theorem wireOf_clock (index : Nat) : wireOf (2 * index) = .clock := by
  simp [wireOf]

theorem wireOf_data (index : Nat) : wireOf (2 * index + 1) = .data := by
  simp [wireOf]

-- Lines without countdowns or forced levels in between.
instance : Gpio Bus where
  configure line role bus :=
    if role = .low ∧ bus.failPulls then (.error Station.broken, bus)
    else (.ok (), bus.drive (wireOf line) role)
  read line bus :=
    (if bus.failReads then .error Station.broken else .ok (bus.isHigh (wireOf line)),
      { bus with reads := bus.reads + 1 })

-- A tap that lets every call through. A countdown that is to fail no call may still skip some.
structure Tap.Inactive (tap : Tap) : Prop where
  countdown : ∀ call, (tap.countdown call).times = 0
  forced : tap.forced = none

def Station.Undisturbed (station : Station) : Prop := ∀ wire, (station.tap wire).Inactive

theorem Countdown.count_of_times_eq_zero {countdown : Countdown} (h : countdown.times = 0) :
    countdown.count.1 = false ∧ countdown.count.2.times = 0 := by
  unfold count
  split
  · exact ⟨rfl, h⟩
  · rw [if_neg (by omega)]
    exact ⟨rfl, h⟩

theorem Tap.Inactive.setCountdown {tap : Tap} (h : tap.Inactive) {countdown : Countdown}
    (hcountdown : countdown.times = 0) (call : LineCall) :
    (tap.setCountdown countdown call).Inactive := by
  have hinert := h.countdown (.configure .inert)
  have hreleased := h.countdown (.configure .released)
  have hlow := h.countdown (.configure .low)
  have hread := h.countdown .read
  refine ⟨?_, ?_⟩
  · intro other
    rcases other with role | -
    · rcases call with (_ | _ | _) | - <;> cases role <;> assumption
    · rcases call with (_ | _ | _) | - <;> assumption
  · rcases call with (_ | _ | _) | - <;> exact h.forced

namespace Station

variable {station : Station}

theorem Undisturbed.setTap (h : station.Undisturbed) {tap : Tap} (htap : tap.Inactive)
    (wire : Wire) : (station.setTap tap wire).Undisturbed := by
  intro other
  match wire, other with
  | .clock, .clock | .data, .data => exact htap
  | .clock, .data => exact h .data
  | .data, .clock => exact h .clock

@[simp]
theorem setTap_bus (tap : Tap) (wire : Wire) : (station.setTap tap wire).bus = station.bus := by
  cases wire <;> rfl

theorem count_of_undisturbed (h : station.Undisturbed) (wire : Wire) (call : LineCall) :
    (station.count wire call).1 = false ∧ (station.count wire call).2.bus = station.bus ∧
      (station.count wire call).2.Undisturbed := by
  obtain ⟨hfails, htimes⟩ := Countdown.count_of_times_eq_zero ((h wire).countdown call)
  exact ⟨hfails, setTap_bus _ _, h.setTap ((h wire).setCountdown htimes call) wire⟩

theorem configure_of_undisturbed (h : station.Undisturbed) (line : LineId) (role : Role) :
    (station.configure (wireOf line) role).1 = (Gpio.configure line role station.bus).1 ∧
      (station.configure (wireOf line) role).2.bus = (Gpio.configure line role station.bus).2 ∧
      (station.configure (wireOf line) role).2.Undisturbed := by
  obtain ⟨hfails, hbus, hcalm⟩ := count_of_undisturbed h (wireOf line) (.configure role)
  simp only [configure, Gpio.configure, hfails, Bool.false_eq_true, if_false, hbus]
  split
  · exact ⟨rfl, hbus, hcalm⟩
  · exact ⟨rfl, rfl, hcalm⟩

theorem read_of_undisturbed (h : station.Undisturbed) (line : LineId) :
    (station.read (wireOf line)).1 = (Gpio.read line station.bus).1 ∧
      (station.read (wireOf line)).2.bus = (Gpio.read line station.bus).2 ∧
      (station.read (wireOf line)).2.Undisturbed := by
  obtain ⟨hfails, hbus, hcalm⟩ := count_of_undisturbed h (wireOf line) .read
  simp only [read, Gpio.read, hfails, Bool.false_eq_true, if_false, hbus,
    (hcalm (wireOf line)).forced, Option.getD_none]
  exact ⟨trivial, trivial, hcalm⟩

end Station

end SevenSegment.Bench

namespace SevenSegment

open Line (Alike Gpio LineId)
open Bench (Bus busOf)

-- One bus of a bench, undisturbed, and all others as they were.
structure Bench.Shows (before : Bench) (index : Nat) (bench : Bench) (bus : Bus) : Prop where
  station : ∃ station, bench.stations[index]? = some station ∧ station.bus = bus ∧
    station.Undisturbed
  others : ∀ other, other ≠ index → bench.stations[other]? = before.stations[other]?
  size : bench.stations.size = before.stations.size

theorem Bench.Shows.set {before bench after : Bench} {index : Nat} {bus bus' : Bus}
    (h : Shows before index bench bus) (hindex : index < bench.stations.size)
    {station : Bench.Station} (hafter : after.stations = bench.stations.set index station)
    (hbus : station.bus = bus') (hcalm : station.Undisturbed) : Shows before index after bus' where
  station := ⟨station, by simp [hafter], hbus, hcalm⟩
  others other hne := by
    rw [hafter, Array.getElem?_set_ne _ (Ne.symm hne)]
    exact h.others other hne
  size := by rw [hafter, Array.size_set, h.size]

-- A driver on the two lines of such a bus cannot tell the bench from the bus.
theorem Bench.alike_bus (before : Bench) (index : Nat) :
    Alike (fun line => busOf line = index) (Shows before index) where
  configure line role bench bus hline h := by
    obtain ⟨station, hstation, rfl, hcalm⟩ := h.station
    obtain ⟨hindex, rfl⟩ := Array.getElem?_eq_some_iff.mp hstation
    subst hline
    obtain ⟨hdone, hbus, hcalm'⟩ := Station.configure_of_undisturbed hcalm line role
    have hset := fun (after : Bench) (hafter : after.stations = _) =>
      h.set hindex hafter hbus hcalm'
    rw [← hdone]
    simp only [Gpio.configure, Bench.configure, hindex, dif_pos]
    split
    · exact ⟨rfl, hset _ rfl⟩
    · exact ⟨rfl, hset _ rfl⟩
  read line bench bus hline h := by
    obtain ⟨station, hstation, rfl, hcalm⟩ := h.station
    obtain ⟨hindex, rfl⟩ := Array.getElem?_eq_some_iff.mp hstation
    subst hline
    obtain ⟨hlevel, hbus, hcalm'⟩ := Station.read_of_undisturbed hcalm line
    rw [← hlevel]
    simp only [Gpio.read, Bench.read, hindex, dif_pos]
    exact ⟨trivial, h.set hindex rfl hbus hcalm'⟩

end SevenSegment

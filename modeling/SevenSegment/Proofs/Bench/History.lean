import SevenSegment.Proofs.Bench.Bus

namespace SevenSegment

open Line (LineId Role Wire)

namespace Bench

-- What a tester can set on one bus. The display does not notice, so it may miss an edge of the
-- clock.
inductive Setting where
  | holdClock (held : Bool)
  | stuckPulses (count : Nat)
  | failReads (fails : Bool)
  | failPulls (fails : Bool)
  | nackByte (byte : Option Nat)

def Setting.set (setting : Setting) (bus : Bus) : Bus :=
  match setting with
  | .holdClock held => { bus with holdClock := held }
  | .stuckPulses count => { bus with stuckPulses := count }
  | .failReads fails => { bus with failReads := fails }
  | .failPulls fails => { bus with failPulls := fails }
  | .nackByte byte => { bus with chip := { bus.chip with nackByte := byte } }

inductive Action where
  | configure (line : LineId) (role : Role)
  | read (line : LineId)
  | setFault (line : LineId) (call : LineCall) (fault : Countdown)
  | force (line : LineId) (level : Option Bool)
  | adjust (index : Nat) (setting : Setting)

def act (bench : Bench) : Action → Bench
  | .configure line role => (bench.configure line role).2
  | .read line => (bench.read line).2
  | .setFault line call fault => bench.setFault line call fault
  | .force line level => bench.force line level
  | .adjust index setting => bench.modifyBus index setting.set

-- A bench of so many displays after everything that happened on it.
def after (size : Nat) (history : List Action) : Bench := history.foldl act (ofSize size)

-- A display acknowledges nothing outside of a transfer.
def Chip.AcksInTransfer (chip : Chip) : Prop := chip.acking = true → chip.inTransfer = true

namespace Chip.AcksInTransfer

variable {chip : Chip}

theorem takeBit (h : chip.AcksInTransfer) (bit : Bool) : (chip.takeBit bit).AcksInTransfer := by
  unfold Chip.takeBit
  split <;> exact h

theorem endPulse (h : chip.AcksInTransfer) : chip.endPulse.AcksInTransfer := by
  unfold Chip.endPulse
  split
  · exact h
  · rename_i hopen
    have hopen : chip.inTransfer = true := by simpa using hopen
    (repeat' split) <;> first | exact h | exact fun _ => hopen

theorem openTransfer : chip.openTransfer.AcksInTransfer := fun _ => rfl

-- Data cannot rise while the display pulls it low.
theorem closeTransfer (h : chip.acking = false) : chip.closeTransfer.AcksInTransfer := by
  intro hacking
  unfold Chip.closeTransfer at hacking
  split at hacking <;> exact absurd (hacking.symm.trans h) (by simp)

end Chip.AcksInTransfer

-- What no edge takes from a display, and no setting. A stop condition needs data to rise, so none
-- falls into an acknowledgement.
structure Chip.Lasting (holds : Chip → Prop) : Prop where
  takeBit : ∀ {chip : Chip}, holds chip → ∀ bit, holds (chip.takeBit bit)
  endPulse : ∀ {chip : Chip}, holds chip → holds chip.endPulse
  openTransfer : ∀ {chip : Chip}, holds chip → holds chip.openTransfer
  closeTransfer : ∀ {chip : Chip}, holds chip → chip.acking = false → holds chip.closeTransfer
  nackByte : ∀ {chip : Chip}, holds chip → ∀ byte, holds { chip with nackByte := byte }

theorem Chip.lasting_acksInTransfer : Chip.Lasting AcksInTransfer where
  takeBit h := h.takeBit
  endPulse h := h.endPulse
  openTransfer _ := .openTransfer
  closeTransfer _ hacking := .closeTransfer hacking
  nackByte h _ := h

-- Of each display on the bench.
def Holds (bench : Bench) (holds : Chip → Prop) : Prop :=
  ∀ station ∈ bench.stations, holds station.bus.chip

@[simp]
theorem Station.count_bus (station : Station) (wire : Wire) (call : LineCall) :
    (station.count wire call).2.bus = station.bus :=
  setTap_bus _ _

@[simp]
theorem Station.chip_read (station : Station) (wire : Wire) :
    (station.read wire).2.bus.chip = station.bus.chip := by
  simp only [read]
  split <;> simp

namespace Holds

variable {bench : Bench} {holds : Chip → Prop}

theorem modifyStation (h : bench.Holds holds) (index : Nat) {change : Station → Station}
    (hchange : ∀ station, holds station.bus.chip → holds (change station).bus.chip) :
    (bench.modifyStation index change).Holds holds := by
  intro station hmem
  obtain ⟨other, hother, rfl⟩ := Array.mem_iff_getElem.mp hmem
  simp only [Bench.modifyStation, Array.getElem_modify]
  split
  · exact hchange _ (h _ (Array.getElem_mem _))
  · exact h _ (Array.getElem_mem _)

theorem set (h : bench.Holds holds) {index : Nat} (hindex : index < bench.stations.size)
    {station : Station} (hstation : holds station.bus.chip) {events : Array Event} :
    (⟨bench.stations.set index station, events⟩ : Bench).Holds holds := by
  intro other hmem
  rcases Array.mem_or_eq_of_mem_set (w := hindex) hmem with hmem | rfl
  · exact h other hmem
  · exact hstation

end Holds

namespace Chip.Lasting

variable {holds : Chip → Prop} (lasting : Chip.Lasting holds)

include lasting

theorem notice (before : Bus) {after : Bus} (h : holds after.chip) :
    holds (before.notice after).chip := by
  unfold Bus.notice
  split
  · exact lasting.takeBit h _
  · exact lasting.endPulse h
  · split
    · exact lasting.openTransfer h
    · rename_i hup
      have hacking : after.chip.acking = false := by
        simp only [Bus.dataHigh, Bool.not_eq_true', Bool.or_eq_false_iff] at hup
        exact hup.1.2
      exact lasting.closeTransfer h hacking
    · exact h
  · exact h

theorem drive {bus : Bus} (h : holds bus.chip) (wire : Wire) (role : Role) :
    holds (bus.drive wire role).chip := by
  apply lasting.notice
  cases wire <;> exact h

theorem set (setting : Setting) {bus : Bus} (h : holds bus.chip) :
    holds (setting.set bus).chip := by
  cases setting with
  | nackByte byte => exact lasting.nackByte h byte
  | holdClock _ | stuckPulses _ | failReads _ | failPulls _ => exact h

theorem configure {station : Station} (h : holds station.bus.chip) (wire : Wire) (role : Role) :
    holds (station.configure wire role).2.bus.chip := by
  simp only [Station.configure]
  (repeat' split)
  · simpa using h
  · simpa using h
  · simpa using lasting.drive h wire role

theorem act {bench : Bench} (h : bench.Holds holds) (action : Action) :
    (bench.act action).Holds holds := by
  cases action with
  | configure line role =>
      simp only [Bench.act, Bench.configure]
      split
      · rename_i hindex
        have hstation := lasting.configure (h _ (Array.getElem_mem hindex)) (wireOf line) role
        split <;> exact h.set hindex hstation
      · exact h
  | read line =>
      simp only [Bench.act, Bench.read]
      split
      · rename_i hindex
        exact h.set hindex (by simpa using h _ (Array.getElem_mem hindex))
      · exact h
  | setFault line call fault | force line level =>
      exact h.modifyStation _ fun station hstation => by simpa using hstation
  | adjust index setting =>
      exact h.modifyStation _ fun station hstation => lasting.set setting hstation

theorem after (hfresh : holds {}) (size : Nat) (history : List Action) :
    (after size history).Holds holds := by
  have hrun : ∀ (history : List Action) (bench : Bench), bench.Holds holds →
      (history.foldl Bench.act bench).Holds holds := by
    intro history
    induction history with
    | nil => exact fun _ h => h
    | cons action history ih => exact fun bench h => ih _ (lasting.act h action)
  apply hrun
  intro station hmem
  obtain ⟨-, rfl⟩ := Array.mem_replicate.mp hmem
  exact hfresh

end Chip.Lasting

theorem acksInTransfer_after (size : Nat) (history : List Action) :
    (after size history).Holds Chip.AcksInTransfer :=
  Chip.lasting_acksInTransfer.after (fun hacking => absurd hacking (by simp)) size history

end Bench

end SevenSegment

import SevenSegment.Bench.Basic
import SevenSegment.Proofs.Driver.Punctual

namespace SevenSegment.Driver

open Time (Instant Span)

-- Both waits of a device take it to a later instant, wherever on the clock it is.
def Config.Advances (config : Config) : Prop :=
  ∃ wait, config.backoff? = some wait ∧
    ∀ instant : Instant, (instant + config.stepInterval).compare instant = .gt ∧
      (instant + wait).compare instant = .gt

theorem Config.Paces.advances {config : Config} {wait : Span} (h : config.Paces wait)
    (hstep : 0 < config.stepInterval.toNat) : config.Advances :=
  ⟨wait, h.backoff, fun instant => ⟨(instant.compare_add_eq_gt_iff _).mpr ⟨hstep, h.stepReach⟩,
    (instant.compare_add_eq_gt_iff _).mpr ⟨h.pos, h.reach⟩⟩⟩

theorem Config.Advances.reach {config : Config} (h : config.Advances) :
    config.stepInterval.toNat * config.contentionBackoff.toNat ≤ Instant.reach := by
  obtain ⟨wait, hwait, hforward⟩ := h
  rw [← Config.toNat_backoff? hwait]
  exact ((Instant.compare_add_eq_gt_iff ⟨0⟩ wait).mp (hforward ⟨0⟩).2).2

-- What passes the check is left as it is. It advances a device just as long as its back-off stays
-- within reach, and has no back-off at all once that is longer than the clock.
theorem check_advances_iff {config checked : Config} (h : config.check = .ok checked) :
    let product := config.stepInterval.toNat * config.contentionBackoff.toNat
    checked = config ∧ (checked.backoff? = none ↔ 2 ^ 32 ≤ product) ∧
      (checked.Advances ↔ product ≤ Instant.reach) := by
  intro product
  obtain ⟨rfl, hstep, -, -⟩ := (Config.check_eq_ok_iff _ _).mp h
  refine ⟨rfl, checked.backoff?_eq_none_iff, Config.Advances.reach, fun hreach => ?_⟩
  obtain ⟨wait, hpaces⟩ := Config.paces h hreach
  have hpos : 0 < checked.stepInterval.toNat :=
    Nat.pos_of_ne_zero fun hzero => hstep (UInt32.toNat_inj.mp hzero)
  exact hpaces.advances hpos

theorem check_advances_longest :
    let config : Config := { stepInterval := 2, contentionBackoff := 0x3FFFFFFF }
    config.check = .ok config ∧ config.Advances := by
  intro config
  have hcheck : config.check = .ok config := by decide
  exact ⟨hcheck, (check_advances_iff hcheck).2.2.mpr (by decide)⟩

-- A back-off of a little over forty minutes passes the check, and the display that backs off under
-- it is due before the one that it makes way for.
theorem check_lets_backward_through :
    let config : Config := { contentionBackoff := 25000000 }
    let registry := (History.after 2 config (Bench.ofSize 2)
      [.configure (Bench.ofSize 2).knows 0 0 1, .configure (Bench.ofSize 2).knows 1 2 3,
        .send 0 [64, 192, 6, 91, 79, 0, 0, 0, 143] ⟨0⟩,
        .send 1 [64, 192, 6, 91, 79, 0, 0, 0, 143] ⟨0⟩, .tick 0, .tick 1]).registry
    config.check = .ok config ∧ ¬config.Advances ∧
      registry.lock.holder = some 0 ∧ registry.nextAlarm? = some (1, ⟨2500000100⟩) := by
  intro config registry
  exact ⟨by decide, fun h => absurd h.reach (by decide), by decide, by decide⟩

end SevenSegment.Driver

import SevenSegment.Proofs.Driver.History

namespace SevenSegment.Driver

open Line (Gpio)
open Panel (Payload)
open Time (Instant)

variable {σ : Type} [Gpio σ]

namespace Registry

variable {registry : Registry}

-- The payload that a device is armed for.
def pending (registry : Registry) (oid : UInt8) : Option Payload :=
  (registry.device? oid).bind fun device =>
    if device.isBusy then some device.session.payload else none

theorem pending_congr {other : Registry} {oid : UInt8}
    (h : other.device? oid = registry.device? oid) : other.pending oid = registry.pending oid := by
  rw [pending, pending, h]

theorem pending_eq {oid : UInt8} {device : Device} (h : registry.device? oid = some device) :
    registry.pending oid = if device.isBusy then some device.session.payload else none := by
  rw [pending, h, Option.bind_some]

theorem pending_put {device old : Device} (h : registry.device? device.oid = some old) :
    (registry.put device).pending device.oid =
      if device.isBusy then some device.session.payload else none :=
  pending_eq (device?_put_self h)

theorem pending_put_of_ne {device : Device} {oid : UInt8} (h : oid ≠ device.oid) :
    (registry.put device).pending oid = registry.pending oid :=
  pending_congr (device?_put_of_ne h)

end Registry

namespace History

def queuedFor (history : History σ) (oid : UInt8) : List (Option Payload) :=
  (history.queued.filter fun entry => entry.1 = oid).map fun entry => some entry.2

def endedFor (history : History σ) (oid : UInt8) : List (Option Payload) :=
  (history.ended.filter fun sending => sending.oid = oid).map Sending.payload

def pendingFor (history : History σ) (oid : UInt8) : List (Option Payload) :=
  (history.registry.pending oid).toList.map some

-- Every queued payload was sent, or is being sent.
def Accounts (history : History σ) : Prop :=
  ∀ oid, history.queuedFor oid = history.endedFor oid ++ history.pendingFor oid

variable {history : History σ}

theorem Accounts.configure (h : history.Accounts) (known : Line.LineId → Bool) (oid : UInt8)
    (clock data : Line.LineId) : (history.serve (.configure known oid clock data)).Accounts := by
  intro other
  have hpending : (history.serve (.configure known oid clock data)).registry.pending other =
      history.registry.pending other := by
    simp only [serve]
    rcases history.registry.configure_cases known oid clock data with hsame | ⟨hnone, -, -, hnew⟩
    · rw [hsame]
    · rw [hnew]
      by_cases hoid : other = oid
      · subst hoid
        have hfound : ({ history.registry with
            devices := history.registry.devices ++ [.new other clock data] } : Registry).device?
              other = some (.new other clock data) := by
          rw [Registry.device?, List.find?_append, ← Registry.device?, hnone]
          simp [Device.new]
        rw [Registry.pending_eq hfound, Registry.pending, hnone]
        rfl
      · apply Registry.pending_congr
        rw [Registry.device?, List.find?_append, ← Registry.device?]
        simp [Device.new, Ne.symm hoid]
  rw [pendingFor, hpending]
  exact h other

theorem Accounts.send (h : history.Accounts) (hsound : history.Sound) (oid : UInt8)
    (bytes : List UInt8) (now : Instant) : (history.serve (.send oid bytes now)).Accounts := by
  intro other
  simp only [serve, queuedFor, endedFor, pendingFor]
  rcases hsound.registry.send_cases oid bytes now with
    ⟨hresult, hsame⟩ | ⟨hresult, device, hmem, rfl, hfree, payload, hbytes, hput⟩
  · rw [hsame, queuing_of_ne hresult, List.append_nil]
    exact h other
  · have hfound := hsound.registry.device?_eq hmem
    rw [hput, hresult]
    simp only [queuing, hbytes, Option.map_some, Option.toList_some, List.filter_append,
      List.map_append]
    have hqueued := device.queued_oid payload (now + history.registry.config.stepInterval)
    by_cases hoid : other = device.oid
    · subst hoid
      have hpending : (history.registry.put (device.queued payload
          (now + history.registry.config.stepInterval))).pending device.oid = some payload :=
        Registry.pending_put hfound
      have hbefore := h device.oid
      rw [pendingFor, Registry.pending_eq hfound, hfree] at hbefore
      simp only [queuedFor, endedFor, Bool.false_eq_true, if_false, Option.toList_none,
        List.map_nil, List.append_nil] at hbefore
      rw [hpending]
      simp [hbefore]
    · rw [Registry.pending_put_of_ne (hqueued ▸ hoid)]
      simpa [Ne.symm hoid, queuedFor, endedFor, pendingFor] using h other

theorem Accounts.tick (h : history.Accounts) (hsound : history.Sound) (oid : UInt8) :
    (history.serve (.tick oid)).Accounts := by
  intro other
  rcases history.tick_called oid with hsame | ⟨device, after, rfl, hcalled⟩
  · rw [hsame]
    exact h other
  · have hqueued : (history.serve (.tick device.oid)).queued = history.queued := rfl
    simp only [queuedFor, endedFor, pendingFor, hqueued, hcalled.ended, List.filter_append,
      List.map_append]
    by_cases hother : other = device.oid
    · subst hother
      have hbefore := h device.oid
      rw [pendingFor, Registry.pending_eq hcalled.found] at hbefore
      rw [Registry.pending_eq hcalled.self]
      cases hbusy : device.isBusy with
      | false =>
          have hstill : after.device.isBusy = false := by
            by_contra hbusy'
            have := (Device.ticked_payload hcalled.ticked (by simpa using hbusy')).2
            simp [hbusy] at this
          simpa [hbusy, hstill, queuedFor, endedFor] using hbefore
      | true =>
          have hlatest := hsound.latest device hcalled.mem hbusy
          cases hbusy' : after.device.isBusy with
          | false => simpa [hbusy, hbusy', queuedFor, endedFor, sendingOf, hlatest] using hbefore
          | true =>
              have hpayload := (Device.ticked_payload hcalled.ticked hbusy').1
              simpa [hbusy, hbusy', hpayload, queuedFor, endedFor] using hbefore
    · have hsame : (history.serve (.tick device.oid)).registry.pending other =
          history.registry.pending other := by
        rw [hcalled.registry]
        exact Registry.pending_put_of_ne (Device.ticked_oid hcalled.ticked ▸ hother)
      have hnone : (if device.isBusy = true ∧ after.device.isBusy = false then
          [history.sendingOf device] else []).filter (fun sending => sending.oid = other) = [] := by
        split <;> simp [sendingOf, Ne.symm hother]
      rw [hsame, hnone]
      simpa [queuedFor, endedFor, pendingFor] using h other

theorem accounts_after {capacity : Nat} {config : Config} {lines : σ} {requests : List Request}
    (hrequests : .shutdown ∉ requests) : (after capacity config lines requests).Accounts := by
  refine (after_keeps (fun history => history.Sound ∧ history.Accounts) ?_ ?_).2
  · exact ⟨sound_start capacity config lines, fun _ => rfl⟩
  · rintro history ⟨hsound, h⟩ request hmem
    refine ⟨hsound.serve request, ?_⟩
    cases request with
    | configure known oid clock data => exact h.configure known oid clock data
    | send oid bytes now => exact h.send hsound oid bytes now
    | tick oid => exact h.tick hsound oid
    | nextAlarm => exact h
    | shutdown => exact absurd hmem hrequests

end History

end SevenSegment.Driver

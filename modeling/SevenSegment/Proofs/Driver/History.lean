import SevenSegment.Proofs.Driver.Sound
import SevenSegment.Proofs.Session.Trace

namespace SevenSegment.Driver

open Line (Call Gpio Link LineId Recorded)
open Panel (Payload)
open Time (Instant)

inductive Request where
  | configure (known : LineId → Bool) (oid : UInt8) (clock data : LineId)
  | send (oid : UInt8) (bytes : List UInt8) (now : Instant)
  | tick (oid : UInt8)
  | nextAlarm
  | shutdown

-- Who makes a call on the lines.
inductive Author where
  | device (oid : UInt8)
  | shutdown

-- A device and the payload that was queued for it last.
structure Sending where
  oid : UInt8
  link : Link
  payload : Option Payload

inductive Event (σ : Type) where
  -- A device got the bus.
  | acquired (sending : Sending) (lines : σ)
  | shutDown (devices : List Device) (lines : σ)

structure History (σ : Type) where
  registry : Registry
  lines : σ
  calls : List (Author × Call) := []
  queued : List (UInt8 × Payload) := []
  events : List (Event σ) := []
  -- The sessions that have ended, in order.
  ended : List Sending := []

namespace History

variable {σ : Type} [Gpio σ]

def latest? (history : History σ) (oid : UInt8) : Option Payload :=
  history.queued.reverse.lookup oid

def sendingOf (history : History σ) (device : Device) : Sending :=
  ⟨device.oid, device.link, history.latest? device.oid⟩

-- An armed device gets the bus if nobody holds it.
def acquired (history : History σ) (oid : UInt8) : List (Event σ) :=
  match history.registry.device? oid with
  | none => []
  | some device =>
    if device.isBusy ∧ history.registry.lock.holder = none then
      [.acquired (history.sendingOf device) history.lines]
    else []

-- A session is over once its device is armed no longer.
def ending (history : History σ) (oid : UInt8) (after : Registry) : List Sending :=
  match history.registry.device? oid with
  | none => []
  | some device =>
    if device.isBusy ∧ (after.device? oid).all (fun device => !device.isBusy) then
      [history.sendingOf device]
    else []

-- What a send adds to the queued payloads.
def queuing (oid : UInt8) (bytes : List UInt8) :
    Except CommandError Receipt → List (UInt8 × Payload)
  | .ok .queued => ((Payload.ofList? bytes).map fun payload => (oid, payload)).toList
  | _ => []

def serve (history : History σ) : Request → History σ
  | .configure known oid clock data =>
    { history with registry := (history.registry.configure known oid clock data).registry }
  | .send oid bytes now =>
    let reply := history.registry.send oid bytes now
    { history with
      registry := reply.registry
      queued := history.queued ++ queuing oid bytes reply.result }
  | .tick oid =>
    let after := history.registry.tick oid history.lines
    let record := history.registry.tick oid (⟨history.lines, []⟩ : Recorded σ)
    { registry := after.registry
      lines := after.lines
      calls := history.calls ++ record.lines.calls.map fun call => (.device oid, call)
      queued := history.queued
      events := history.events ++ history.acquired oid
      ended := history.ended ++ history.ending oid after.registry }
  | .nextAlarm => history
  | .shutdown =>
    let after := history.registry.shutdown history.lines
    let record := history.registry.shutdown (⟨history.lines, []⟩ : Recorded σ)
    { history with
      registry := after.1
      lines := after.2.1
      calls := history.calls ++ record.2.1.calls.map fun call => (.shutdown, call)
      events := history.events ++ [.shutDown history.registry.devices history.lines] }

def after (capacity : Nat) (config : Config) (lines : σ) (requests : List Request) : History σ :=
  requests.foldl serve { registry := .new capacity config, lines }

-- What holds at the start, and after a request if it held before, holds at the end.
theorem after_keeps (kept : History σ → Prop) {capacity : Nat} {config : Config} {lines : σ}
    {requests : List Request} (hstart : kept { registry := .new capacity config, lines })
    (hserve : ∀ history, kept history → ∀ request ∈ requests, kept (history.serve request)) :
    kept (after capacity config lines requests) :=
  List.foldlRecOn requests serve hstart hserve

theorem config_serve (history : History σ) (request : Request) :
    (history.serve request).registry.config = history.registry.config := by
  cases request with
  | configure known oid clock data =>
      simp only [serve, Registry.configure]
      (repeat' split) <;> rfl
  | send oid bytes now =>
      simp only [serve, Registry.send]
      (repeat' split) <;> rfl
  | tick oid => exact history.registry.config_tick oid history.lines
  | nextAlarm => rfl
  | shutdown => rfl

theorem config_after (capacity : Nat) (config : Config) (lines : σ) (requests : List Request) :
    (after capacity config lines requests).registry.config = config :=
  after_keeps (fun history => history.registry.config = config) rfl
    fun history h request _ => (history.config_serve request).trans h

omit [Gpio σ] in
theorem queuing_of_ne {oid : UInt8} {bytes : List UInt8} {result : Except CommandError Receipt}
    (h : result ≠ .ok .queued) : queuing oid bytes result = [] := by
  unfold queuing
  split
  · exact absurd rfl h
  · rfl

theorem lookup_queued (queued : List (UInt8 × Payload)) (oid other : UInt8) (payload : Payload) :
    (queued ++ [(oid, payload)]).reverse.lookup other =
      if other = oid then some payload else queued.reverse.lookup other := by
  rw [List.reverse_append]
  by_cases h : other = oid
  · simp [h]
  · have hne : (other == oid) = false := by simpa using h
    simp [List.lookup_cons, h, hne]

-- A callback for nobody changes nothing.
theorem serve_tick_of_none {history : History σ} {oid : UInt8}
    (h : history.registry.device? oid = none) : history.serve (.tick oid) = history := by
  simp only [serve, Registry.tick, h, acquired, ending, List.map_nil, List.append_nil]

omit [Gpio σ] in
theorem ending_eq {history : History σ} {oid : UInt8} {after : Registry} {device device' : Device}
    (h : history.registry.device? oid = some device) (h' : after.device? oid = some device') :
    history.ending oid after =
      if device.isBusy ∧ device'.isBusy = false then [history.sendingOf device] else [] := by
  simp [ending, h, h']

-- What a callback of a device leaves behind, but for the calls it makes.
structure Called (history : History σ) (device : Device) (after : Device.Tick σ) : Prop where
  mem : device ∈ history.registry.devices
  found : history.registry.device? device.oid = some device
  ticked : device.Ticked history.registry.lock history.registry.config history.lines after
  registry : (history.serve (.tick device.oid)).registry =
    { history.registry.put after.device with lock := after.lock }
  lines : (history.serve (.tick device.oid)).lines = after.lines
  self : (history.serve (.tick device.oid)).registry.device? device.oid = some after.device
  ended : (history.serve (.tick device.oid)).ended = history.ended ++
    if device.isBusy ∧ after.device.isBusy = false then [history.sendingOf device] else []

theorem tick_called (history : History σ) (oid : UInt8) :
    history.serve (.tick oid) = history ∨
      ∃ device after, device.oid = oid ∧ history.Called device after := by
  rcases history.registry.tick_cases oid history.lines with
    ⟨hnone, -, -⟩ | ⟨device, after, hfound, hticked, htick⟩
  · exact .inl (serve_tick_of_none hnone)
  · obtain ⟨hmem, rfl⟩ := Registry.mem_of_device? hfound
    have hregistry : (history.serve (.tick device.oid)).registry =
        { history.registry.put after.device with lock := after.lock } :=
      congrArg Registry.Tick.registry htick
    have hself : (history.serve (.tick device.oid)).registry.device? device.oid =
        some after.device := by
      have hoid := Device.ticked_oid hticked
      rw [hregistry, ← hoid]
      exact Registry.device?_put_self (hoid ▸ hfound)
    exact .inr ⟨device, after, rfl, hmem, hfound, hticked, hregistry,
      congrArg Registry.Tick.lines htick, hself,
      congrArg (history.ended ++ ·) (ending_eq hfound hself)⟩

-- The registry is sound, and an armed device is about to send what was queued for it last.
structure Sound (history : History σ) : Prop where
  registry : history.registry.Sound
  latest : ∀ device ∈ history.registry.devices, device.isBusy = true →
    history.latest? device.oid = some device.session.payload

namespace Sound

variable {history : History σ}

theorem send (h : history.Sound) (oid : UInt8) (bytes : List UInt8) (now : Instant) :
    (history.serve (.send oid bytes now)).Sound := by
  refine ⟨h.registry.send oid bytes now, ?_⟩
  simp only [serve, latest?]
  rcases h.registry.send_cases oid bytes now with
    ⟨hresult, hsame⟩ | ⟨hresult, old, hmem, rfl, -, payload, hbytes, hput⟩
  · rw [hsame, queuing_of_ne hresult, List.append_nil]
    exact h.latest
  · rw [hput, hresult]
    simp only [queuing, hbytes, Option.map_some, Option.toList_some, lookup_queued]
    intro device hdevice hbusy
    rcases Registry.mem_put hdevice with rfl | ⟨hdevice, hne⟩
    · exact if_pos rfl
    · rw [if_neg (by simpa using hne)]
      exact h.latest device hdevice hbusy

theorem tick (h : history.Sound) (oid : UInt8) : (history.serve (.tick oid)).Sound := by
  refine ⟨h.registry.tick oid _, ?_⟩
  rcases history.tick_called oid with hsame | ⟨old, after, rfl, hcalled⟩
  · rw [hsame]
    exact h.latest
  · rw [hcalled.registry]
    intro device hdevice hbusy
    rcases Registry.mem_put hdevice with rfl | ⟨hdevice, -⟩
    · obtain ⟨hpayload, hwas⟩ := Device.ticked_payload hcalled.ticked hbusy
      rw [Device.ticked_oid hcalled.ticked, hpayload]
      exact h.latest old hcalled.mem hwas
    · exact h.latest device hdevice hbusy

theorem serve (h : history.Sound) (request : Request) : (history.serve request).Sound := by
  cases request with
  | configure known oid clock data =>
      refine ⟨h.registry.configure known oid clock data, ?_⟩
      simp only [History.serve, latest?]
      rcases history.registry.configure_cases known oid clock data with hsame | ⟨-, -, -, hnew⟩
      · rw [hsame]
        exact h.latest
      · rw [hnew]
        intro device hmem hbusy
        rcases List.mem_append.mp hmem with hmem | hmem
        · exact h.latest device hmem hbusy
        · obtain rfl := List.mem_singleton.mp hmem
          exact absurd hbusy (by simp [Device.new, Device.isBusy, Time.Timer.isArmed, Time.Timer.idle])
  | send oid bytes now => exact h.send oid bytes now
  | tick oid => exact h.tick oid
  | nextAlarm => exact h
  | shutdown =>
      refine ⟨h.registry.shutdown _, fun device hmem hbusy => ?_⟩
      obtain ⟨-, hcleared⟩ :=
        Registry.shutdownAll_devices history.registry.devices history.lines
      exact absurd ((hcleared device hmem).2.symm.trans hbusy) (by simp)

end Sound

omit [Gpio σ] in
theorem sound_start (capacity : Nat) (config : Config) (lines : σ) :
    ({ registry := .new capacity config, lines } : History σ).Sound :=
  ⟨.new capacity config, by simp [Registry.new]⟩

end History

end SevenSegment.Driver

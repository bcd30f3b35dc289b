import SevenSegment.Proofs.Driver.Refusals

namespace SevenSegment.Driver

open Line (Gpio LineId)
open Time (Instant)

-- A request to one device that is not this one.
def Request.Spares (oid : UInt8) : Request → Prop
  | .configure _ other _ _ | .send other _ _ | .tick other => other ≠ oid
  | .nextAlarm | .shutdown => False

theorem Device.oid_of_accept {device after : Device} {bytes : List UInt8} {now : Instant}
    {config : Config} {receipt : Receipt}
    (h : device.accept bytes now config = .ok (receipt, after)) : after.oid = device.oid := by
  unfold accept at h
  split at h
  · cases h
  · split at h <;> cases h <;> rfl

namespace Registry

variable (registry : Registry) {device : Device} {oid : UInt8}

theorem put_put_of_ne {other : Device} (h : device.oid ≠ other.oid) :
    (registry.put device).put other = (registry.put other).put device := by
  simp only [put, List.map_map]
  congr 1
  apply List.map_congr_left
  intro old _
  by_cases hdevice : old.oid = device.oid
  · simp [hdevice, h]
  · by_cases hother : old.oid = other.oid <;> simp [hdevice, hother, Ne.symm h]

-- All that a send depends on is its device and the configuration, and all that it may do is to put
-- that device back.
theorem send_puts (oid : UInt8) (bytes : List UInt8) (now : Instant) :
    ∃ change : Registry → Registry,
      (change = id ∨ ∃ device, device.oid = oid ∧ change = fun after => after.put device) ∧
      ∀ after : Registry, after.device? oid = registry.device? oid →
        after.config = registry.config →
        (after.send oid bytes now).result = (registry.send oid bytes now).result ∧
          (after.send oid bytes now).registry = change after := by
  cases hfound : registry.device? oid with
  | none =>
      refine ⟨id, .inl rfl, fun after hsame _ => ?_⟩
      simp only [send, hsame, hfound, reject, id_eq]
      exact ⟨trivial, trivial⟩
  | some device =>
      cases haccept : device.accept bytes now registry.config with
      | error error =>
          refine ⟨id, .inl rfl, fun after hsame hconfig => ?_⟩
          simp only [send, hsame, hfound, hconfig, haccept, reject, id_eq]
          exact ⟨trivial, trivial⟩
      | ok accepted =>
          obtain ⟨receipt, accepted⟩ := accepted
          have hoid := (Device.oid_of_accept haccept).trans (mem_of_device? hfound).2
          refine ⟨_, .inr ⟨accepted, hoid, rfl⟩, fun after hsame hconfig => ?_⟩
          simp only [send, hsame, hfound, hconfig, haccept]
          exact ⟨trivial, trivial⟩

-- A device that was put back shows in no request to another one.
theorem configure_put (h : oid ≠ device.oid) (known : LineId → Bool) (clock data : LineId) :
    ((registry.put device).configure known oid clock data).result =
        (registry.configure known oid clock data).result ∧
      ((registry.put device).configure known oid clock data).registry =
        (registry.configure known oid clock data).registry.put device := by
  have hlength : (registry.put device).devices.length = registry.devices.length := by simp [put]
  have hcapacity : (registry.put device).capacity = registry.capacity := rfl
  have hnew : (Device.new oid clock data).oid ≠ device.oid := h
  simp only [configure, device?_put_of_ne h, hlength, hcapacity]
  (repeat' split)
  · exact ⟨rfl, rfl⟩
  · exact ⟨rfl, rfl⟩
  · exact ⟨rfl, rfl⟩
  · exact ⟨rfl, rfl⟩
  · simp [put, hnew]

theorem send_put (h : oid ≠ device.oid) (bytes : List UInt8) (now : Instant) :
    ((registry.put device).send oid bytes now).result = (registry.send oid bytes now).result ∧
      ((registry.put device).send oid bytes now).registry =
        (registry.send oid bytes now).registry.put device := by
  obtain ⟨change, hchange, hsend⟩ := registry.send_puts oid bytes now
  obtain ⟨hresult, hput⟩ := hsend (registry.put device) (device?_put_of_ne h) rfl
  refine ⟨hresult, ?_⟩
  rw [hput, (hsend registry rfl rfl).2]
  rcases hchange with rfl | ⟨accepted, rfl, rfl⟩
  · rfl
  · exact registry.put_put_of_ne (Ne.symm h)

variable {σ : Type} [Gpio σ]

theorem tick_put (h : oid ≠ device.oid) (lines : σ) :
    ((registry.put device).tick oid lines).result = (registry.tick oid lines).result ∧
      ((registry.put device).tick oid lines).registry =
        (registry.tick oid lines).registry.put device ∧
      ((registry.put device).tick oid lines).lines = (registry.tick oid lines).lines := by
  simp only [tick, device?_put_of_ne h]
  cases hfound : registry.device? oid with
  | none => exact ⟨rfl, rfl, rfl⟩
  | some called =>
      have hticked := called.tick_ticked registry.lock registry.config lines
      have hne : device.oid ≠ (called.tick registry.lock registry.config lines).device.oid := by
        rw [Device.ticked_oid hticked, (mem_of_device? hfound).2]
        exact Ne.symm h
      have hput := registry.put_put_of_ne hne
      refine ⟨rfl, ?_, rfl⟩
      exact congrArg (fun after : Registry =>
        { after with lock := (called.tick registry.lock registry.config lines).lock }) hput

end Registry

namespace History

variable {σ : Type} [Gpio σ] {history : History σ} {oid : UInt8} {request : Request}

-- What so many requests are answered, in order.
def answers : History σ → List Request → List Answer
  | _, [] => []
  | history, request :: requests =>
    history.answer request :: (history.serve request).answers requests

-- Two histories that have come to the same registry and the same lines.
structure Meets (first second : History σ) : Prop where
  registry : first.registry = second.registry
  lines : first.lines = second.lines

namespace Meets

variable {first second third : History σ}

omit [Gpio σ] in
theorem trans (h : first.Meets second) (h' : second.Meets third) : first.Meets third :=
  ⟨h.registry.trans h'.registry, h.lines.trans h'.lines⟩

theorem answer (h : first.Meets second) (request : Request) :
    first.answer request = second.answer request := by
  cases request <;> simp only [History.answer, h.registry, h.lines]

theorem serve (h : first.Meets second) (request : Request) :
    (first.serve request).Meets (second.serve request) := by
  cases request with
  | configure | send => exact ⟨by simp only [History.serve, h.registry], h.lines⟩
  | tick | shutdown =>
      constructor <;> simp only [History.serve, h.registry, h.lines]
  | nextAlarm => exact h

theorem foldl (h : first.Meets second) (requests : List Request) :
    (requests.foldl History.serve first).Meets (requests.foldl History.serve second) := by
  induction requests generalizing first second with
  | nil => exact h
  | cons request requests ih => exact ih (h.serve request)

theorem answers (h : first.Meets second) (requests : List Request) :
    first.answers requests = second.answers requests := by
  induction requests generalizing first second with
  | nil => rfl
  | cons request requests ih =>
      simp only [History.answers]
      rw [h.answer request, ih (h.serve request)]

end Meets

theorem device?_serve (h : request.Spares oid) :
    (history.serve request).registry.device? oid = history.registry.device? oid := by
  cases request with
  | configure known other clock data =>
      rcases history.registry.configure_cases known other clock data with hsame | ⟨-, -, -, hnew⟩
      · simp only [serve, hsame]
      · have hne : (Device.new other clock data).oid ≠ oid := h
        simp [serve, hnew, Registry.device?, List.find?_append, hne]
  | send other bytes now =>
      obtain ⟨change, hchange, hsend⟩ := history.registry.send_puts other bytes now
      simp only [serve, (hsend _ rfl rfl).2]
      rcases hchange with rfl | ⟨device, rfl, rfl⟩
      · rfl
      · exact Registry.device?_put_of_ne (Ne.symm h)
  | tick other =>
      rcases history.tick_called other with hsame | ⟨device, after, rfl, hcalled⟩
      · rw [hsame]
      · rw [hcalled.registry]
        exact Registry.device?_put_of_ne (Device.ticked_oid hcalled.ticked ▸ Ne.symm h)
  | nextAlarm | shutdown => exact h.elim

theorem serve_put (history : History σ) {device : Device} (h : request.Spares device.oid) :
    ({ history with registry := history.registry.put device } : History σ).answer request =
        history.answer request ∧
      (({ history with registry := history.registry.put device } : History σ).serve request).Meets
        { history.serve request with registry := (history.serve request).registry.put device } := by
  cases request with
  | configure known oid clock data =>
      obtain ⟨hresult, hput⟩ := history.registry.configure_put h known clock data
      exact ⟨congrArg Answer.configured hresult, hput, rfl⟩
  | send oid bytes now =>
      obtain ⟨hresult, hput⟩ := history.registry.send_put h bytes now
      exact ⟨congrArg Answer.sent hresult, hput, rfl⟩
  | tick oid =>
      obtain ⟨hresult, hput, hlines⟩ := history.registry.tick_put h history.lines
      exact ⟨congrArg Answer.called hresult, hput, hlines⟩
  | nextAlarm | shutdown => exact h.elim

-- A send and a request to another device do not notice which of them comes first.
theorem serve_comm (history : History σ) (h : request.Spares oid) (bytes : List UInt8)
    (now : Instant) :
    (history.serve request).answer (.send oid bytes now) = history.answer (.send oid bytes now) ∧
      (history.serve (.send oid bytes now)).answer request = history.answer request ∧
      ((history.serve (.send oid bytes now)).serve request).Meets
        ((history.serve request).serve (.send oid bytes now)) := by
  obtain ⟨change, hchange, hsend⟩ := history.registry.send_puts oid bytes now
  obtain ⟨-, hbefore⟩ := hsend history.registry rfl rfl
  obtain ⟨hresult, hafter⟩ := hsend (history.serve request).registry (device?_serve h)
    (history.config_serve request)
  refine ⟨congrArg Answer.sent hresult, ?_⟩
  rcases hchange with rfl | ⟨device, rfl, rfl⟩
  · have hsame : (history.serve (.send oid bytes now)).Meets history := ⟨hbefore, rfl⟩
    exact ⟨hsame.answer request, (hsame.serve request).trans ⟨hafter.symm, rfl⟩⟩
  · have hsame : (history.serve (.send device.oid bytes now)).Meets
        { history with registry := history.registry.put device } := ⟨hbefore, rfl⟩
    obtain ⟨hanswer, hput⟩ := history.serve_put h
    exact ⟨(hsame.answer request).trans hanswer,
      ((hsame.serve request).trans hput).trans ⟨hafter.symm, rfl⟩⟩

theorem send_past {stretch : List Request} (h : ∀ request ∈ stretch, request.Spares oid)
    (history : History σ) (bytes : List UInt8) (now : Instant) :
    (stretch.foldl serve history).answer (.send oid bytes now) =
        history.answer (.send oid bytes now) ∧
      (history.serve (.send oid bytes now)).answers stretch = history.answers stretch ∧
      (stretch.foldl serve (history.serve (.send oid bytes now))).Meets
        ((stretch.foldl serve history).serve (.send oid bytes now)) := by
  induction stretch generalizing history with
  | nil => exact ⟨rfl, rfl, rfl, rfl⟩
  | cons request stretch ih =>
      obtain ⟨hrequest, hstretch⟩ := List.forall_mem_cons.mp h
      obtain ⟨hsend, hanswer, hmeets⟩ := history.serve_comm hrequest bytes now
      obtain ⟨hsends, hanswers, hrest⟩ := ih hstretch (history.serve request)
      refine ⟨hsends.trans hsend, ?_, (hmeets.foldl stretch).trans hrest⟩
      rw [answers, answers, hanswer, hmeets.answers stretch, hanswers]

theorem answers_append (history : History σ) (requests rest : List Request) :
    history.answers (requests ++ rest) =
      history.answers requests ++ (requests.foldl serve history).answers rest := by
  induction requests generalizing history with
  | nil => rfl
  | cons request requests ih => simp only [List.cons_append, answers, ih, List.foldl_cons]

-- After any requests, and whatever has become of the lines since then, a send and a request to
-- another device can change places. A send can be moved past any number of such requests, and one
-- that is not queued can be left out: no other answer changes, now or later, and neither does what
-- becomes of the registry and the lines.
theorem sends_land_anywhere (capacity : Nat) (config : Config) (lines world : σ)
    (requests : List Request) (oid : UInt8) (bytes : List UInt8) (now : Instant) :
    let history : History σ := { after capacity config lines requests with lines := world }
    let send : Request := .send oid bytes now
    (∀ request, request.Spares oid →
      (history.serve request).answer send = history.answer send ∧
      (history.serve send).answer request = history.answer request ∧
      ((history.serve send).serve request).registry =
        ((history.serve request).serve send).registry ∧
      ((history.serve send).serve request).lines = ((history.serve request).serve send).lines) ∧
    (∀ stretch rest, (∀ request ∈ stretch, request.Spares oid) →
      let early := (send :: stretch).foldl serve history
      let late := (stretch ++ [send]).foldl serve history
      (∃ later, history.answers (send :: stretch ++ rest) =
          history.answer send :: history.answers stretch ++ later ∧
        history.answers (stretch ++ send :: rest) =
          history.answers stretch ++ history.answer send :: later) ∧
      (rest.foldl serve early).registry = (rest.foldl serve late).registry ∧
      (rest.foldl serve early).lines = (rest.foldl serve late).lines) ∧
    (history.answer send ≠ .sent (.ok .queued) → ∀ rest,
      history.answers (send :: rest) = history.answer send :: history.answers rest ∧
      (send :: rest).foldl serve history = rest.foldl serve history) := by
  intro history send
  refine ⟨fun request h => ?_, fun stretch rest h => ?_, fun hrefused rest => ?_⟩
  · obtain ⟨hsend, hanswer, hmeets⟩ := history.serve_comm h bytes now
    exact ⟨hsend, hanswer, hmeets.registry, hmeets.lines⟩
  · obtain ⟨hsend, hanswers, hmeets⟩ := send_past h history bytes now
    have hends := hmeets.foldl rest
    intro early late
    have hlate : late = (stretch.foldl serve history).serve send := by
      simp only [late, List.foldl_append, List.foldl_cons, List.foldl_nil]
    refine ⟨⟨late.answers rest, ?_, ?_⟩, hlate ▸ hends.registry, hlate ▸ hends.lines⟩
    · rw [answers_append, answers, hanswers, hlate]
      exact congrArg (history.answer send :: history.answers stretch ++ ·) (hmeets.answers rest)
    · rw [answers_append, answers, hsend, hlate]
  · have hsound : history.Sound := by
      have h := sound_after capacity config lines requests
      exact ⟨h.registry, h.latest⟩
    have hrefused : (history.answer send).Refused := fun hqueued => hrefused (congrArg _ hqueued)
    have hsame : history.serve send = history := hsound.serve_of_refused hrefused
    exact ⟨by rw [answers, hsame], by rw [List.foldl_cons, hsame]⟩

-- Two displays, the first of which is in the middle of a session.
def halfway : List Request :=
  [.configure (Bench.ofSize 2).knows 1 0 1, .configure (Bench.ofSize 2).knows 2 2 3,
    .send 1 [64, 192, 1, 2, 3, 4, 5, 6, 143] ⟨0⟩, .tick 1]

-- Somebody begins to hold the clock of the first display, so that its session fails. A payload for
-- the second one may come before that or after it, and a bad one need not come at all.
theorem sends_land_anywhere_halfway :
    let world := (Bench.ofSize 2).modifyBus 0 fun bus => { bus with holdClock := true }
    let history : History Bench := { after 2 {} (Bench.ofSize 2) halfway with lines := world }
    let send : Request := .send 2 [64, 192, 6, 5, 4, 3, 2, 1, 128] ⟨0⟩
    let stretch : List Request := List.replicate 5 (.tick 1)
    (∀ request ∈ stretch, request.Spares 2) ∧
      ((send :: stretch).foldl serve history).registry =
        ((stretch ++ [send]).foldl serve history).registry ∧
      history.answer (.send 2 [64] ⟨0⟩) ≠ .sent (.ok .queued) ∧
      history.serve (.send 2 [64] ⟨0⟩) = history := by
  intro world history send stretch
  have hspares : ∀ request ∈ stretch, request.Spares 2 := by
    intro request hmem
    obtain ⟨-, rfl⟩ := List.mem_replicate.mp hmem
    show (1 : UInt8) ≠ 2
    decide
  have hrefused : history.answer (.send 2 [64] ⟨0⟩) ≠ .sent (.ok .queued) :=
    fun hqueued => absurd (Answer.sent.inj hqueued) (by decide)
  obtain ⟨-, hmoved, -⟩ :=
    sends_land_anywhere 2 {} (Bench.ofSize 2) world halfway 2 [64, 192, 6, 5, 4, 3, 2, 1, 128] ⟨0⟩
  obtain ⟨-, -, hdropped⟩ := sends_land_anywhere 2 {} (Bench.ofSize 2) world halfway 2 [64] ⟨0⟩
  obtain ⟨-, hregistry, -⟩ := hmoved stretch [] hspares
  obtain ⟨-, hsame⟩ := hdropped hrefused []
  simp only [List.foldl_nil] at hregistry
  simp only [List.foldl_cons, List.foldl_nil] at hsame
  exact ⟨hspares, hregistry, hrefused, hsame⟩

end History

end SevenSegment.Driver

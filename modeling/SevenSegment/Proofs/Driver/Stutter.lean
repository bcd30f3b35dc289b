import SevenSegment.Proofs.Driver.Blocks
import SevenSegment.Proofs.Driver.Punctual
import SevenSegment.Proofs.Session.Playback

namespace SevenSegment

open Line (Call Gpio Link Recorded)
open Panel (Payload)
open Session (Shadows bare sending_progress shadows_load)
open Time (Instant Span Timer)

variable {σ : Type}

theorem Session.Shadows.ne_trapped {payload : Payload} {resetPulses : UInt8} {start : Link}
    {calls : List Call} {count : Nat} {session : Session} {link : Link} {trap : Trap} :
    ¬Shadows payload resetPulses start calls count session link (.trapped trap) := by
  rintro ⟨stages, notes, -, hbare⟩
  have htrapped : (bare payload resetPulses start (calls ++ []) count).progress = .trapped trap := by
    rw [hbare]
  rcases sending_progress payload resetPulses start (⟨⟨calls ++ []⟩, []⟩ : Recorded Line.Playback)
    count with hactive | ⟨outcome, hend⟩
  · exact absurd (htrapped.symm.trans hactive) (by simp)
  · exact absurd (htrapped.symm.trans hend) (by simp)

namespace Driver

-- What can happen to a display on its own, or to the lock that it shares.
inductive Happening (σ : Type) where
  -- Its timer fires, with the lines as they are then.
  | callback (lines : σ)
  | submit (bytes : List UInt8) (now : Instant)
  -- Somebody else asks for the lock, maybe under the same number.
  | acquire (oid : UInt8)
  | release

-- A display from the moment on that a payload was queued for it, and the lock.
structure Stint where
  device : Device
  lock : Lock
  calls : List Call := []
  steps : Nat := 0
  waits : Nat := 0
  answer? : Option Action := none

namespace Stint

variable [Gpio σ]

def see (config : Config) (stint : Stint) : Happening σ → Stint
  | .callback lines =>
    let tick := stint.device.tick stint.lock config (⟨lines, []⟩ : Recorded σ)
    let admitted := stint.lock.Admits stint.device.oid
    { device := tick.device
      lock := tick.lock
      calls := stint.calls ++ tick.lines.calls
      steps := if admitted then stint.steps + 1 else stint.steps
      waits := if admitted then stint.waits else stint.waits + 1
      answer? := some tick.action }
  | .submit bytes now =>
    match stint.device.accept bytes now config with
    | .ok (_, device) => { stint with device }
    | .error _ => stint
  | .acquire oid => { stint with lock := (stint.lock.acquire? oid).getD stint.lock }
  | .release => { stint with lock := .free }

-- The stint is over with its session. What comes after that is no part of it.
def through (config : Config) : List (Happening σ) → Stint → Stint
  | [], stint => stint
  | happening :: rest, stint =>
    if stint.device.isBusy then through config rest (stint.see config happening) else stint

end Stint

theorem Device.isBusy_of_timer {device : Device} {wake : Instant} (h : device.timer = .arm wake) :
    device.isBusy = true := by
  rw [isBusy, h]
  rfl

-- A busy display takes no second payload, and says so without a change.
theorem Device.accept_of_busy {device after : Device} {bytes : List UInt8} {now : Instant}
    {config : Config} {receipt : Receipt} (hbusy : device.isBusy = true)
    (h : device.accept bytes now config = .ok (receipt, after)) : after = device := by
  simp only [accept, hbusy, if_true] at h
  split at h
  · cases h
  · cases h
    rfl

namespace Stint

-- The wake time counts the callbacks, whenever they took place.
def OnTime (now : Instant) (config : Config) (backoff : Span) (stint : Stint) (wake : Instant) :
    Prop :=
  wake.ticks.toNat = (now.ticks.toNat + (stint.steps + 1) * config.stepInterval.toNat +
    stint.waits * backoff.toNat) % 2 ^ 32

theorem toNat_add (wake : Instant) (span : Span) :
    (wake + span).ticks.toNat = (wake.ticks.toNat + span.toNat) % 2 ^ 32 :=
  UInt32.toNat_add _ _

section Callback

variable [Gpio σ] {config : Config} {stint : Stint}

theorem see_of_not_admits {backoff : Span} {wake : Instant}
    (hbackoff : config.backoff? = some backoff) (htimer : stint.device.timer = .arm wake)
    (hheld : ¬stint.lock.Admits stint.device.oid) (lines : σ) :
    stint.see config (.callback lines) =
      { stint with
        device := { stint.device with timer := .arm (wake + backoff) }
        waits := stint.waits + 1
        answer? := some (.reschedule (wake + backoff)) } := by
  have hbusy := Device.isBusy_of_timer htimer
  simp only [see, Device.tick_of_not_admits hbusy hheld, Device.backOff, hbackoff, hheld, if_false,
    List.append_nil, Device.delay, Device.action, Timer.delay, htimer, Timer.arm, Option.map_some]

variable (config stint) in
def next (lines : σ) : Session.Step (Recorded σ) :=
  stint.device.session.step config.resetPulses stint.device.link ⟨lines, []⟩

theorem see_of_active {wake : Instant} {lines : σ} (htimer : stint.device.timer = .arm wake)
    (hadmits : stint.lock.Admits stint.device.oid)
    (hactive : (next config stint lines).progress = .active) :
    stint.see config (.callback lines) =
      { device := { stint.device with
          session := (next config stint lines).session
          link := (next config stint lines).link
          timer := .arm (wake + config.stepInterval) }
        lock := ⟨some stint.device.oid⟩
        calls := stint.calls ++ (next config stint lines).lines.calls
        steps := stint.steps + 1
        waits := stint.waits
        answer? := some (.reschedule (wake + config.stepInterval)) } := by
  have hbusy := Device.isBusy_of_timer htimer
  simp only [next] at hactive ⊢
  simp only [see, Device.tick_of_admits hbusy hadmits, Device.stepSession, hactive, hadmits, if_true,
    Device.delay, Device.action, Timer.delay, htimer, Timer.arm, Option.map_some]

theorem see_of_complete {lines : σ} {outcome : Session.Outcome}
    (hbusy : stint.device.isBusy = true) (hadmits : stint.lock.Admits stint.device.oid)
    (hcomplete : (next config stint lines).progress = .complete outcome) :
    stint.see config (.callback lines) =
      { device := { stint.device with
          session := .empty
          link := (next config stint lines).link
          timer := .idle
          lastOutcome := some outcome }
        lock := .free
        calls := stint.calls ++ (next config stint lines).lines.calls
        steps := stint.steps + 1
        waits := stint.waits
        answer? := some .done } := by
  simp only [next] at hcomplete ⊢
  simp only [see, Device.tick_of_admits hbusy hadmits, Device.stepSession, hcomplete, hadmits,
    if_true, Device.finish]

end Callback

section Run

variable (device : Device) (payload : Payload) (now : Instant) (config : Config) (backoff : Span)

-- A stint whose session goes on. What is not the session's own is as it was.
structure Underway (stint : Stint) : Prop where
  shadows : Shadows payload config.resetPulses device.link stint.calls stint.steps
    stint.device.session stint.device.link .active
  device : ∃ wake, OnTime now config backoff stint wake ∧
    stint.device = { device with
      session := stint.device.session, link := stint.device.link, timer := .arm wake } ∧
    ∀ answer ∈ stint.answer?, answer = .reschedule wake

structure Over (stint : Stint) : Prop where
  outcome : ∃ session outcome,
    Shadows payload config.resetPulses device.link stint.calls stint.steps session
      stint.device.link (.complete outcome) ∧
    stint.device = { device with
      session := .empty
      link := stint.device.link
      timer := .idle
      lastOutcome := some outcome }
  lock : stint.lock = .free
  answer : stint.answer? = some .done

variable {device payload now config backoff} {stint : Stint}

theorem Underway.isBusy (h : Underway device payload now config backoff stint) :
    stint.device.isBusy = true := by
  obtain ⟨wake, -, hdevice, -⟩ := h.device
  rw [hdevice]
  rfl

theorem Over.isBusy (h : Over device payload config stint) : stint.device.isBusy = false := by
  obtain ⟨_, _, -, hdevice⟩ := h.outcome
  rw [hdevice]
  rfl

variable [Gpio σ]

theorem Underway.waits (h : Underway device payload now config backoff stint)
    (hbackoff : config.backoff? = some backoff) (hheld : ¬stint.lock.Admits stint.device.oid)
    (lines : σ) : Underway device payload now config backoff (stint.see config (.callback lines)) := by
  obtain ⟨wake, hwake, hdevice, -⟩ := h.device
  rw [see_of_not_admits hbackoff (by rw [hdevice]) hheld]
  refine ⟨h.shadows, wake + backoff, ?_, by rw [hdevice], by simp⟩
  rw [OnTime] at hwake ⊢
  rw [toNat_add, hwake, Nat.mod_add_mod, Nat.add_mul _ 1 backoff.toNat, Nat.one_mul, Nat.add_assoc]

theorem Underway.steps (h : Underway device payload now config backoff stint)
    (hadmits : stint.lock.Admits stint.device.oid) (lines : σ) :
    Underway device payload now config backoff (stint.see config (.callback lines)) ∨
      Over device payload config (stint.see config (.callback lines)) := by
  obtain ⟨wake, hwake, hdevice, -⟩ := h.device
  have hshadows : Shadows payload config.resetPulses device.link
      (stint.calls ++ (next config stint lines).lines.calls) (stint.steps + 1)
      (next config stint lines).session (next config stint lines).link
      (next config stint lines).progress := h.shadows.step lines
  cases hprogress : (next config stint lines).progress with
  | active =>
      left
      rw [hprogress] at hshadows
      rw [see_of_active (by rw [hdevice]) hadmits hprogress]
      refine ⟨hshadows, wake + config.stepInterval, ?_, by rw [hdevice], by simp⟩
      rw [OnTime] at hwake ⊢
      rw [toNat_add, hwake, Nat.mod_add_mod, Nat.add_mul (stint.steps + 1) 1, Nat.one_mul,
        Nat.add_right_comm, Nat.add_assoc now.ticks.toNat]
  | complete outcome =>
      right
      rw [hprogress] at hshadows
      rw [see_of_complete h.isBusy hadmits hprogress]
      exact ⟨⟨_, outcome, hshadows, by rw [hdevice]⟩, rfl, rfl⟩
  | trapped trap => exact absurd (hprogress ▸ hshadows) Session.Shadows.ne_trapped

theorem Underway.see (h : Underway device payload now config backoff stint)
    (hbackoff : config.backoff? = some backoff) (happening : Happening σ) :
    Underway device payload now config backoff (stint.see config happening) ∨
      Over device payload config (stint.see config happening) := by
  cases happening with
  | callback lines =>
      by_cases hadmits : stint.lock.Admits stint.device.oid
      · exact h.steps hadmits lines
      · exact .inl (h.waits hbackoff hadmits lines)
  | submit bytes later =>
      left
      simp only [Stint.see]
      split
      · rename_i after haccept
        rw [Device.accept_of_busy h.isBusy haccept]
        exact h
      · exact h
  | acquire oid => exact .inl ⟨h.shadows, h.device⟩
  | release => exact .inl ⟨h.shadows, h.device⟩

theorem through_of_over (h : Over device payload config stint) (happenings : List (Happening σ)) :
    stint.through config happenings = stint := by
  cases happenings with
  | nil => rfl
  | cons => rw [through, if_neg (by simp [h.isBusy])]

theorem Underway.through (h : Underway device payload now config backoff stint)
    (hbackoff : config.backoff? = some backoff) (happenings : List (Happening σ)) :
    Underway device payload now config backoff (stint.through config happenings) ∨
      Over device payload config (stint.through config happenings) := by
  induction happenings generalizing stint with
  | nil => exact .inl h
  | cons happening rest ih =>
      rw [Stint.through, if_pos h.isBusy]
      rcases h.see hbackoff happening with hnext | hover
      · exact ih hnext
      · exact .inr ((through_of_over hover rest).symm ▸ hover)

-- A stint makes the very run that its session makes alone, over the same answers: as many steps as
-- callbacks got the bus, and none for the others. At its end everything is given back.
theorem through_stutters {start : Device} {bytes : List UInt8}
    (hbackoff : config.backoff? = some backoff)
    (hqueued : device.accept bytes now config = .ok (.queued, start)) (lock : Lock)
    (happenings : List (Happening σ)) :
    ∃ payload, Payload.ofList? bytes = some payload ∧
      let stint := (⟨start, lock, [], 0, 0, none⟩ : Stint).through config happenings
      let alone := bare payload config.resetPulses device.link stint.calls stint.steps
      alone.stages.size = stint.steps ∧ alone.lines = ⟨⟨[]⟩, stint.calls⟩ ∧
        match alone.progress with
        | .active => ∃ wake : Instant,
            wake.ticks.toNat = (now.ticks.toNat + (stint.steps + 1) * config.stepInterval.toNat +
              stint.waits * backoff.toNat) % 2 ^ 32 ∧
            stint.device = { device with
              session := alone.session, link := alone.link, timer := .arm wake } ∧
            (∀ answer ∈ stint.answer?, answer = .reschedule wake) ∧
            ∀ lines : σ, ¬stint.lock.Admits device.oid →
              stint.see config (.callback lines) = { stint with
                device := { stint.device with timer := .arm (wake + backoff) }
                waits := stint.waits + 1
                answer? := some (.reschedule (wake + backoff)) }
        | .complete outcome =>
            stint.device = { device with
              session := .empty
              link := alone.link
              timer := .idle
              lastOutcome := some outcome } ∧
            stint.lock = .free ∧ stint.answer? = some .done
        | .trapped _ => False := by
  obtain ⟨-, payload, hpayload, rfl⟩ := Device.accept_eq_queued_iff.mp hqueued
  refine ⟨payload, hpayload, ?_⟩
  have hstart : Underway device payload now config backoff
      ⟨device.queued payload (now + config.stepInterval), lock, [], 0, 0, none⟩ := by
    refine ⟨shadows_load payload config.resetPulses device.link, now + config.stepInterval, ?_, rfl,
      by simp⟩
    rw [OnTime, toNat_add]
    simp
  intro stint alone
  rcases hstart.through hbackoff happenings with hsteps | hover
  · obtain ⟨stages, notes, hsize, halone⟩ := hsteps.shadows
    obtain ⟨wake, hwake, hdevice, hanswer⟩ := hsteps.device
    have halone : alone = _ := List.append_nil stint.calls ▸ halone []
    rw [halone]
    refine ⟨hsize, rfl, wake, hwake, hdevice, hanswer, fun lines hheld => ?_⟩
    exact see_of_not_admits hbackoff (by rw [hdevice]) (by rw [hdevice]; exact hheld) lines
  · obtain ⟨session, outcome, ⟨stages, notes, hsize, halone⟩, hdevice⟩ := hover.outcome
    have halone : alone = _ := List.append_nil stint.calls ▸ halone []
    rw [halone]
    exact ⟨hsize, rfl, hdevice, hover.lock, hover.answer⟩

end Run

-- Another display has the bus first. Later on one with the same number takes it, somebody frees it,
-- and a payload that comes too early is dropped.
def shared : List (Happening Line.Playback) :=
  [.acquire 9, .callback ⟨[]⟩, .release, .callback ⟨[]⟩, .submit [1, 2, 3] ⟨0⟩, .acquire 7,
    .release, .submit [64, 192, 0, 0, 0, 0, 0, 0, 143] ⟨5⟩, .callback ⟨[]⟩]

-- The clock wraps while the display waits.
theorem through_stutters_wrapping :
    ∃ start wake, (Device.new 7 0 1).accept [64, 192, 6, 5, 4, 3, 2, 1, 128] ⟨0xFFFFFF00⟩ {} =
        .ok (.queued, start) ∧
      ((⟨start, .free, [], 0, 0, none⟩ : Stint).through {} shared).device.timer = .arm wake ∧
      wake.ticks.toNat = (0xFFFFFF00 + (2 + 1) * 100 + 1 * 50000) % 2 ^ 32 := by
  let start := (Device.new 7 0 1).queued #v[64, 192, 6, 5, 4, 3, 2, 1, 128] ⟨0xFFFFFF64⟩
  have hqueued : (Device.new 7 0 1).accept [64, 192, 6, 5, 4, 3, 2, 1, 128] ⟨0xFFFFFF00⟩ {} =
      .ok (.queued, start) := by
    exact Device.accept_eq_queued_iff.mpr ⟨rfl, _, rfl, rfl⟩
  have hlock : ((⟨start, .free, [], 0, 0, none⟩ : Stint).through {} shared).lock ≠ .free := by decide
  have hcounts : ((⟨start, .free, [], 0, 0, none⟩ : Stint).through {} shared).steps = 2 ∧
      ((⟨start, .free, [], 0, 0, none⟩ : Stint).through {} shared).waits = 1 := by decide
  obtain ⟨payload, -, hrest⟩ := through_stutters (by rfl) hqueued .free shared
  refine ⟨start, ?_⟩
  generalize (⟨start, .free, [], 0, 0, none⟩ : Stint).through {} shared = stint
    at hlock hcounts hrest ⊢
  obtain ⟨-, -, hrest⟩ := hrest
  split at hrest
  · obtain ⟨wake, hwake, hdevice, -⟩ := hrest
    rw [hcounts.1, hcounts.2] at hwake
    exact ⟨wake, hqueued, by rw [hdevice], hwake⟩
  · exact absurd hrest.2.1 hlock
  · exact hrest.elim

end Stint

end Driver

end SevenSegment

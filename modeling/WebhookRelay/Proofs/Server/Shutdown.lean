-- SUMMARY: What is left when the server has returned: nothing, unless it could not connect to the broker.
import WebhookRelay.Proofs.Run
import WebhookRelay.Server.Run

/-!
# Shutdown

The refresh task is started before the server connects to the broker, and waited for at the
very end. On the way from the one to the other the server tells the task to stop, but it does
so only behind the set-up of consuming: when that fails it returns with the task still at work.

`ServerRun.Step` lists what the events do, `Attended` what each phase knows about the task.
-/

namespace WebhookRelay

theorem toOption_eq_some_iff {ε α : Type} {x : Except ε α} {a : α} :
    x.toOption = some a ↔ x = .ok a := by
  cases x <;> simp [Except.toOption]

/-- A server that was launched, with the relay that has loaded the registry. -/
theorem Server.of_launch {server : Server} {now : Time} {clock : Nat} {first : ServerRun}
    (h : server.launch now clock = .ok first) :
    ∃ relay, first = ⟨relay, server.outlet,
      if Schedule.fits clock server.settings.webhooks.refreshPeriod then .running else .broken,
      false, .connecting (Broker.setup server.settings.broker), [], []⟩ := by
  simp only [launch] at h
  split at h <;> cases h
  exact ⟨_, rfl⟩

namespace ServerRun

/-! ## Steps -/

/-- What an event does when it happens. -/
inductive Step (r : ServerRun) : ServerEvent → ServerRun → Prop where
  | granted (q : BrokerRequest) (remaining : List BrokerRequest)
      (phase : r.phase = .connecting (q :: remaining)) :
      Step r .granted
        { r with
          sent := r.sent ++ [q]
          phase := if remaining.isEmpty then .serving .start else .connecting remaining }
  /-- Connecting fails, with a request that is refused or because the broker is not there. -/
  | abandoned (e : ServerEvent) (remaining sent : List BrokerRequest) (text : String)
      (phase : r.phase = .connecting remaining) : Step r e (r.abandon sent text)
  | consumer (e : ConsumerEvent) (c next : Consumer) (phase : r.phase = .serving c)
      (step : c.step? e = some next) :
      Step r (.consumer e) { r.handle c e with phase := .serving next }
  | signalled (c : Consumer) (phase : r.phase = .serving c) :
      Step r .signalled { r with cancelled := true }
  | consumerEnded (c : Consumer) (consumed : Except InfraError Unit)
      (phase : r.phase = .serving c) (result : c.result? = some consumed) :
      Step r .consumerEnded
        { r with cancelled := true, sent := r.sent ++ c.sent, phase := .closing consumed }
  | ticked (checked loaded : Time) (running : r.refreshTask = .running) :
      Step r (.ticked checked loaded) { r with relay := (r.relay.refresh checked loaded).1 }
  | refreshTaskEnded (running : r.refreshTask = .running) (cancelled : r.cancelled = true) :
      Step r .refreshTaskEnded { r with refreshTask := .ended }
  | finished (consumed : Except InfraError Unit) (phase : r.phase = .closing consumed)
      (ended : r.refreshTask ≠ .running) :
      Step r .finished { r with phase := .returned (resultOf r.refreshTask consumed) }

variable {r t : ServerRun} {e : ServerEvent}

@[simp] theorem refreshTask_handle (r : ServerRun) (c : Consumer) (e : ConsumerEvent) :
    (r.handle c e).refreshTask = r.refreshTask := by
  unfold handle
  split
  · split <;> rfl
  · rfl

/-- Every event that happens does what `Step` says. -/
theorem step_of_step? (h : r.step? e = some t) : r.Step e t := by
  cases e with
  | granted =>
    simp only [step?] at h
    split at h <;> cases h
    exact .granted _ _ ‹_›
  | refused =>
    simp only [step?] at h
    split at h <;> cases h
    exact .abandoned _ _ _ _ ‹_›
  | unreachable =>
    simp only [step?] at h
    split at h <;> cases h
    exact .abandoned _ _ _ _ ‹_›
  | consumer e =>
    simp only [step?] at h
    split at h
    · obtain ⟨-, h⟩ := Option.ite_none_right_eq_some.1 h
      obtain ⟨next, hnext, rfl⟩ := Option.map_eq_some_iff.1 h
      exact .consumer e _ next ‹_› hnext
    · cases h
  | signalled =>
    simp only [step?] at h
    split at h <;> cases h
    exact .signalled _ ‹_›
  | consumerEnded =>
    simp only [step?] at h
    split at h
    · obtain ⟨consumed, hconsumed, rfl⟩ := Option.map_eq_some_iff.1 h
      exact .consumerEnded _ consumed ‹_› hconsumed
    · cases h
  | ticked checked loaded =>
    obtain ⟨hrunning, h⟩ := Option.ite_none_right_eq_some.1 h
    cases h
    exact .ticked checked loaded hrunning
  | refreshTaskEnded =>
    obtain ⟨⟨hrunning, hcancelled⟩, h⟩ := Option.ite_none_right_eq_some.1 h
    cases h
    exact .refreshTaskEnded hrunning hcancelled
  | finished =>
    simp only [step?] at h
    split at h
    · obtain ⟨hover, h⟩ := Option.ite_none_left_eq_some.1 h
      cases h
      exact .finished _ ‹_› hover
    · cases h

/-! ## The task in each phase -/

/-- Whether a result is that of a server that could not connect to the broker. -/
def IsBrokerError (result : Except ServerError Unit) : Prop :=
  ∃ error, result = .error (.broker error)

theorem not_isBrokerError_resultOf (task : RefreshTask) (consumed : Except InfraError Unit) :
    ¬ IsBrokerError (resultOf task consumed) := by
  rintro ⟨error, h⟩
  unfold resultOf at h
  split at h
  · cases h
  · cases consumed <;> cases h

/-- Whether the task is as it was launched, and was not told to stop. -/
def Untouched (launched : RefreshTask) (r : ServerRun) : Prop :=
  r.cancelled = false ∧ r.refreshTask = launched

/-- Whether the task was told to stop and has come to its end. -/
def Stopped (r : ServerRun) : Prop :=
  r.cancelled = true ∧ r.refreshTask ≠ .running

/-- What a server knows in each phase about the task that it launched. -/
structure Attended (launched : RefreshTask) (r : ServerRun) : Prop where
  connecting : ∀ remaining, r.phase = .connecting remaining → r.Untouched launched
  closing : ∀ consumed, r.phase = .closing consumed → r.cancelled = true
  abandoned : ∀ result, r.phase = .returned result → IsBrokerError result → r.Untouched launched
  returned : ∀ result, r.phase = .returned result → ¬ IsBrokerError result → r.Stopped

variable {launched : RefreshTask}

theorem attended_of_serving {c : Consumer} (h : r.phase = .serving c) : r.Attended launched where
  connecting _ hphase := by simp [h] at hphase
  closing _ hphase := by simp [h] at hphase
  abandoned _ hphase := by simp [h] at hphase
  returned _ hphase := by simp [h] at hphase

/-- A task that ends was told to stop, so that connecting is behind the server. -/
theorem Attended.refreshTaskEnded (h : r.Attended launched) (hrunning : r.refreshTask = .running)
    (hcancelled : r.cancelled = true) : Attended launched { r with refreshTask := .ended } := by
  have htouched : ¬ r.Untouched launched := by
    rintro ⟨hfalse, -⟩
    simp [hcancelled] at hfalse
  refine ⟨?connecting, fun _ _ => hcancelled, ?abandoned, ?returned⟩
  case connecting => exact fun remaining hphase => absurd (h.connecting remaining hphase) htouched
  case abandoned =>
    exact fun result hphase hbroker => absurd (h.abandoned result hphase hbroker) htouched
  case returned =>
    exact fun result hphase hbroker => absurd hrunning (h.returned result hphase hbroker).2

theorem Attended.step (h : r.Attended launched) (hstep : r.Step e t) : t.Attended launched := by
  cases hstep with
  | granted q remaining hphase =>
    cases remaining with
    | nil => exact attended_of_serving rfl
    | cons q' remaining =>
      exact ⟨fun _ _ => h.connecting _ hphase, nofun, nofun, nofun⟩
  | abandoned _ remaining sent text hphase =>
    refine ⟨nofun, nofun, fun _ _ _ => h.connecting _ hphase, ?_⟩
    rintro _ ⟨⟩ hbroker
    exact absurd ⟨_, rfl⟩ hbroker
  | consumer _ c next => exact attended_of_serving (c := next) rfl
  | signalled c hphase => exact attended_of_serving hphase
  | consumerEnded c consumed => exact ⟨nofun, fun _ _ => rfl, nofun, nofun⟩
  | ticked => exact ⟨h.connecting, h.closing, h.abandoned, h.returned⟩
  | refreshTaskEnded hrunning hcancelled => exact h.refreshTaskEnded hrunning hcancelled
  | finished consumed hphase hover =>
    refine ⟨nofun, nofun, ?_, fun _ _ _ => ⟨h.closing consumed hphase, hover⟩⟩
    rintro _ ⟨⟩ hbroker
    exact absurd hbroker (not_isBrokerError_resultOf _ _)

theorem attended_launch {server : Server} {now : Time} {clock : Nat} {first : ServerRun}
    (h : server.launch now clock = .ok first) : first.Attended first.refreshTask := by
  obtain ⟨relay, rfl⟩ := Server.of_launch h
  exact ⟨fun _ _ => ⟨rfl, rfl⟩, nofun, nofun, nofun⟩

theorem attended_run {server : Server} {now : Time} {clock : Nat} {first : ServerRun}
    {events : List ServerEvent} (hlaunch : server.launch now clock = .ok first)
    (hrun : first.run? events = some r) : r.Attended first.refreshTask :=
  Run.induction_on (motive := fun _ r => r.Attended first.refreshTask) (attended_launch hlaunch)
    (fun _ _ _ _ _ hm hstep => hm.step (step_of_step? hstep)) hrun

/-! ## After the return -/

theorem phase_of_result? {result : Except ServerError Unit} (h : r.result? = some result) :
    r.phase = .returned result := by
  unfold result? at h
  split at h <;> cases h
  assumption

/-- Once the server has returned only its task can still do something. -/
theorem cases_of_returned {result : Except ServerError Unit} (hphase : r.phase = .returned result)
    (hstep : r.Step e t) :
    r.refreshTask = .running ∧
      ((∃ checked loaded, e = .ticked checked loaded ∧
        t = { r with relay := (r.relay.refresh checked loaded).1 }) ∨ r.cancelled = true) := by
  cases hstep with
  | granted _ _ hother | abandoned _ _ _ _ hother | consumer _ _ _ hother | signalled _ hother
  | consumerEnded _ _ hother | finished _ hother => cases hphase.symm.trans hother
  | ticked checked loaded hrunning => exact ⟨hrunning, .inl ⟨checked, loaded, rfl, rfl⟩⟩
  | refreshTaskEnded hrunning hcancelled => exact ⟨hrunning, .inr hcancelled⟩

theorem step?_eq_none {result : Except ServerError Unit} (hphase : r.phase = .returned result)
    (hstopped : r.Stopped) (e : ServerEvent) : r.step? e = none := by
  cases hstep : r.step? e with
  | none => rfl
  | some t => exact absurd (cases_of_returned hphase (step_of_step? hstep)).1 hstopped.2

/-- A task that is left at work stays at work. -/
theorem untouched_run {result : Except ServerError Unit} (hphase : r.phase = .returned result)
    (huntouched : r.Untouched launched) {more : List ServerEvent} (hrun : r.run? more = some t) :
    t.phase = .returned result ∧ t.Untouched launched := by
  refine Run.induction_on
    (motive := fun _ t => t.phase = .returned result ∧ t.Untouched launched)
    ⟨hphase, huntouched⟩ ?_ hrun
  rintro _ m e t _ ⟨hphase, huntouched⟩ hstep
  have hstep := step_of_step? hstep
  rcases (cases_of_returned hphase hstep).2 with ⟨checked, loaded, rfl, rfl⟩ | hcancelled
  · exact ⟨hphase, huntouched⟩
  · exact absurd hcancelled (by simp [huntouched.1])

/-- What is left when the server has returned, in every run from the start of the refresh task.
The task was told to stop and has come to its end exactly when the server did not fail to connect
to the broker, and then nothing happens any more. If it failed to connect, nobody ever tells a
task that is at work to stop, and it goes on refreshing the registry. -/
theorem stopped_iff {server : Server} {now : Time} {clock : Nat} {first r : ServerRun}
    {events : List ServerEvent} {result : Except ServerError Unit}
    (hlaunch : server.launch now clock = .ok first) (hrun : first.run? events = some r)
    (hresult : r.result? = some result) :
    (r.cancelled = true ∧ r.refreshTask ≠ .running ↔ ¬ IsBrokerError result) ∧
    (¬ IsBrokerError result → ∀ e, r.step? e = none) ∧
    (IsBrokerError result → first.refreshTask = .running →
      ∀ more t, r.run? more = some t → t.cancelled = false ∧ t.refreshTask = .running ∧
        ∀ checked loaded, t.step? (.ticked checked loaded)
          = some { t with relay := (t.relay.refresh checked loaded).1 }) := by
  have hattended := attended_run hlaunch hrun
  have hphase := phase_of_result? hresult
  refine ⟨⟨?never, hattended.returned result hphase⟩, ?quiet, ?left⟩
  case never =>
    intro hstopped hbroker
    have hcancelled := (hattended.abandoned result hphase hbroker).1
    simp [hstopped.1] at hcancelled
  case quiet =>
    exact fun hbroker => step?_eq_none hphase (hattended.returned result hphase hbroker)
  case left =>
    intro hbroker hrunning more t hmore
    have huntouched := hattended.abandoned result hphase hbroker
    rw [hrunning] at huntouched
    obtain ⟨-, hcancelled, htask⟩ := untouched_run hphase huntouched hmore
    exact ⟨hcancelled, htask, fun checked loaded => if_pos htask⟩

/-- A server whose database has one active webhook. -/
def serverWithOne : Server :=
  ⟨{}, (Database.empty.save (Subscription.new ⟨1⟩ "http://[::1]/")).2, Http.unreachable⟩

/-- What can be seen of the server when it is launched at time zero and events happen: whether it
returned well, the task, and the records of the webhooks. -/
def seenAfter (events : List ServerEvent) :
    Option (Option Bool × Bool × RefreshTask × List Stats) :=
  ((serverWithOne.launch 0 0).toOption.bind (·.run? events)).map fun r =>
    (r.result?.map (·.isOk), r.cancelled, r.refreshTask, r.relay.ledger.records)

/-- Consuming is set up and the registry refreshed, then the server is asked to stop. -/
def orderlyShutdown : List ServerEvent :=
  List.replicate 6 .granted ++ [.ticked 60000 60000, .signalled, .consumer (.left .cancelled),
    .consumer (.channelClosed true), .consumer (.connectionClosed true), .consumerEnded,
    .refreshTaskEnded, .finished]

/-- The orderly way leaves nothing that could still happen. -/
theorem stopped_of_orderly :
    ∃ first r, serverWithOne.launch 0 0 = .ok first ∧ first.run? orderlyShutdown = some r ∧
      r.result?.map (·.isOk) = some true ∧ r.cancelled = true ∧ r.refreshTask ≠ .running ∧
      ∀ e, r.step? e = none := by
  have hseen : seenAfter orderlyShutdown
      = some (some true, true, .ended, [.startingAt 60000]) := by decide +kernel
  obtain ⟨r, hr, hvalues⟩ := Option.map_eq_some_iff.1 hseen
  obtain ⟨first, hfirst, hrun⟩ := Option.bind_eq_some_iff.1 hr
  obtain ⟨hok, -⟩ := Prod.mk.inj hvalues
  have hlaunch := toOption_eq_some_iff.1 hfirst
  obtain ⟨result, hresult, hsuccess⟩ := Option.map_eq_some_iff.1 hok
  have hbroker : ¬ IsBrokerError result := by
    rintro ⟨error, rfl⟩
    cases hsuccess
  obtain ⟨hstopped, hquiet, -⟩ := stopped_iff hlaunch hrun hresult
  obtain ⟨hcancelled, hover⟩ := hstopped.2 hbroker
  exact ⟨first, r, hlaunch, hrun, hok, hcancelled, hover, hquiet hbroker⟩

/-- Without a broker the server returns an error, and a minute later the task checks the health
of the webhook all the same. -/
theorem refreshed_after_return :
    seenAfter [.unreachable] = some (some false, false, .running, [.startingAt 0]) ∧
    seenAfter [.unreachable, .ticked 60000 60000]
      = some (some false, false, .running, [.startingAt 60000]) := by
  decide +kernel

end ServerRun
end WebhookRelay

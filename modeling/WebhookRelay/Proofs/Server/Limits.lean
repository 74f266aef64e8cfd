-- SUMMARY: What the checks of the settings keep within the limits of the process, and what they let through.
import WebhookRelay.Proofs.Feed.Holding
import WebhookRelay.Proofs.Server.Shutdown

/-!
# Limits

Settings that were checked still have to meet the limits of three things that they are used for. A
span of time counts milliseconds in 63 bits, and the health window has to fit it. The feed is a
ring whose size is a power of two of at most 63 bits. The clock of the schedule counts seconds in
63 bits, and has to tell the time of the first tick.

The checks bound the window, and it always fits. They bound neither the capacity nor the interval
of the refreshes from above.

Memory is no part of this. A ring is allocated at once, so capacities far below 2^63 can fail for
want of memory; of those it is only said here that they can be counted.
-/

namespace WebhookRelay

/-! ## The health window -/

/-- The most seconds of a span of time, forwards or backwards. -/
def maxSpanSeconds : Nat := 9223372036854775

/-- A span of so many minutes, in milliseconds; `none` when it does not fit. -/
def spanOfMinutes? (minutes : Int) : Option Int :=
  if (minutes * 60).natAbs ≤ maxSpanSeconds then some (minutes * 60000) else none

/-- One week, in milliseconds. -/
def week : Nat := 7 * 24 * 60 * 60 * 1000

namespace WebhookSettings

/-- The health window as the monitor takes it: at most the longest one, its minutes read as a
signed number. -/
def healthSpan? (w : WebhookSettings) : Option Int :=
  spanOfMinutes? (min w.healthWindowMinutes.toNat maxHealthWindowMinutes).toUInt64.toInt64.toInt

/-- A number that fits 63 bits is itself when it is read as a signed one. -/
theorem toInt_toInt64_of_lt {n : Nat} (h : n < 2 ^ 63) : n.toUInt64.toInt64.toInt = n := by
  have hsmall : n.toUInt64.toNat = n := UInt64.toNat_ofNat_of_lt' (by
    show n < 2 ^ 64
    omega)
  have hsigned : n.toUInt64.toInt64.toInt = n.toUInt64.toNat := by
    refine BitVec.toInt_eq_toNat_of_lt ?_
    show 2 * n.toUInt64.toNat < 2 ^ 64
    omega
  rw [hsigned, hsmall]

/-- Whatever the setting is, its span fits. -/
theorem healthSpan?_eq (w : WebhookSettings) : w.healthSpan? = some w.healthPolicy.window := by
  have hle : min w.healthWindowMinutes.toNat maxHealthWindowMinutes ≤ 10080 := Nat.min_le_right ..
  rw [healthSpan?, toInt_toInt64_of_lt (by omega), spanOfMinutes?, if_pos]
  · simp [healthPolicy]
  · simp only [maxSpanSeconds]
    omega

/-- A window of more than a week counts as a week, and any other as what it is. -/
theorem window_healthPolicy (w : WebhookSettings) :
    w.healthPolicy.window = (min (w.healthWindowSeconds * 1000) week : Nat) := by
  simp only [healthPolicy, healthWindowSeconds, maxHealthWindowMinutes, week, UInt64.size,
    Nat.cast_inj]
  omega

/-- What the checks say about the interval and the window. -/
theorem bounds_of_validate {w : WebhookSettings} (h : w.validate = .ok ()) :
    1 ≤ w.refreshIntervalSeconds.toNat ∧ w.healthWindowMinutes.toNat ≤ maxHealthWindowMinutes := by
  unfold validate at h
  split at h
  · cases h
  rename_i hinterval
  split at h
  · cases h
  rename_i hwindow
  refine ⟨Nat.one_le_iff_ne_zero.2 fun hzero => hinterval ?_, Nat.not_lt.1 hwindow⟩
  exact UInt64.toNat_inj.1 hzero

end WebhookSettings

/-! ## The feed -/

/-- A capacity is within the limit exactly when it can be rounded up within it. -/
theorem nextPowerOfTwo_le_iff (n : Nat) : nextPowerOfTwo n ≤ 2 ^ 63 ↔ n ≤ 2 ^ 63 := by
  obtain ⟨⟨-, hle⟩, hleast⟩ := isLeast_nextPowerOfTwo n
  constructor
  · exact fun h => Nat.le_trans (Nat.le_trans (Nat.le_max_left ..) hle) h
  · exact fun h => hleast ⟨⟨63, rfl⟩, Nat.max_le.2 ⟨h, by decide⟩⟩

/-! ## The schedule -/

theorem Schedule.fits_iff (clock requested : Nat) :
    fits clock requested = true ↔ (clock + max requested minRefreshPeriod) / 1000 < 2 ^ 63 := by
  rw [fits, decide_eq_true_iff]
  show clock + max requested minRefreshPeriod ≤ 9223372036854775808 * 1000 - 1 ↔ _
  omega

namespace ServerRun

/-- A task that broke off stays so, and the server never returns without an error. -/
def Broken (r : ServerRun) : Prop :=
  r.refreshTask = .broken ∧ r.phase ≠ .returned (.ok ())

theorem Broken.step {r t : ServerRun} {e : ServerEvent} (h : r.Broken) (hstep : r.Step e t) :
    t.Broken := by
  obtain ⟨htask, hphase⟩ := h
  cases hstep with
  | granted _ remaining => exact ⟨htask, by cases remaining <;> nofun⟩
  | abandoned => exact ⟨htask, nofun⟩
  | consumer e c => exact ⟨(refreshTask_handle r c e).trans htask, nofun⟩
  | signalled => exact ⟨htask, hphase⟩
  | consumerEnded => exact ⟨htask, nofun⟩
  | ticked _ _ hrunning => simp [htask] at hrunning
  | refreshTaskEnded hrunning => simp [htask] at hrunning
  | finished => exact ⟨htask, by simp [resultOf, htask]⟩

theorem Broken.run {r t : ServerRun} {events : List ServerEvent} (h : r.Broken)
    (hrun : r.run? events = some t) : t.Broken :=
  Run.induction_on (motive := fun _ t => t.Broken) h
    (fun _ _ _ _ _ hm hstep => hm.step (step_of_step? hstep)) hrun

end ServerRun

/-! ## Checked settings -/

namespace Server

theorem mapError_ok_bind {ε α β : Type} (f : ε → ServerError) (x : α)
    (g : α → Except ServerError β) : (Except.ok x : Except ε α).mapError f >>= g = g x := rfl

/-- Building goes on to the feed when nothing before it fails. -/
theorem build_of_migrated {a : Arguments} {around : Surroundings} {s : Settings}
    {database migrated : Database} (hargs : a.complaint? around.files = none)
    (hload : loadSettings a around = .ok s) (hconnect : connect s.database around = .ok database)
    (hmigrate : migrate s.database database = (.ok (), migrated)) :
    build a around = if s.feed.capacity.toNat ≤ Feed.maxCapacity
      then .ok ⟨s, migrated, around.network⟩ else .error .feed := by
  simp only [build, hargs, hload, mapError_ok_bind, hconnect, hmigrate]
  rfl

end Server

/-- What settings that were checked can still break. The health window always fits a span of time,
and is not cut. Given the memory for it, the server is built with its feed exactly when the capacity
is below 2^63; the size of the ring is then the least power of two that is enough, and fits too. The
refresh task breaks off
exactly when the clock cannot tell the time one interval after the start, and then the server never
returns without an error; the period of a task that runs is the interval. -/
theorem Settings.checked_within_limits {s : Settings} (hchecked : s.validate = .ok ()) :
    (s.webhooks.healthSpan? = some (min (s.webhooks.healthWindowSeconds * 1000) week : Nat) ∧
      s.webhooks.healthWindowSeconds * 1000 ≤ week) ∧
    (∀ a around database migrated, a.complaint? around.files = none →
      Server.loadSettings a around = .ok s → Server.connect s.database around = .ok database →
      Server.migrate s.database database = (.ok (), migrated) →
      (s.feed.capacity.toNat < 2 ^ 63 → Server.build a around = .ok ⟨s, migrated, around.network⟩) ∧
      (2 ^ 63 ≤ s.feed.capacity.toNat → Server.build a around = .error .feed)) ∧
    (s.feed.capacity.toNat < 2 ^ 63 →
      IsLeast {c | c.isPowerOfTwo ∧ max s.feed.capacity.toNat 1 ≤ c}
        (nextPowerOfTwo s.feed.capacity.toNat) ∧
      nextPowerOfTwo s.feed.capacity.toNat ≤ 2 ^ 63) ∧
    ∀ database network now clock first,
      Server.launch ⟨s, database, network⟩ now clock = .ok first →
      (Schedule.startingAt clock s.webhooks.refreshPeriod).period
        = s.webhooks.refreshIntervalSeconds.toNat * 1000 ∧
      (first.refreshTask = .broken ↔
        2 ^ 63 ≤ clock / 1000 + s.webhooks.refreshIntervalSeconds.toNat) ∧
      (first.refreshTask = .broken → ∀ events r, first.run? events = some r →
        r.refreshTask = .broken ∧ r.phase ≠ .returned (.ok ())) := by
  obtain ⟨hinterval, hwindow⟩ := WebhookSettings.bounds_of_validate hchecked
  refine ⟨?window, ?feed, ?ring, ?task⟩
  case window =>
    rw [s.webhooks.healthSpan?_eq, s.webhooks.window_healthPolicy]
    refine ⟨rfl, ?_⟩
    simp only [WebhookSettings.healthWindowSeconds, week, maxHealthWindowMinutes] at hwindow ⊢
    omega
  case feed =>
    intro a around database migrated hargs hload hconnect hmigrate
    rw [Server.build_of_migrated hargs hload hconnect hmigrate]
    simp only [Feed.maxCapacity]
    exact ⟨fun hlt => if_pos (by omega), fun hle => if_neg (by omega)⟩
  case ring =>
    exact fun hlt => ⟨isLeast_nextPowerOfTwo _, (nextPowerOfTwo_le_iff _).2 (Nat.le_of_lt hlt)⟩
  case task =>
    intro database network now clock first hlaunch
    obtain ⟨relay, rfl⟩ := Server.of_launch hlaunch
    have hperiod : max s.webhooks.refreshPeriod minRefreshPeriod
        = s.webhooks.refreshIntervalSeconds.toNat * 1000 := by
      simp only [WebhookSettings.refreshPeriod, minRefreshPeriod]
      omega
    refine ⟨hperiod, ?_, fun hbroken events r hrun => ServerRun.Broken.run ⟨hbroken, nofun⟩ hrun⟩
    have hfits := Schedule.fits_iff clock s.webhooks.refreshPeriod
    rw [hperiod] at hfits
    cases h : Schedule.fits clock s.webhooks.refreshPeriod <;> simp [h] at hfits ⊢ <;> omega

/-- Settings with the greatest capacity that a feed can be asked for, whatever memory there is, and
the longest interval. -/
def Settings.greatest : Settings :=
  { webhooks := { refreshIntervalSeconds := 18446744073709551615 }
    feed := ⟨9223372036854775807⟩ }

/-- They are accepted and the size of the ring can be counted, but no refresh task ever runs on
them. -/
theorem Settings.checked_within_limits_of_greatest :
    greatest.validate = .ok () ∧ greatest.webhooks.healthSpan? = some 60000 ∧
    nextPowerOfTwo greatest.feed.capacity.toNat ≤ 2 ^ 63 ∧
    ∀ now clock first, Server.launch ⟨greatest, .empty, Http.unreachable⟩ now clock = .ok first →
      first.refreshTask = .broken := by
  have hchecked : greatest.validate = .ok () := by decide +kernel
  have hcapacity : greatest.feed.capacity.toNat = 9223372036854775807 := rfl
  obtain ⟨⟨hspan, -⟩, -, hring, htask⟩ := checked_within_limits hchecked
  refine ⟨hchecked, hspan.trans (by decide +kernel), (hring (by omega)).2, fun now clock first hlaunch => ?_⟩
  refine (htask _ _ now clock first hlaunch).2.1.2 ?_
  show 2 ^ 63 ≤ clock / 1000 + 18446744073709551615
  omega

/-- What a server without files finds around it when one variable is set. -/
def Surroundings.withVariable (name value : String) : Surroundings :=
  ⟨fun _ => none, [(name, value)], fun _ => some .empty, Http.unreachable⟩

theorem Server.build_withVariable {name value : String} {s : Settings}
    (hload : loadSettings {} (.withVariable name value) = .ok s) (hdatabase : s.database = {}) :
    build {} (.withVariable name value) = if s.feed.capacity.toNat ≤ Feed.maxCapacity
      then .ok ⟨s, Database.empty.migrate.2, Http.unreachable⟩ else .error .feed := by
  have hconnect : connect s.database (.withVariable name value) = .ok .empty := by
    rw [hdatabase]
    rfl
  have hmigrate : migrate s.database .empty = (.ok (), Database.empty.migrate.2) := by
    rw [hdatabase]
    rfl
  exact build_of_migrated rfl hload hconnect hmigrate

/-- Settings that the checks accept and that the relay cannot run with. With a capacity of 2^63
building breaks down on the feed, and with an interval of 2^64 - 1 seconds there is no time at
which the refresh task could be started. -/
theorem Settings.accepted_beyond_limits :
    let large := Surroundings.withVariable "RELAY__EVENTS__STREAM_CAPACITY" "9223372036854775808"
    let long := Surroundings.withVariable "RELAY__WEBHOOKS__REFRESH_INTERVAL_SECONDS"
      "18446744073709551615"
    (∃ s, Server.loadSettings {} large = .ok s ∧ s.validate = .ok () ∧
      Server.build {} large = .error .feed) ∧
    ∃ server, Server.build {} long = .ok server ∧ server.settings.validate = .ok () ∧
      ∀ clock, Schedule.fits clock server.settings.webhooks.refreshPeriod = false := by
  intro large long
  let seen := fun around : Surroundings => (Server.loadSettings {} around).toOption.map fun s =>
    (s.validate, s.database, s.feed.capacity, s.webhooks.refreshIntervalSeconds)
  have hlarge : seen large = some (.ok (), {}, 9223372036854775808, 60) := by decide +kernel
  have hlong : seen long = some (.ok (), {}, 1024, 18446744073709551615) := by decide +kernel
  refine ⟨?large, ?long⟩
  case large =>
    obtain ⟨s, hs, hvalues⟩ := Option.map_eq_some_iff.1 hlarge
    obtain ⟨hchecked, hdatabase, hcapacity, -⟩ := by simpa using hvalues
    have hload := toOption_eq_some_iff.1 hs
    refine ⟨s, hload, hchecked, ?_⟩
    rw [Server.build_withVariable hload hdatabase, hcapacity]
    rfl
  case long =>
    obtain ⟨s, hs, hvalues⟩ := Option.map_eq_some_iff.1 hlong
    obtain ⟨hchecked, hdatabase, hcapacity, hinterval⟩ := by simpa using hvalues
    have hbuild := Server.build_withVariable (toOption_eq_some_iff.1 hs) hdatabase
    rw [hcapacity, if_pos (by decide)] at hbuild
    refine ⟨_, hbuild, hchecked, fun clock => Bool.eq_false_iff.2 fun hfits => ?_⟩
    have hlt := (Schedule.fits_iff ..).1 hfits
    simp only [WebhookSettings.refreshPeriod, hinterval, minRefreshPeriod] at hlt
    have hinterval : (18446744073709551615 : UInt64).toNat = 18446744073709551615 := rfl
    omega

end WebhookRelay

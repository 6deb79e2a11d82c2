import HostWatch.Daemon.Life
import HostWatch.Daemon.Reload
import HostWatch.Proofs.Settings.Valid
import Mathlib.Data.List.Induction

/-!
# Reloads one after another

`reloadAll_in_force`: the settings in force are valid at every step of every reload, a reload that
fails changes nothing, and the limiter and the log follow the settings in force.

1. A reload either fails and changes nothing or puts in force what the file holds
   (`reloadSettings_eq`).
2. Whatever one such change keeps, any number of reloads keeps (`reloadAll_induction`).
3. Within a reload, valid settings are replaced by settings that have been read, which are valid
   (`Reload.step_sound`).
-/

namespace HostWatch

namespace DaemonDesk

/-- Other settings in force, and known to the limiter and, if they change the level, to the log. -/
def adopt (desk : DaemonDesk) (s : Settings) : DaemonDesk where
  limiter := desk.limiter.setLimit s.server.requestsPerSecond
  state :=
    { desk.state with
      settings.current := s
      log :=
        if s.log.level = desk.state.settings.current.log.level then desk.state.log
        else (desk.state.log.setLevel s.logLevel).2 }

/-- The limiter has the limit that the settings in force set. -/
def LimiterFollows (desk : DaemonDesk) : Prop :=
  desk.limiter.limit = desk.state.settings.current.server.requestsPerSecond

instance (desk : DaemonDesk) : Decidable desk.LimiterFollows := inferInstanceAs (Decidable (_ = _))

/-- The log, if there is one, has the level that the settings in force name. -/
def LogFollows (desk : DaemonDesk) : Prop :=
  ∀ floor ∈ desk.state.log.floor, floor = desk.state.settings.current.logLevel

theorem LimiterFollows.adopt (desk : DaemonDesk) (s : Settings) : (desk.adopt s).LimiterFollows :=
  rfl

theorem LogFollows.adopt {desk : DaemonDesk} (h : desk.LogFollows) (s : Settings) :
    (desk.adopt s).LogFollows := by
  intro floor mem
  show floor = s.logLevel
  by_cases same : s.log.level = desk.state.settings.current.log.level
  · have names : s.logLevel = desk.state.settings.current.logLevel := by
      rw [Settings.logLevel, same, Settings.logLevel]
    rw [names]
    exact h floor (by simpa [DaemonDesk.adopt, same] using mem)
  · have moved : floor ∈ (desk.state.log.setLevel s.logLevel).2.floor := by
      simpa [DaemonDesk.adopt, same] using mem
    unfold LogHandle.setLevel at moved
    split at moved
    · next none => simp [none] at moved
    · exact (Option.some.inj moved).symm

end DaemonDesk

variable {home : Option String} {path : String}

theorem reloadSettings_eq (content : FileContent) (desk : DaemonDesk) :
    reloadSettings content desk =
      match desk.state.settings.fresh content with
      | .error e => (.error e, desk)
      | .ok s => (.ok s, desk.adopt s) := by
  cases read : desk.state.settings.fresh content with
  | error e => simp [reloadSettings, Reload.stepCount, Reload.steps, Reload.step, read]
  | ok s =>
    by_cases same : s.log.level = desk.state.settings.current.log.level
    all_goals
      simp [reloadSettings, Reload.stepCount, Reload.steps, Reload.step, read, DaemonDesk.adopt,
        same]

/-! ## Any number of reloads -/

/-- **Step.** A reload leaves the desk as it is or has it adopt what the file holds. -/
theorem reloadSettings_cases (content : FileContent) (desk : DaemonDesk) :
    (∃ e, desk.state.settings.fresh content = .error e ∧
        reloadSettings content desk = (.error e, desk)) ∨
      ∃ s, desk.state.settings.fresh content = .ok s ∧
        reloadSettings content desk = (.ok s, desk.adopt s) := by
  rw [reloadSettings_eq]
  cases desk.state.settings.fresh content with
  | error e => exact .inl ⟨e, rfl, rfl⟩
  | ok s => exact .inr ⟨s, rfl, rfl⟩

/-- **Runs.** What adopting settings from the file keeps, any number of reloads keeps. -/
theorem reloadAll_induction {P : DaemonDesk → Prop}
    (adopt : ∀ desk content s, P desk → desk.state.settings.fresh content = .ok s →
      P (desk.adopt s))
    {desk : DaemonDesk} (h : P desk) (contents : List FileContent) :
    P (reloadAll contents desk) := by
  induction contents using List.reverseRecOn with
  | nil => exact h
  | append_singleton contents content ih =>
    rw [reloadAll, List.foldl_append, List.foldl_cons, List.foldl_nil]
    change P (reloadSettings content (reloadAll contents desk)).2
    obtain ⟨e, -, same⟩ | ⟨s, read, adopted⟩ :=
      reloadSettings_cases content (reloadAll contents desk)
    · rw [same]
      exact ih
    · rw [adopted]
      exact adopt _ _ _ ih read

/-! ## Within a reload -/

/-- Settings come from this file, and those in force are valid. -/
structure SettingsSource.Sound (home : Option String) (path : String) (source : SettingsSource) :
    Prop where
  home : source.home = home
  path : source.path = some path
  valid : source.current.Valid

namespace SettingsSource

theorem Sound.fresh_eq {source : SettingsSource} (h : source.Sound home path)
    (content : FileContent) : source.fresh content = Settings.ofFile home path content := by
  rw [fresh, h.path, h.home]

theorem Sound.of_ofFile {source : SettingsSource} {content : FileContent}
    (h : ofFile home path content = .ok source) : source.Sound home path := by
  unfold ofFile at h
  cases read : Settings.load home path content with
  | error e => rw [read] at h; cases h
  | ok s =>
    rw [read] at h
    cases h
    exact ⟨rfl, rfl, .of_load read⟩

end SettingsSource

namespace Reload

/-- Reading the file changes nothing on the desk. -/
theorem step_seen (content : FileContent) (desk : DaemonDesk) (level : String) :
    step content desk (.seen level) =
      ((match desk.state.settings.fresh content with
        | .error e => .ended (.error e)
        | .ok s => .read level s), desk) := by
  cases read : desk.state.settings.fresh content <;> simp [step, read]

/-- The last step of a reload touches only the log. -/
theorem step_limited (content : FileContent) (desk : DaemonDesk) (level : String) (s : Settings) :
    ∃ log, step content desk (.limited level s) =
      (.ended (.ok s), { desk with state.log := log }) := by
  by_cases same : s.log.level = level
  · exact ⟨desk.state.log, by simp [step, same]⟩
  · exact ⟨(desk.state.log.setLevel s.logLevel).2, by simp [step, same]⟩

/-- The settings that a reload has read are valid. -/
def Sound : Reload → Prop
  | read _ s | published _ s | limited _ s => s.Valid
  | begun | seen _ | ended _ => True

/-- **Step.** Settings in force stay valid with every step that a reload takes. -/
theorem step_sound (content : FileContent) {desk : DaemonDesk}
    (source : desk.state.settings.Sound home path) {r : Reload} (h : r.Sound) :
    (r.step content desk).2.state.settings.Sound home path ∧ (r.step content desk).1.Sound := by
  cases r with
  | begun | ended => exact ⟨source, trivial⟩
  | seen level =>
    rw [step_seen, source.fresh_eq]
    cases read : Settings.ofFile home path content with
    | error e => exact ⟨source, trivial⟩
    | ok s => exact ⟨source, .of_ofFile read⟩
  | read level s => exact ⟨⟨source.home, source.path, h⟩, h⟩
  | published level s => exact ⟨source, h⟩
  | limited level s =>
    obtain ⟨log, ended⟩ := step_limited content desk level s
    rw [ended]
    exact ⟨source, trivial⟩

/-- **Runs.** So they do however many steps it takes. -/
theorem steps_sound (content : FileContent) (n : Nat) {desk : DaemonDesk}
    (source : desk.state.settings.Sound home path) {r : Reload} (h : r.Sound) :
    (steps content n r desk).2.state.settings.Sound home path := by
  induction n generalizing r desk with
  | zero => exact source
  | succ n ih =>
    obtain ⟨source', h'⟩ := step_sound content source h
    exact ih source' h'

end Reload

/-! ## Settings in force -/

/-- Settings in force stay valid through any number of reloads. -/
theorem SettingsSource.Sound.reloadAll {desk : DaemonDesk}
    (h : desk.state.settings.Sound home path) (contents : List FileContent) :
    (HostWatch.reloadAll contents desk).state.settings.Sound home path :=
  reloadAll_induction (P := fun desk => desk.state.settings.Sound home path)
    (fun _ content _ h read => ⟨h.home, h.path, .of_ofFile ((h.fresh_eq content).symm.trans read)⟩)
    h contents

/-- A reload gives what it reads in the file. -/
theorem SettingsSource.Sound.reloadSettings_result {desk : DaemonDesk}
    (h : desk.state.settings.Sound home path) (content : FileContent) :
    (reloadSettings content desk).1 = Settings.ofFile home path content := by
  rw [← h.fresh_eq content, reloadSettings_eq]
  split <;> next read => rw [read]

/-- A reload that fails changes nothing. -/
theorem reloadSettings_of_error {content : FileContent} {desk : DaemonDesk} {e : SettingsError}
    (failed : (reloadSettings content desk).1 = .error e) :
    (reloadSettings content desk).2 = desk := by
  obtain ⟨_, -, same⟩ | ⟨s, -, adopted⟩ := reloadSettings_cases content desk
  · rw [same]
  · rw [adopted] at failed
    cases failed

/-- The desk adopts what a reload gives. -/
theorem reloadSettings_of_ok {content : FileContent} {desk : DaemonDesk} {s : Settings}
    (read : (reloadSettings content desk).1 = .ok s) :
    (reloadSettings content desk).2 = desk.adopt s := by
  obtain ⟨e, -, same⟩ | ⟨t, -, adopted⟩ := reloadSettings_cases content desk
  · rw [same] at read
    cases read
  · rw [adopted] at read ⊢
    cases read
    rfl

/-- For settings that were loaded from a file, and any number of reloads, whatever the file holds
at each of them:

* The settings in force are valid, also while another reload is under way.
* A reload gives what it reads in the file. If there is an error, which a missing file is, nothing
  changes. Otherwise the settings read are in force and the limiter follows them.
* If the limiter and the log followed the settings at the start, they still do. -/
theorem reloadAll_in_force {content : FileContent} {source : SettingsSource}
    (loaded : SettingsSource.ofFile home path content = .ok source) {desk : DaemonDesk}
    (start : desk.state.settings = source) (contents : List FileContent) :
    let after := reloadAll contents desk
    (∀ content n,
      let s := (Reload.steps content n .begun after).2.state.settings.current
      s.validated = .ok s) ∧
    (∀ content, (reloadSettings content after).1 = Settings.ofFile home path content) ∧
    (∀ content e, (reloadSettings content after).1 = .error e →
      (reloadSettings content after).2 = after) ∧
    (reloadSettings (.error .notFound) after).1 = .error (.unreadable path .notFound) ∧
    (∀ content s, (reloadSettings content after).1 = .ok s →
      (reloadSettings content after).2.state.settings.current = s ∧
        (reloadSettings content after).2.LimiterFollows) ∧
    (desk.LimiterFollows → after.LimiterFollows) ∧
    (desk.LogFollows → after.LogFollows) := by
  intro after
  have before : desk.state.settings.Sound home path := start ▸ .of_ofFile loaded
  have sound : after.state.settings.Sound home path := before.reloadAll contents
  refine ⟨?_, ?_, ?_, ?_, ?_, ?_, ?_⟩
  · intro content n
    exact Settings.validated_eq_ok.2
      ⟨rfl, (Reload.steps_sound content n sound (show Reload.begun.Sound from trivial)).valid⟩
  · exact fun content => sound.reloadSettings_result content
  · exact fun content e failed => reloadSettings_of_error failed
  · rw [sound.reloadSettings_result]
    rfl
  · intro content s read
    rw [reloadSettings_of_ok read]
    exact ⟨rfl, .adopt after s⟩
  · intro follows
    exact reloadAll_induction (fun desk _ s _ _ => .adopt desk s) follows contents
  · intro follows
    exact reloadAll_induction (fun _ _ s h _ => h.adopt s) follows contents

/-- The source of the standard settings, for want of a file. -/
def SettingsSource.standard : SettingsSource := ⟨none, some "daemon.toml", {}⟩

/-- The desk of a daemon that found no file of settings. -/
def DaemonDesk.standard : DaemonDesk where
  limiter := .new 0 100
  state := .ofLaunch
    { settings := .standard
      site := .database none
      surroundings := ⟨.ok (), .nothing, []⟩
      hasBackend := false
      log := ⟨some .info⟩
      ids := ⟨fun _ => "", 0⟩ }

/-- A file that sets a limit and a log level. -/
def fileSetting (limit level : String) : FileContent :=
  .ok (Text.utf8
    ("[server]\nmax_requests_per_sec = " ++ limit ++ "\n[log]\nlevel = \"" ++ level ++ "\"\n"))

/-- The file of a daemon that started without one holds settings, then a broken text, and is
removed. -/
theorem reloadAll_in_force_mixed :
    let desk := DaemonDesk.standard
    let after := reloadAll
      [fileSetting "5" "debug", .ok (Text.utf8 "[server"), .error .notFound] desk
    SettingsSource.ofFile none "daemon.toml" (.error .notFound) = .ok .standard ∧
      desk.state.settings = .standard ∧ desk.LimiterFollows ∧ desk.LogFollows ∧
      after.limiter.limit = 5 ∧ after.state.log.floor = some .debug ∧
      after.LimiterFollows ∧ after.LogFollows := by
  intro desk after
  have loaded : SettingsSource.ofFile none "daemon.toml" (.error .notFound) = .ok .standard := rfl
  have start : desk.state.settings = .standard := rfl
  have limiter : desk.LimiterFollows := rfl
  have log : desk.LogFollows := by
    intro floor mem
    obtain rfl : LogLevel.info = floor := Option.some.inj mem
    decide +kernel
  obtain ⟨-, -, -, -, -, limiterStays, logStays⟩ := reloadAll_in_force loaded start
    [fileSetting "5" "debug", .ok (Text.utf8 "[server"), .error .notFound]
  exact ⟨loaded, start, limiter, log, by decide +kernel, by decide +kernel, limiterStays limiter,
    logStays log⟩

end HostWatch

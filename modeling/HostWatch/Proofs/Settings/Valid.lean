import HostWatch.Settings.File

/-!
# Settings in force are valid

Reading a file gives settings only if no rule objects to them once their paths are expanded. The
standard settings, which nobody checks, keep the rules whatever the home directory is.
-/

namespace HostWatch.Settings

theorem objection?_eq_none {s : Settings} : s.objection? = none ↔ s.Valid := by
  simp [objection?, Valid, List.find?_eq_none]

theorem validated_eq_ok {s t : Settings} : s.validated = .ok t ↔ s = t ∧ s.Valid := by
  rw [← objection?_eq_none]
  unfold validated
  cases s.objection? <;> simp

/-- Valid settings have updates counted. -/
theorem Valid.updateEvery_ne_zero {s : Settings} (h : s.Valid) : s.monitor.updateEvery ≠ 0 :=
  of_decide_eq_false (h (decide (s.monitor.updateEvery = 0), .noUpdateCheck) (by simp [rules]))

/-- What a text gives has been checked with its paths expanded. -/
theorem Valid.of_ofText {home : Option String} {text : String} {s : Settings}
    (h : ofText home text = .ok s) : s.Valid := by
  unfold ofText at h
  split at h
  · cases h
  · split at h
    · cases h
    · next written _ =>
      cases checked : (expandPaths home written).validated with
      | error o => rw [checked] at h; cases h
      | ok t =>
        obtain ⟨same, valid⟩ := validated_eq_ok.1 checked
        rw [checked] at h
        cases h
        exact same ▸ valid

theorem Valid.of_ofFile {home : Option String} {path : String} {content : FileContent}
    {s : Settings} (h : ofFile home path content = .ok s) : s.Valid := by
  unfold ofFile at h
  split at h
  · cases h
  · split at h
    · cases h
    · exact .of_ofText h

/-- No path of the standard settings begins at the home directory. -/
theorem expandPaths_default (home : Option String) : expandPaths home {} = {} := by
  cases home <;> rfl

theorem valid_default : ({} : Settings).Valid := by
  decide +kernel

/-- What a daemon starts with is valid, also when there is no file. -/
theorem Valid.of_load {home : Option String} {path : String} {content : FileContent}
    {s : Settings} (h : load home path content = .ok s) : s.Valid := by
  unfold load at h
  split at h
  · cases h
    rw [expandPaths_default]
    exact valid_default
  · exact .of_ofFile h

end HostWatch.Settings

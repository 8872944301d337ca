import Backtick.LintFile
import Backtick.Log.Setup
import Backtick.Settings.Load

/-!
# Workspaces

A workspace is a disk with an environment. Its settings are loaded when they are first needed and
kept from then on, whatever happens to the documents and the variables that they came from, until
they are dropped. Settings that cannot be loaded are not kept.
-/

namespace Backtick

/-- A disk, an environment and the settings that were loaded. -/
structure Workspace where
  disk : Disk := {}
  environment : Environment := []
  kept : Option Settings := none

namespace Workspace

/-- The settings, and the workspace that keeps them. -/
def settings (w : Workspace) : Except Fault Settings × Workspace :=
  match w.kept with
  | some s => (.ok s, w)
  | none =>
    match Settings.load w.disk w.environment with
    | .ok s => (.ok s, { w with kept := some s })
    | .error f => (.error f, w)

/-- Settings that are loaded are the same when they are asked for again. -/
theorem settings_settings (w : Workspace) (s : Settings) (h : (w.settings).1 = .ok s) :
    (w.settings).2.settings = (.ok s, (w.settings).2) := by
  unfold settings at h ⊢
  split at h
  · rename_i s' hs
    cases h
    simp [hs]
  · rename_i hn
    split at h
    · rename_i s' hs
      cases h
      rfl
    · cases h

/-- Drops the settings that are kept. -/
def dropSettings (w : Workspace) : Workspace := { w with kept := none }

/-- Opens the log that is asked for: the settings and the setup that come of it, and the workspace
with the directories and the file that the log needs. -/
def openLog (w : Workspace) (level file : Option Text) (json : Option Bool) :
    Except Fault (Settings × LogSetup) × Workspace :=
  match w.settings with
  | (.error f, w) => (.error f, w)
  | (.ok s, w) =>
    let setup := LogSetup.ofSettings s.general level file json
    let (opened, d) := setup.openFile w.disk
    (opened.map fun () => (s, setup), { w with disk := d })

end Workspace

end Backtick

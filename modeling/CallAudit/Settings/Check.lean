import CallAudit.Settings.Fault

/-!
# Checking settings

The conditions that join several settings.  They are looked at in a fixed order
and the first one that fails is reported.
-/

namespace CallAudit.Settings

/-- The settings themselves when they can be used, else the first fault. -/
def checked (settings : Settings) : Except SettingsFault Settings :=
  let shared := Names.inter settings.watched settings.safe
  if settings.watched.isEmpty then
    .error .nothingWatched
  else if !shared.isEmpty then
    .error (.watchedAndTrusted shared)
  else if settings.fileGlobs.isEmpty then
    .error .noFileGlobs
  else if !levelNames.contains settings.minLevel then
    .error (.unknownLevel settings.minLevel)
  else
    .ok settings

end CallAudit.Settings

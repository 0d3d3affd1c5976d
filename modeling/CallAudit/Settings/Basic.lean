import CallAudit.Risk.Level
import CallAudit.Risk.Verdict
import CallAudit.Text.Names

/-!
# Settings

What a run is told: where to look, which functions to watch, which calls to
trust, which files to take and when to fail.
-/

namespace CallAudit

structure Settings where
  sourceRoot : String
  watched : Names
  safe : Names
  fileGlobs : List String
  excludeGlobs : List String
  failOnHigh : Bool
  minLevel : String
  configPath : Option String
  deriving DecidableEq, Repr

namespace Settings

/-- The functions that are watched unless the settings say otherwise. -/
def defaultWatched : Names :=
  .ofList ["divDecimals", "mulDecimals", "addDecimals", "subDecimals"]

/-- The calls that are trusted unless the settings say otherwise. -/
def defaultSafe : Names :=
  .ofList ["Number", "parseInt", "parseFloat", "isNaN", "isFinite"]

def standard : Settings where
  sourceRoot := "src"
  watched := defaultWatched
  safe := defaultSafe
  fileGlobs := ["*.ts", "*.tsx", "*.js", "*.jsx"]
  excludeGlobs := []
  failOnHigh := false
  minLevel := "LOW"
  configPath := none

instance : Inhabited Settings :=
  ⟨standard⟩

def vocabulary (settings : Settings) : Vocabulary :=
  ⟨settings.watched, settings.safe⟩

def levelNames : List String :=
  Level.reported.map Level.name

end Settings

end CallAudit

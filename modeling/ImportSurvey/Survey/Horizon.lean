import ImportSurvey.Survey.Basic

/-
  What a survey would have to see besides the directory it surveys.

  A survey reads the files below one directory, but references lead out of it: to files next to it, and to
  packages above it or in directories that are left out of the survey.  Whoever hands over a disk that
  holds only a part can ask here which further directories may matter, and only references that led
  nowhere can lead elsewhere once more is known.
-/
namespace ImportSurvey.Survey

/-- Directories that decide where references lead. -/
structure Horizon where
  /-- those of which only the names in them count -/
  flat : List Path := []
  /-- those that may hold a package -/
  packages : List Path := []
deriving Repr, Inhabited

namespace Horizon

def append (a b : Horizon) : Horizon := ⟨a.flat ++ b.flat, a.packages ++ b.packages⟩

instance : Append Horizon := ⟨append⟩

/-- The directories in which a reference written in `file` is looked for. -/
def ofReference (reference : String) (file : Path) : Horizon :=
  let dir := Resolve.directoryOf file
  if Resolve.isPathReference reference then
    let target := (dir.join reference).normalize
    { flat := target.parent.toList ++ [target] }
  else
    let name := (Resolve.PackageReference.ofText reference).name
    { packages := dir.ancestors.map fun a => (a.join "node_modules").join name }

/-- The directories in which the references of a result that led nowhere were looked for. -/
def ofResult (base : Path) (r : SurveyResult) : Horizon :=
  let space := ModuleSpace.ofDir base
  let unresolved := r.modules.flatMap fun m => m.dependencies.filter (·.couldNotResolve)
  let parts := unresolved.map fun d => ofReference d.moduleName (space.modulePath d.from)
  ⟨(parts.flatMap (·.flat)).eraseDups, (parts.flatMap (·.packages)).eraseDups⟩

end Horizon

end ImportSurvey.Survey

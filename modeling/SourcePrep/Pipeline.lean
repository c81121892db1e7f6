import SourcePrep.Expansion
import SourcePrep.Inclusion

/-!
# The pipeline

`loadFiles` loads every root with its inclusions, and `preprocessFiles` expands the replace
directives of each as well. The roots share what has been loaded. Results are in the order of the
roots.
-/

set_option autoImplicit false

namespace SourcePrep

variable {σ : Type} [Sink σ]

/-- Run a computation that loads files, starting with nothing loaded. -/
def Loading.start {α : Type} (action : Loading σ α) : Reporting σ α := fun sink =>
  let (result, s) := action { sink }
  (result, s.sink)

/-- Load every root. -/
def loadFiles (engine : Engine) (w : Workspace) (searchDirs : List Path) (config : Configuration)
    (roots : List Path) : Reporting σ (List (Document Normalized)) :=
  Loading.start (roots.mapM (Inclusion.loadRoot engine w searchDirs config))

/-- Load every root and expand its replace directives. -/
def preprocessFiles (engine : Engine) (w : Workspace) (searchDirs : List Path)
    (config : Configuration) (roots : List Path) : Reporting σ (List (Document Normalized)) := do
  let loaded ← loadFiles engine w searchDirs config roots
  loaded.mapM (expand engine {})

end SourcePrep

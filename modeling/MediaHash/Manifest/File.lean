import MediaHash.FileTree
import MediaHash.Manifest.Basic

/-!
# Manifests in files
-/

namespace MediaHash

/-- Read a manifest from the file at a path. -/
def Manifest.load (files : Files) (path : String) : Except Fault Manifest :=
  match files.bytes path with
  | .ok bytes => (ofBytes bytes).mapError .manifest
  | .error fault =>
      if fault.kind = .notFound then .error (.manifest (.notFound path))
      else .error (.access fault (some path))

end MediaHash

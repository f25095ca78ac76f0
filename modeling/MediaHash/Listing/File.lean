import MediaHash.FileTree
import MediaHash.Listing.Basic

/-!
# Listings in files
-/

namespace MediaHash

/-- Read a listing from the file at a path. -/
def Listing.load (files : Files) (path : String) : Except Fault Listing :=
  match files.bytes path with
  | .ok bytes =>
      match Encoding.readUtf8 bytes with
      | .ok text => .ok (read text)
      | .error _ => .error (.listing (.invalidEncoding path))
  | .error fault =>
      if fault.kind = .notFound then .error (.listing (.notFound path))
      else .error (.access fault (some path))

end MediaHash

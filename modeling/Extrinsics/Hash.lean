import Extrinsics.Text.Blank

/-!
# Hashes

Clients report the hash of an extrinsic or of a block in any letter case and with blanks
around it. The canonical form has neither.
-/

namespace Extrinsics.Hash

/-- The canonical form of a hash: no blanks at the ends, and no upper-case letters of
ASCII. -/
def normalize (raw : String) : String :=
  String.ofList ((Text.trim raw.toList).map Char.toLower)

end Extrinsics.Hash

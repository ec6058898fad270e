import HostBridge.Config
import HostBridge.Sha256

/-! Program images: files that were readable when they were opened, with what a VM needs to load
them. -/
namespace HostBridge

/-- A program image ready to be loaded. The fingerprint is the hexadecimal SHA-256 digest of its
content. -/
structure Image where
  path : Path
  packages : Path
  fingerprint : String
  deriving DecidableEq, Repr, Inhabited

namespace Image

/-- Opens the image at `path`, which has to be a readable file. -/
def open? (fs : FileSystem) (path : Path) (config : Config) : Except FileError Image :=
  (fs.read path).map fun bytes =>
    ⟨path, config.packagesFor path, Hex.ofBytes (Sha256.digest bytes)⟩

end Image
end HostBridge

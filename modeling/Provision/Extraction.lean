import Provision.Extraction.Tar
import Provision.Extraction.Zip
import Provision.Platform

namespace Provision

abbrev Extractor (σ : Type) := String → String → Action σ Unit

def ArchiveFormat.extractor {σ : Type} (f : ArchiveFormat) : Extractor σ := fun archive dest => do
  Action.tell .info ("Extracting " ++ f.name ++ " archive") [("archive", archive), ("dest", dest)]
  match f with
  | .tar => Tarball.extract archive dest
  | .zip => ZipFile.extract archive dest

end Provision

import Provision.BuildStamp
import Provision.Main
import Provision.Proofs.Acquisition.Succession
import Provision.Proofs.Download.Atomic
import Provision.Proofs.Extraction.TarTree
import Provision.Proofs.Extraction.ZipConfinement
import Provision.Proofs.Installation.Confirmation
import Provision.Proofs.Installation.Forecast
import Provision.Proofs.Installation.OnePath
import Provision.Proofs.Installation.Traceless
import Provision.Proofs.Retry.Commands
import Provision.Proofs.Retry.Downloads
import Provision.Proofs.Retry.Counter
import Provision.Proofs.Extraction.Completeness
import Provision.Proofs.Disk.Leftover
import Provision.Proofs.Extraction.Regrowth
import Provision.Proofs.Extraction.Restart
import Provision.Proofs.Command.Forwarding
import Provision.Proofs.Table
import Provision.Proofs.Text.Order
import Provision.Proofs.Installation.Choice
import Provision.Proofs.Installation.Documented
import Provision.Proofs.Arguments.Reading
import Provision.Proofs.Arguments.Layers
import Provision.Proofs.Installation.Version
import Provision.Proofs.Extraction.EntryName
import Provision.Proofs.Extraction.HardLink
import Provision.Proofs.Retry.Pauses
import Provision.Proofs.Release
import Provision.Proofs.Size.Reading

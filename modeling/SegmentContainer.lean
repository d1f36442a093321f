import SegmentContainer.Main
import SegmentContainer.Proofs.Command.Artifact
import SegmentContainer.Proofs.Container.Items
import SegmentContainer.Proofs.Elf.Collecting
import SegmentContainer.Proofs.Elf.Sections
import SegmentContainer.Proofs.Elf.Tables
import SegmentContainer.Proofs.Export.Accounting
import SegmentContainer.Proofs.Export.Failures
import SegmentContainer.Proofs.Export.Filling
import SegmentContainer.Proofs.Export.Listing
import SegmentContainer.Proofs.Export.Lookup
import SegmentContainer.Proofs.Export.Misaligned
import SegmentContainer.Proofs.Export.Remaking
import SegmentContainer.Proofs.Export.RoundTrip
import SegmentContainer.Proofs.Export.Selection
import SegmentContainer.Proofs.Image.Backed
import SegmentContainer.Proofs.Image.Detection
import SegmentContainer.Proofs.Image.Mock
import SegmentContainer.Proofs.Manifest.Building
import SegmentContainer.Proofs.Manifest.Respelling
import SegmentContainer.Proofs.Permissions

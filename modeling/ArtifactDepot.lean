import ArtifactDepot.Proofs.Frame
import ArtifactDepot.Proofs.Lossless
import ArtifactDepot.Proofs.Exact
import ArtifactDepot.Proofs.Rounds
import ArtifactDepot.Proofs.Isolation
import ArtifactDepot.Proofs.Transparent
import ArtifactDepot.Proofs.Secrets
import ArtifactDepot.Proofs.Separators
import ArtifactDepot.Proofs.Classified
import ArtifactDepot.Proofs.Tenure
import ArtifactDepot.Proofs.Pages
import ArtifactDepot.Proofs.Joining
import ArtifactDepot.Proofs.Parts
import ArtifactDepot.Proofs.Parents
import ArtifactDepot.Proofs.Disclosed
import ArtifactDepot.Proofs.Captured
import ArtifactDepot.Proofs.Uploads
import ArtifactDepot.Proofs.Cleaning
import ArtifactDepot.Proofs.Instants
import ArtifactDepot.Proofs.Spellings
import ArtifactDepot.Proofs.Usable

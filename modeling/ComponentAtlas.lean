import ComponentAtlas.Config.Editing
import ComponentAtlas.Config.Loading
import ComponentAtlas.Extraction.Workspace
import ComponentAtlas.Graph.Admission
import ComponentAtlas.Json.Reader
import ComponentAtlas.Pattern.NamePattern
import ComponentAtlas.Proofs.Config.Composition
import ComponentAtlas.Proofs.Config.Gate
import ComponentAtlas.Proofs.Config.RoundTrip
import ComponentAtlas.Proofs.Extraction.EnclosingClass
import ComponentAtlas.Proofs.Extraction.Enrichment
import ComponentAtlas.Proofs.Extraction.Files
import ComponentAtlas.Proofs.Extraction.Findings
import ComponentAtlas.Proofs.Extraction.GraphDocument
import ComponentAtlas.Proofs.Extraction.Identifiers
import ComponentAtlas.Proofs.Extraction.Independence
import ComponentAtlas.Proofs.Extraction.Resolution
import ComponentAtlas.Proofs.Extraction.Spellings
import ComponentAtlas.Proofs.Extraction.Validity
import ComponentAtlas.Proofs.Extraction.Workspace
import ComponentAtlas.Proofs.Graph.Reports
import ComponentAtlas.Proofs.Graph.Soundness
import ComponentAtlas.Proofs.Tree.Attachment
import ComponentAtlas.Proofs.Tree.CommentedScan
import ComponentAtlas.Proofs.Tree.Traversal
import ComponentAtlas.Proofs.Json.Remarks
import ComponentAtlas.Proofs.Graph.Remarks
import ComponentAtlas.Proofs.Config.Remarks
import ComponentAtlas.Proofs.Respacing
import ComponentAtlas.Proofs.Pattern.Search
import ComponentAtlas.Proofs.Source.DocComment
import ComponentAtlas.Proofs.Source.TagSearch
import ComponentAtlas.Proofs.ComponentId.Canonical

import AutoItDocs.Main
import AutoItDocs.Proofs.Signature.OrderedMap
import AutoItDocs.Proofs.Signature.Union
import AutoItDocs.Proofs.Signature.Markdown
import AutoItDocs.Proofs.Signature.ParameterLines
import AutoItDocs.Proofs.Signature.Index
import AutoItDocs.Proofs.Catalog.Invariant
import AutoItDocs.Proofs.Catalog.Precedence
import AutoItDocs.Proofs.Catalog.Completion
import AutoItDocs.Proofs.Catalog.Collisions
import AutoItDocs.Proofs.Catalog.Union
import AutoItDocs.Proofs.Catalog.Accepted
import AutoItDocs.Proofs.Catalog.Reversal
import AutoItDocs.Proofs.Settings.Catalog
import AutoItDocs.Proofs.Settings.Discovery
import AutoItDocs.Proofs.Script.Position
import AutoItDocs.Proofs.Script.PositionOrder
import AutoItDocs.Proofs.Script.Lexing
import AutoItDocs.Proofs.Script.Brackets
import AutoItDocs.Proofs.Script.Token
import AutoItDocs.Proofs.Script.Word
import AutoItDocs.Proofs.Script.Block
import AutoItDocs.Proofs.Script.ByOffset
import AutoItDocs.Proofs.Editor.Hover
import AutoItDocs.Proofs.Editor.SignatureHelp
import AutoItDocs.Proofs.Editor.Retyping
import AutoItDocs.Proofs.Editor.Callee
import AutoItDocs.Proofs.Editor.Comment
import AutoItDocs.Proofs.Editor.Complete
import AutoItDocs.Proofs.Editor.ByOffset
import AutoItDocs.Proofs.Server.View
import AutoItDocs.Proofs.Server.Catalog
import AutoItDocs.Proofs.Server.Session
import AutoItDocs.Proofs.Server.EditorText

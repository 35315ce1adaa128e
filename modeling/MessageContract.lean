import MessageContract.Node.Reader
import MessageContract.Regex.Engine
import MessageContract.Sample
import MessageContract.Proofs.Session.Run
import MessageContract.Proofs.Contents.Opaque
import MessageContract.Proofs.Contract.Grouping
import MessageContract.Proofs.Contract.Loaded
import MessageContract.Proofs.Contract.History
import MessageContract.Proofs.Store.Readable
import MessageContract.Proofs.Session.Recorded
import MessageContract.Proofs.Store.Isolation
import MessageContract.Proofs.Store.Nested
import MessageContract.Proofs.Contents.Agreement
import MessageContract.Proofs.Contract.InPlace
import MessageContract.Proofs.Node.Reprint
import MessageContract.Proofs.Date.Canonical
import MessageContract.Proofs.Contract.Classified
import MessageContract.Proofs.Node.Recognition
import MessageContract.Proofs.Node.Warnings
import MessageContract.Proofs.Contract.Alike
import MessageContract.Proofs.Contents.Handed
import MessageContract.Proofs.Session.Builder

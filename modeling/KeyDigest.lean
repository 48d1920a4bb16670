import KeyDigest.Json.Reader
import KeyDigest.Proofs.Block.Padding
import KeyDigest.Proofs.Collection.Separated
import KeyDigest.Proofs.Collection.SortedMap
import KeyDigest.Proofs.Collection.Traversal
import KeyDigest.Proofs.Digest.Collections
import KeyDigest.Proofs.Digest.Containers
import KeyDigest.Proofs.Digest.Document
import KeyDigest.Proofs.Digest.ErrorText
import KeyDigest.Proofs.Digest.Fault
import KeyDigest.Proofs.Digest.Format
import KeyDigest.Proofs.Digest.Order
import KeyDigest.Proofs.Digest.Parse
import KeyDigest.Proofs.Digest.Scalar
import KeyDigest.Proofs.Digest.Spelling
import KeyDigest.Proofs.Hashing.Pieces
import KeyDigest.Proofs.Hashing.Text
import KeyDigest.Proofs.Hex.Inverse
import KeyDigest.Proofs.Json.Literal
import KeyDigest.Proofs.Json.Object
import KeyDigest.Proofs.Log.Threshold
import KeyDigest.Proofs.Preimage
import KeyDigest.Proofs.Ripemd160
import KeyDigest.Proofs.Sha256
import KeyDigest.Session
import KeyDigest.Standard

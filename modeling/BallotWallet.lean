import BallotWallet.Bytes.Hex
import BallotWallet.Crypto.Blake2b
import BallotWallet.Crypto.Pbkdf2
import BallotWallet.Crypto.SealedBox
import BallotWallet.Text.Blank
import BallotWallet.Text.Digit
import BallotWallet.Text.Case
import BallotWallet.Text.Quoted
import BallotWallet.Text.Decomposition
import BallotWallet.Text.Encoding
import BallotWallet.Number.Binary64
import BallotWallet.Time.Iso8601
import BallotWallet.Json.Reader
import BallotWallet.Json.Writer
import BallotWallet.Chain.Validity
import BallotWallet.Vote.Proposal
import BallotWallet.Ledger.Account
import BallotWallet.Ledger.Fragment
import BallotWallet.Crypto.Ecdsa
import BallotWallet.Key.Source
import BallotWallet.Transaction
import BallotWallet.Log.Line
import BallotWallet.Log.Message
import BallotWallet.Ledger.Rest
import BallotWallet.Wallet.Book
import BallotWallet.Wallet.Controller
import BallotWallet.Startup
import BallotWallet.Proofs.Run
import BallotWallet.Proofs.Effect
import BallotWallet.Proofs.AllOrNothing
import BallotWallet.Proofs.Provenance
import BallotWallet.Proofs.Agreement
import BallotWallet.Proofs.Interleaving
import BallotWallet.Proofs.Waiting
import BallotWallet.Proofs.Transferring
import BallotWallet.Proofs.Json.Failing
import BallotWallet.Proofs.Answers
import BallotWallet.Proofs.Reading
import BallotWallet.Proofs.Batches
import BallotWallet.Proofs.RoundTrip
import BallotWallet.Proofs.Balance
import BallotWallet.Proofs.Usage
import BallotWallet.Proofs.Starting
import BallotWallet.Proofs.Lifetime
import BallotWallet.Proofs.Generating
import BallotWallet.Proofs.Exporting
import BallotWallet.Proofs.Naming
import BallotWallet.Proofs.Bits
import BallotWallet.Proofs.Bech32
import BallotWallet.Proofs.Distinct
import BallotWallet.Proofs.Recording
import BallotWallet.Proofs.Eras
import BallotWallet.Proofs.AnyOrder
import BallotWallet.Proofs.Refilling
import BallotWallet.Proofs.Misuse
import BallotWallet.Proofs.Netting
import BallotWallet.Proofs.Absorbing
import BallotWallet.Proofs.Logged
import BallotWallet.Proofs.BelowZero
import BallotWallet.Proofs.Canonical
import BallotWallet.Proofs.KeyFile
import BallotWallet.Proofs.Mistyping
import BallotWallet.Proofs.Opening
import BallotWallet.Proofs.Pin
import BallotWallet.Proofs.Epochs
import BallotWallet.Proofs.Expiring
import BallotWallet.Proofs.Descending
import BallotWallet.Proofs.Phrases
import BallotWallet.Proofs.Posting
import BallotWallet.Proofs.Precedence
import BallotWallet.Proofs.Lines
import BallotWallet.Proofs.JsonLines

import Gazette.Application
import Gazette.Cache.RemoteAddress
import Gazette.Cache.Watched
import Gazette.Main
import Gazette.Proofs.Cache.Agreement
import Gazette.Proofs.Cached.AccountTransparency
import Gazette.Proofs.Cached.ByHand
import Gazette.Proofs.Cached.Causes
import Gazette.Proofs.Cached.Deletions
import Gazette.Proofs.Cached.Invalidations
import Gazette.Proofs.Cached.Overflows
import Gazette.Proofs.Cached.Refreshes
import Gazette.Proofs.Cached.Secrecy
import Gazette.Proofs.Cached.Staleness
import Gazette.Proofs.Flight.Coalescing
import Gazette.Proofs.Flight.Turns
import Gazette.Proofs.Json.Payloads
import Gazette.Proofs.Storage.Atomicity
import Gazette.Proofs.Storage.Discussion
import Gazette.Proofs.Storage.Failures
import Gazette.Proofs.Storage.Finality
import Gazette.Proofs.Storage.Pages
import Gazette.Proofs.Storage.Places
import Gazette.Proofs.Storage.Publishing
import Gazette.Proofs.Storage.StoredForms
import Gazette.Proofs.Storage.Titles
import Gazette.Storage.Restore

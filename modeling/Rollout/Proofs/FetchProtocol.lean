import Mathlib.Data.List.Induction
import Rollout.Proofs.PayloadUrls

/-!
# Whom a fetcher asks

A fetch asks the base once, and the fallback once if there is one and the base fails without
refusing the key. It comes to the answer of the server asked last (`Fetcher.Session.fetches`). A
server that refuses the key is the last one that is asked for good
(`Fetcher.Session.after_of_isRefused`).
-/

namespace Rollout

/-! ### Requests and responses -/

/-- A request goes to the network exactly once, and the response is what the network has for it. -/
theorem HttpClient.exchange_eq (c : HttpClient) (r : HttpRequest) (n : Network) :
    c.exchange r n =
      ((n.response? (n.asked ++ [{ client := c, request := r }])).elim (.error .network) .ok,
        { n with asked := n.asked ++ [{ client := c, request := r }] }) := rfl

namespace Fetcher

/-- The request for a payload that goes to a server. -/
def request? (f : Fetcher) (server : Url) (since : Option Nat) : Option HttpRequest :=
  (payloadUrl? server f.sdkKey since).map fun url => { url, headers := f.headers }

/-- What is sent when a server is asked: the request, if its URL can be written. -/
def sent (f : Fetcher) (server : Url) (since : Option Nat) : List SentRequest :=
  (f.request? server since).toList.map fun request => { client := f.client, request }

theorem sent_of_request? {f : Fetcher} {server : Url} {since : Option Nat} {r : HttpRequest}
    (h : f.request? server since = some r) :
    f.sent server since = [{ client := f.client, request := r }] := by
  unfold sent
  rw [h]
  rfl

/-- Asking a server sends exactly one request. -/
theorem exists_sent (f : Fetcher) {server : Url} (h : server.IsServer) (since : Option Nat) :
    ∃ r, f.request? server since = some r ∧
      f.sent server since = [{ client := f.client, request := r }] := by
  obtain ⟨url, hurl⟩ := Option.isSome_iff_exists.1 (h.isSome_payloadUrl? f.sdkKey since)
  have hrequest : f.request? server since = some { url, headers := f.headers } := by
    unfold request?
    rw [hurl]
    rfl
  exact ⟨_, hrequest, sent_of_request? hrequest⟩

/-- The response of a server, if it gives one. -/
def response? (f : Fetcher) (server : Url) (since : Option Nat) (n : Network) :
    Option HttpResponse :=
  (f.request? server since).bind fun request =>
    n.response? (n.asked ++ [{ client := f.client, request }])

/-- What the response of a server comes to: its body, unless the status is one of an error. -/
def answer (f : Fetcher) (server : Url) (since : Option Nat) (n : Network) :
    Except Failure String :=
  match f.response? server since n with
  | none => .error (if (f.request? server since).isSome then .network else .invalidUrl)
  | some r =>
    if 400 ≤ r.status ∧ r.status < 600 then
      .error (if r.status = 401 then .unauthorized else .unexpectedStatus r.status)
    else .ok r.body

/-- A server refuses the key. -/
def IsRefusedBy (f : Fetcher) (server : Url) (since : Option Nat) (n : Network) : Prop :=
  ∃ r, f.response? server since n = some r ∧ r.status = 401

variable {f : Fetcher} {server : Url} {since : Option Nat} {n : Network}

theorem payloadOf_eq (r : HttpResponse) : payloadOf r =
    if 400 ≤ r.status ∧ r.status < 600 then
      .error (if r.status = 401 then .unauthorized else .unexpectedStatus r.status)
    else .ok r.body := by
  unfold payloadOf HttpResponse.isError
  by_cases hrefused : r.status = 401
  · simp [hrefused]
  · simp [hrefused]

/-- A server is asked once, if the URL of the payload can be written. -/
theorem fetchFrom_eq (f : Fetcher) (server : Url) (since : Option Nat) (n : Network) :
    f.fetchFrom server since n =
      (f.answer server since n, { n with asked := n.asked ++ f.sent server since }) := by
  unfold fetchFrom answer response? sent request?
  cases payloadUrl? server f.sdkKey since with
  | none =>
    show _ = (_, { n with asked := n.asked ++ [] })
    rw [List.append_nil]
    rfl
  | some url =>
    dsimp only [Option.map_some, Option.bind_some]
    rw [bind_apply, HttpClient.exchange_eq]
    cases n.response? (n.asked ++ [⟨f.client, { url, headers := f.headers }⟩]) with
    | none => rfl
    | some r =>
      dsimp only [Option.elim_some]
      rw [← payloadOf_eq]
      rfl

theorem answer_eq_unauthorized_iff :
    f.answer server since n = .error .unauthorized ↔ f.IsRefusedBy server since n := by
  unfold answer IsRefusedBy
  cases f.response? server since n with
  | none => by_cases h : (f.request? server since).isSome <;> simp [h]
  | some r =>
    by_cases hrefused : r.status = 401
    · simp [hrefused]
    · by_cases herror : 400 ≤ r.status ∧ r.status < 600 <;> simp [hrefused, herror]

theorem refuses_answer :
    refuses (f.answer server since n) = true ↔ f.IsRefusedBy server since n := by
  rw [← answer_eq_unauthorized_iff]
  cases f.answer server since n with
  | ok body => simp [refuses]
  | error failure => cases failure <;> simp [refuses]

/-- The changes since a time are asked for by one more pair in the query. -/
theorem request?_some (f : Fetcher) (server : Url) (time : Nat) :
    f.request? server (some time) = (f.request? server none).map fun r =>
      { r with url := r.url.withPair "sinceTime" (toString time) } := by
  unfold request? payloadUrl?
  simp only [Option.map_map]
  rfl

/-! ### One fetch -/

/-- The network when the base has been asked. -/
def askBase (f : Fetcher) (since : Option Nat) (n : Network) : Network :=
  { n with asked := n.asked ++ f.sent f.base since }

/-- There is a fallback, and the base fails without refusing the key. -/
def FallsBackTo (f : Fetcher) (fallback : Url) (since : Option Nat) (n : Network) : Prop :=
  f.fallback = some fallback ∧
    ∃ failure, f.answer f.base since n = .error failure ∧ failure ≠ .unauthorized

theorem fetch_of_isUnauthorized (h : f.isUnauthorized = true) (since : Option Nat) (n : Network) :
    f.fetch since n = ((.error .unauthorized, f), n) := by
  unfold fetch
  rw [if_pos h]
  rfl

theorem fetch_of_fallsBackTo {fallback : Url} (h : f.isUnauthorized = false)
    (hfallback : f.FallsBackTo fallback since n) :
    let answer := f.answer fallback since (f.askBase since n)
    f.fetch since n = ((answer, { f with isUnauthorized := refuses answer }),
      { n with asked := n.asked ++ f.sent f.base since ++ f.sent fallback since }) := by
  obtain ⟨hsome, failure, hfails, hne⟩ := hfallback
  have hbase : f.fetchFrom f.base since n = (.error failure, f.askBase since n) := by
    rw [fetchFrom_eq, hfails]
    rfl
  have hthen := f.fetchFrom_eq fallback since (f.askBase since n)
  generalize f.answer fallback since (f.askBase since n) = answer at hthen ⊢
  unfold fetch
  simp only [h, Bool.false_eq_true, if_false]
  rw [bind_apply, hbase, hsome]
  cases failure with
  | unauthorized => exact absurd rfl hne
  | _ =>
    dsimp only
    rw [bind_apply, hthen]
    rfl

theorem fetch_of_forall_not_fallsBackTo (h : f.isUnauthorized = false)
    (hnot : ∀ fallback, ¬ f.FallsBackTo fallback since n) :
    let answer := f.answer f.base since n
    f.fetch since n =
      ((answer, { f with isUnauthorized := refuses answer }), f.askBase since n) := by
  have hbase : f.fetchFrom f.base since n = (f.answer f.base since n, f.askBase since n) :=
    f.fetchFrom_eq f.base since n
  unfold fetch
  simp only [h, Bool.false_eq_true, if_false]
  rw [bind_apply, hbase]
  cases hanswer : f.answer f.base since n with
  | ok body => rfl
  | error failure =>
    by_cases hrefused : failure = .unauthorized
    · rw [hrefused]
      rfl
    · cases hfallback : f.fallback with
      | none => cases failure <;> rfl
      | some fallback => exact absurd ⟨hfallback, failure, hanswer, hrefused⟩ (hnot fallback)

/-! ### Fetches in sequence -/

/-- A fetcher at work. -/
structure Session where
  fetcher : Fetcher
  network : Network

namespace Session

/-- Ask for the payload, or for the changes since a time. -/
def fetch (s : Session) (since : Option Nat) : Except Failure String × Session :=
  let ((result, fetcher), network) := s.fetcher.fetch since s.network
  (result, { fetcher, network })

/-- Fetch several times in sequence. -/
abbrev after (s : Session) (sinces : List (Option Nat)) : Session :=
  sinces.foldl (fun s since => (s.fetch since).2) s

/-- One of the servers that a fetch asks refuses the key. -/
def IsRefused (s : Session) (since : Option Nat) : Prop :=
  s.fetcher.isUnauthorized = false ∧
    (s.fetcher.IsRefusedBy s.fetcher.base since s.network ∨
      ∃ fallback, s.fetcher.FallsBackTo fallback since s.network ∧
        s.fetcher.IsRefusedBy fallback since (s.fetcher.askBase since s.network))

/-- A fetch goes as agreed. -/
structure Fetches (s : Session) (since : Option Nat) : Prop where
  /-- Once the key has been refused, nothing is asked. -/
  ofUnauthorized : s.fetcher.isUnauthorized = true → s.fetch since = (.error .unauthorized, s)
  /-- The base is asked alone. -/
  ofBase : s.fetcher.isUnauthorized = false →
    (∀ fallback, ¬ s.fetcher.FallsBackTo fallback since s.network) →
    (s.fetch since).1 = s.fetcher.answer s.fetcher.base since s.network ∧
      (s.fetch since).2.network.asked =
        s.network.asked ++ s.fetcher.sent s.fetcher.base since
  /-- The base is asked, and then the fallback. -/
  ofFallback : s.fetcher.isUnauthorized = false →
    ∀ fallback, s.fetcher.FallsBackTo fallback since s.network →
    (s.fetch since).1 =
        s.fetcher.answer fallback since (s.fetcher.askBase since s.network) ∧
      (s.fetch since).2.network.asked = s.network.asked ++
        s.fetcher.sent s.fetcher.base since ++ s.fetcher.sent fallback since
  /-- A refusal is what the fetch comes to. -/
  ofRefusal : s.IsRefused since → (s.fetch since).1 = .error .unauthorized
  /-- The key counts as refused from the first refusal on. -/
  unauthorized : (s.fetch since).2.fetcher.isUnauthorized = true ↔
    s.fetcher.isUnauthorized = true ∨ s.IsRefused since
  /-- Nothing else is remembered of a fetch. -/
  settings : (s.fetch since).2.fetcher =
    { s.fetcher with isUnauthorized := (s.fetch since).2.fetcher.isUnauthorized }
  server : (s.fetch since).2.network.response? = s.network.response?

variable {s : Session} {since : Option Nat}

theorem isRefused_iff_of_fallsBackTo {fallback : Url} (hs : s.fetcher.isUnauthorized = false)
    (h : s.fetcher.FallsBackTo fallback since s.network) :
    s.IsRefused since ↔
      s.fetcher.IsRefusedBy fallback since (s.fetcher.askBase since s.network) := by
  obtain ⟨hsome, failure, hfails, hne⟩ := h
  constructor
  · rintro ⟨-, hbase | ⟨fallback', ⟨hsome', -⟩, hrefused⟩⟩
    · have hrefuses := Fetcher.answer_eq_unauthorized_iff.2 hbase
      exact absurd (Except.error.inj (hfails.symm.trans hrefuses)) hne
    · cases hsome.symm.trans hsome'
      exact hrefused
  · exact fun hrefused => ⟨hs, .inr ⟨fallback, ⟨hsome, failure, hfails, hne⟩, hrefused⟩⟩

theorem isRefused_iff_of_forall_not_fallsBackTo (hs : s.fetcher.isUnauthorized = false)
    (h : ∀ fallback, ¬ s.fetcher.FallsBackTo fallback since s.network) :
    s.IsRefused since ↔ s.fetcher.IsRefusedBy s.fetcher.base since s.network := by
  constructor
  · rintro ⟨-, hbase | ⟨fallback, hfallback, -⟩⟩
    · exact hbase
    · exact absurd hfallback (h fallback)
  · exact fun hrefused => ⟨hs, .inl hrefused⟩

theorem fetches_of_isUnauthorized (hs : s.fetcher.isUnauthorized = true) : s.Fetches since := by
  have hfetch : s.fetch since = (.error .unauthorized, s) := by
    unfold fetch
    rw [Fetcher.fetch_of_isUnauthorized hs]
  have hnot : ¬ s.fetcher.isUnauthorized = false := by
    rw [hs]
    decide
  refine ⟨fun _ => hfetch, fun h => absurd h hnot, fun h => absurd h hnot,
    fun h => absurd h.1 hnot, ?_, ?_, ?_⟩ <;> rw [hfetch]
  exact ⟨.inl, fun _ => hs⟩

theorem fetch_eq_of_fetch {result : Except Failure String} {f : Fetcher} {n : Network}
    (h : s.fetcher.fetch since s.network = ((result, f), n)) :
    s.fetch since = (result, { fetcher := f, network := n }) := by
  unfold fetch
  rw [h]

/-- What a fetch remembers, if the answer that it comes to is that of the server asked last. -/
theorem unauthorized_iff_of_fetch {server : Url} {n n' : Network}
    (hs : s.fetcher.isUnauthorized = false)
    (hfetch : s.fetcher.fetch since s.network =
      ((s.fetcher.answer server since n,
        { s.fetcher with
          isUnauthorized := Fetcher.refuses (s.fetcher.answer server since n) }), n'))
    (hrefused : s.IsRefused since ↔ s.fetcher.IsRefusedBy server since n) :
    (s.IsRefused since → (s.fetch since).1 = .error .unauthorized) ∧
      ((s.fetch since).2.fetcher.isUnauthorized = true ↔
        s.fetcher.isUnauthorized = true ∨ s.IsRefused since) ∧
      (s.fetch since).2.fetcher =
        { s.fetcher with isUnauthorized := (s.fetch since).2.fetcher.isUnauthorized } := by
  rw [fetch_eq_of_fetch hfetch, hs, hrefused]
  dsimp only
  refine ⟨Fetcher.answer_eq_unauthorized_iff.2, ?_, rfl⟩
  rw [Fetcher.refuses_answer]
  simp

/-- Every fetch goes as agreed. -/
theorem fetches (s : Session) (since : Option Nat) : s.Fetches since := by
  cases hs : s.fetcher.isUnauthorized with
  | true => exact fetches_of_isUnauthorized hs
  | false =>
    have hnot : ¬ s.fetcher.isUnauthorized = true := by
      rw [hs]
      decide
    by_cases h : ∃ fallback, s.fetcher.FallsBackTo fallback since s.network
    · obtain ⟨fallback, h⟩ := h
      have hfetch := Fetcher.fetch_of_fallsBackTo hs h
      obtain ⟨hrefusal, hunauthorized, hsettings⟩ :=
        unauthorized_iff_of_fetch hs hfetch (isRefused_iff_of_fallsBackTo hs h)
      refine ⟨fun h => absurd h hnot, fun _ hnone => absurd h (hnone fallback), ?_, hrefusal,
        hunauthorized, hsettings, ?_⟩
      · intro _ fallback' h'
        cases h.1.symm.trans h'.1
        rw [fetch_eq_of_fetch hfetch]
        dsimp only
        exact ⟨rfl, rfl⟩
      · rw [fetch_eq_of_fetch hfetch]
    · have hnone := not_exists.1 h
      have hfetch := Fetcher.fetch_of_forall_not_fallsBackTo hs hnone
      obtain ⟨hrefusal, hunauthorized, hsettings⟩ :=
        unauthorized_iff_of_fetch hs hfetch (isRefused_iff_of_forall_not_fallsBackTo hs hnone)
      refine ⟨fun h => absurd h hnot, fun _ _ => ?_,
        fun _ fallback h' => absurd h' (hnone fallback), hrefusal, hunauthorized, hsettings, ?_⟩
      · rw [fetch_eq_of_fetch hfetch]
        dsimp only [Fetcher.askBase]
        exact ⟨rfl, rfl⟩
      · rw [fetch_eq_of_fetch hfetch]
        rfl

/-- The fallback is asked exactly if the base fails without refusing the key. -/
theorem Fetches.asked_iff (h : s.Fetches since) (hs : s.fetcher.isUnauthorized = false)
    {fallback : Url} (hfallback : s.fetcher.fallback = some fallback) {r : HttpRequest}
    (hr : s.fetcher.request? fallback since = some r) :
    (s.fetch since).2.network.asked = s.network.asked ++ s.fetcher.sent s.fetcher.base since ++
        [{ client := s.fetcher.client, request := r }] ↔
      ∃ failure, s.fetcher.answer s.fetcher.base since s.network = .error failure ∧
        failure ≠ .unauthorized := by
  constructor
  · intro hasked
    by_contra hnot
    have hnone (other : Url) : ¬ s.fetcher.FallsBackTo other since s.network := fun h => hnot h.2
    rw [(h.ofBase hs hnone).2, List.self_eq_append_right] at hasked
    cases hasked
  · intro hfails
    rw [(h.ofFallback hs fallback ⟨hfallback, hfails⟩).2, Fetcher.sent_of_request? hr]

/-! ### Refusals -/

theorem after_of_isUnauthorized (hs : s.fetcher.isUnauthorized = true)
    (sinces : List (Option Nat)) : s.after sinces = s := by
  induction sinces with
  | nil => rfl
  | cons since rest ih =>
    show (s.fetch since).2.after rest = s
    rw [(s.fetches since).ofUnauthorized hs]
    exact ih

/-- A server that refuses the key is the last one that is asked: that fetch and all later ones come
to the refusal. -/
theorem after_of_isRefused {earlier : List (Option Nat)} (h : (s.after earlier).IsRefused since)
    (later : List (Option Nat)) :
    s.after (earlier ++ since :: later) = s.after (earlier ++ [since]) ∧
      (s.after (earlier ++ [since])).fetcher.isUnauthorized = true := by
  have hrefused : (s.after (earlier ++ [since])).fetcher.isUnauthorized = true := by
    rw [after, List.foldl_concat]
    exact ((s.after earlier).fetches since).unauthorized.2 (.inr h)
  refine ⟨?_, hrefused⟩
  rw [List.append_cons, after, List.foldl_append]
  exact after_of_isUnauthorized hrefused later

/-- Settings of a fetcher stay, and it takes the key for refused only if it was. -/
theorem after_settings (s : Session) (sinces : List (Option Nat)) :
    (s.after sinces).fetcher =
        { s.fetcher with isUnauthorized := (s.after sinces).fetcher.isUnauthorized } ∧
      ((s.after sinces).fetcher.isUnauthorized = true ↔ s.fetcher.isUnauthorized = true ∨
        ∃ earlier since later, sinces = earlier ++ since :: later ∧
          (s.after earlier).IsRefused since) := by
  induction sinces using List.reverseRecOn with
  | nil => exact ⟨rfl, .inl, fun h => h.elim id fun ⟨_, _, _, hnil, _⟩ => by simp at hnil⟩
  | append_singleton sinces since ih =>
    obtain ⟨hsettings, hunauthorized⟩ := ih
    have hfetches := (s.after sinces).fetches since
    refine ⟨?_, ?_, ?_⟩
    · rw [after, List.foldl_concat, hfetches.settings, hsettings]
    · intro h
      rw [after, List.foldl_concat, hfetches.unauthorized, hunauthorized] at h
      rcases h with (h | ⟨earlier, since', later, rfl, h⟩) | h
      · exact .inl h
      · exact .inr ⟨earlier, since', later ++ [since], by simp, h⟩
      · exact .inr ⟨sinces, since, [], rfl, h⟩
    · rintro (h | ⟨earlier, since', later, heq, h⟩)
      · rw [after_of_isUnauthorized h]
        exact h
      · obtain ⟨hafter, hrefused⟩ := after_of_isRefused h later
        rw [heq, hafter]
        exact hrefused

/-- A fetch asks nothing but the base and the fallback. -/
theorem exists_asked (s : Session) (since : Option Nat) : ∃ asked : List SentRequest,
    (s.fetch since).2.network.asked = s.network.asked ++ asked ∧
      (s.fetcher.isUnauthorized = true → asked = []) ∧
      ∀ w ∈ asked, ∃ server ∈ s.fetcher.base :: s.fetcher.fallback.toList,
        w ∈ s.fetcher.sent server since := by
  have hfetches := s.fetches since
  cases hs : s.fetcher.isUnauthorized with
  | true =>
    refine ⟨[], ?_, fun _ => rfl, fun _ hw => absurd hw List.not_mem_nil⟩
    rw [hfetches.ofUnauthorized hs, List.append_nil]
  | false =>
    by_cases h : ∃ fallback, s.fetcher.FallsBackTo fallback since s.network
    · obtain ⟨fallback, h⟩ := h
      refine ⟨s.fetcher.sent s.fetcher.base since ++ s.fetcher.sent fallback since, ?_, nofun,
        fun w hw => ?_⟩
      · rw [(hfetches.ofFallback hs fallback h).2, List.append_assoc]
      · rcases List.mem_append.1 hw with hw | hw
        · exact ⟨_, List.mem_cons_self, hw⟩
        · exact ⟨fallback, List.mem_cons_of_mem _ (Option.mem_toList.2 h.1), hw⟩
    · exact ⟨_, (hfetches.ofBase hs (not_exists.1 h)).2, nofun,
        fun w hw => ⟨_, List.mem_cons_self, hw⟩⟩

end Session

end Fetcher

end Rollout

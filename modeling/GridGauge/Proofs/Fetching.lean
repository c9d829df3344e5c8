import GridGauge.Hub.Fetch

/-!
# What comes of a fetch

All that a fetch can come to (`Fetched`), each with what the address and the
reply have to be for it. Whoever asks what follows from a fetch goes through
these cases (`Fetcher.fetched`), and since no two of them go together, each
result has one cause (`Fetcher.fetch_eq_iff`).

So it can be told from the result what has happened to the request
(`Fetcher.fetch_tells_reply`). A body has come with success from a server; a
failure to reach the hub has a status if the hub has answered and none if the
network has failed; and what else went wrong has been passed on as it was. In
each case one request has been made, unless there was no address to make it
to.
-/

namespace GridGauge.Hub

/-- A fetch of a path comes to this result. -/
inductive Fetched (f : Fetcher) (server : Server) (path : Text) : Except FetchError Bytes → Prop
  | unreadable {e : Url.Error} : Url.ofText (f.urlFor path) = .error e →
      Fetched f server path (.error (.badUrl e))
  | network {u : Url} {fault : NetworkFault} {message : Text} :
      Url.ofText (f.urlFor path) = .ok u → server u.requestPath = .network fault message →
      Fetched f server path (.error (.transport (f.urlFor path)
        (if message.isEmpty then fault.name else message) none))
  | mishap {u : Url} {kind : Mishap} {message : Text} :
      Url.ofText (f.urlFor path) = .ok u → server u.requestPath = .mishap kind message →
      Fetched f server path (.error (.mishap kind message))
  | noServer {u : Url} {status : Nat} {bytes : Bytes} :
      Url.ofText (f.urlFor path) = .ok u → server u.requestPath = .answer status bytes →
      u.isAbsolute = false → Fetched f server path (.error (.noServer u.pathText))
  | refused {u : Url} {status : Nat} {bytes : Bytes} :
      Url.ofText (f.urlFor path) = .ok u → server u.requestPath = .answer status bytes →
      u.isAbsolute = true → ¬(200 ≤ status ∧ status ≤ 299) →
      Fetched f server path (.error (.transport (f.urlFor path)
        ("HTTP " ++ Text.ofNat status) (some status)))
  | body {u : Url} {status : Nat} {bytes : Bytes} :
      Url.ofText (f.urlFor path) = .ok u → server u.requestPath = .answer status bytes →
      u.isAbsolute = true → 200 ≤ status ∧ status ≤ 299 → Fetched f server path (.ok bytes)

theorem Fetcher.fetched (f : Fetcher) (server : Server) (path : Text) :
    Fetched f server path (f.fetch server path).1 := by
  rw [Fetcher.fetch]
  cases hu : Url.ofText (f.urlFor path) with
  | error e => exact .unreadable hu
  | ok u =>
    simp only [Fetcher.outcome]
    cases hr : server u.requestPath with
    | network fault message => exact .network hu hr
    | mishap kind message => exact .mishap hu hr
    | answer status bytes =>
      cases ha : u.isAbsolute with
      | false => exact .noServer hu hr ha
      | true =>
        simp only [Bool.not_true, Bool.false_eq_true, ↓reduceIte]
        by_cases hs : 200 ≤ status ∧ status ≤ 299
        · rw [if_pos hs]
          exact .body hu hr ha hs
        · rw [if_neg hs]
          exact .refused hu hr ha hs

/-- A fetch comes to nothing else. -/
theorem Fetcher.fetch_eq_iff {f : Fetcher} {server : Server} {path : Text}
    {r : Except FetchError Bytes} : (f.fetch server path).1 = r ↔ Fetched f server path r := by
  refine ⟨fun h => h ▸ f.fetched server path, fun h => ?_⟩
  cases h with
  | unreadable hu => rw [fetch, hu]
  | network hu hr | mishap hu hr => simp only [fetch, outcome, hu, hr]
  | noServer hu hr ha => simp [fetch, outcome, hu, hr, ha]
  | refused hu hr ha hs | body hu hr ha hs => simp [fetch, outcome, hu, hr, ha, hs]

theorem NetworkFault.name_ne_nil (fault : NetworkFault) : fault.name ≠ [] := by
  cases fault with
  | other name isNamed => exact isNamed
  | _ => exact List.cons_ne_nil _ _

/-- There is always a reason for a failure of the network. -/
theorem NetworkFault.reason_ne_nil (fault : NetworkFault) (message : Text) :
    (if message.isEmpty then fault.name else message) ≠ [] := by
  split
  · exact fault.name_ne_nil
  · next h => exact fun hnil => h (List.isEmpty_iff.2 hnil)

/-- What a fetch comes to can be compared. -/
instance decidableEqExcept {ε α : Type} [DecidableEq ε] [DecidableEq α] :
    DecidableEq (Except ε α)
  | .ok a, .ok b => decidable_of_iff (a = b) (by rw [Except.ok.injEq])
  | .error a, .error b => decidable_of_iff (a = b) (by rw [Except.error.injEq])
  | .ok _, .error _ | .error _, .ok _ => isFalse nofun

namespace Fetcher

variable (f : Fetcher) (server : Server) (path : Text)

/-- Of an address that cannot be read nothing is asked. Of any other there is one request, and what
    the fetch comes to tells which reply it has got: a body if that was a success of a server, a
    failure with the status if it was another answer of a server, and a failure without one if it
    was a fault of the network, for a reason that is never empty. An answer that comes of no server
    is not made use of, and all else is passed on. -/
theorem fetch_tells_reply :
    (∀ e, Url.ofText (f.urlFor path) = .error e →
      f.fetch server path = (.error (.badUrl e), [])) ∧
    ∀ u, Url.ofText (f.urlFor path) = .ok u →
      (f.fetch server path).2 = [⟨u.requestPath, f.timeout⟩] ∧
      (∀ bytes, (f.fetch server path).1 = .ok bytes ↔
        u.isAbsolute = true ∧ ∃ status, (200 ≤ status ∧ status ≤ 299) ∧
          server u.requestPath = .answer status bytes) ∧
      (∀ url reason status, (f.fetch server path).1 = .error (.transport url reason (some status)) ↔
        u.isAbsolute = true ∧ url = f.urlFor path ∧ reason = "HTTP " ++ Text.ofNat status ∧
          ¬(200 ≤ status ∧ status ≤ 299) ∧ ∃ bytes, server u.requestPath = .answer status bytes) ∧
      (∀ url reason, (f.fetch server path).1 = .error (.transport url reason none) ↔
        url = f.urlFor path ∧ reason ≠ [] ∧ ∃ fault message,
          server u.requestPath = .network fault message ∧
            reason = if message.isEmpty then fault.name else message) ∧
      (∀ kind message, (f.fetch server path).1 = .error (.mishap kind message) ↔
        server u.requestPath = .mishap kind message) ∧
      ∀ p, (f.fetch server path).1 = .error (.noServer p) ↔
        u.isAbsolute = false ∧ p = u.pathText ∧
          ∃ status bytes, server u.requestPath = .answer status bytes := by
  refine ⟨fun e he => by rw [fetch, he], fun u hu => ?_⟩
  -- The address is read in one way only, so that all causes speak of the same request.
  have same {v : Url} (hv : Url.ofText (f.urlFor path) = .ok v) : v = u :=
    Except.ok.inj (hv.symm.trans hu)
  simp only [fetch_eq_iff]
  refine ⟨by rw [fetch, hu], fun bytes => ⟨fun h => ?_, ?_⟩,
    fun url reason status => ⟨fun h => ?_, ?_⟩, fun url reason => ⟨fun h => ?_, ?_⟩,
    fun kind message => ⟨fun h => ?_, .mishap hu⟩, fun p => ⟨fun h => ?_, ?_⟩⟩
  · cases h with
    | body hv hr ha hs => exact same hv ▸ ⟨ha, _, hs, hr⟩
  · rintro ⟨ha, status, hs, hr⟩
    exact .body hu hr ha hs
  · cases h with
    | refused hv hr ha hs => exact same hv ▸ ⟨ha, rfl, rfl, hs, _, hr⟩
  · rintro ⟨ha, rfl, rfl, hs, bytes, hr⟩
    exact .refused hu hr ha hs
  · cases h with
    | @network _ fault message hv hr =>
      exact same hv ▸ ⟨rfl, fault.reason_ne_nil message, fault, message, hr, rfl⟩
  · rintro ⟨rfl, -, fault, message, hr, rfl⟩
    exact .network hu hr
  · cases h with
    | mishap hv hr => exact same hv ▸ hr
  · cases h with
    | noServer hv hr ha => exact same hv ▸ ⟨ha, rfl, _, _, hr⟩
  · rintro ⟨ha, rfl, status, bytes, hr⟩
    exact .noServer hu hr ha

/-- A redirect is a failure with its status, a fault without a message goes by its name, and under a
    base whose port is no number nothing is asked. -/
theorem redirect_and_fault_told :
    let f : Fetcher := ⟨"http://hub.test:4444", .zero⟩
    let moved : Server := fun _ => .answer 302 (Utf8.encode "elsewhere")
    let gone : Server := fun _ => .network .connectError []
    (f.fetch moved "/status").2 = [⟨"/status", .zero⟩] ∧
      (f.fetch moved "/status").1
        = .error (.transport "http://hub.test:4444/status" "HTTP 302" (some 302)) ∧
      (f.fetch gone "/status").1
        = .error (.transport "http://hub.test:4444/status" "ConnectError" none) ∧
      Fetcher.fetch ⟨"http://hub.test:x", .zero⟩ moved "/status"
        = (.error (.badUrl (.port "x")), []) := by
  intro f moved gone
  have read : Url.ofText (f.urlFor "/status") = .ok ⟨true, "/status", none⟩ := by decide +kernel
  obtain ⟨hcalls, -, hstatus, -⟩ := (fetch_tells_reply f moved "/status").2 _ read
  obtain ⟨-, -, -, hfault, -⟩ := (fetch_tells_reply f gone "/status").2 _ read
  refine ⟨hcalls, (hstatus _ _ 302).2 ⟨rfl, ?_, ?_, by decide, _, rfl⟩,
    (hfault _ _).2 ⟨?_, List.cons_ne_nil _ _, .connectError, [], rfl, rfl⟩,
    (fetch_tells_reply _ moved "/status").1 _ ?_⟩
  all_goals decide +kernel

/-- An address that can be read may have no server, and then a success is not made use of; and one
    that cannot be read may be no worse than that half a surrogate pair stands in its path. -/
theorem answer_without_server_lost :
    let server : Server := fun _ => .answer 200 (Utf8.encode "ok")
    (∃ u, Url.ofText (Fetcher.urlFor ⟨"hub.test", .zero⟩ "/status") = .ok u ∧
      server u.requestPath = .answer 200 (Utf8.encode "ok")) ∧
    Fetcher.fetch ⟨"hub.test", .zero⟩ server "/status"
      = (.error (.noServer "/hub.test/status"), [⟨"/hub.test/status", .zero⟩]) ∧
    Fetcher.fetch ⟨"http://hub.test", .zero⟩ server [0x2F, 0xD800]
      = (.error (.badUrl (.surrogate 0xD800)), []) := by
  refine ⟨⟨⟨false, "/hub.test/status", none⟩, by decide +kernel, rfl⟩, ?_, ?_⟩
  all_goals decide +kernel

end Fetcher

end GridGauge.Hub

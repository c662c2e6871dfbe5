import SoloScript.Http.Fetch
import SoloScript.Proofs.Build.Diagnosis
import SoloScript.Proofs.Http.Exchange
import SoloScript.Proofs.Http.Url
import SoloScript.Proofs.Text.Decoding

/-!
# What is fetched over a network

However a network answers, and whatever its redirects mean, a fetch comes to its end after a few
requests.  What it brings is of the kind that its source promises, wherever the redirects have led.
-/

namespace SoloScript.Http

open Text

variable {network : Network} {source : Asset.Source} {url target next last : Url}
  {response : Response} {fault : Fault}

/-- Over ten redirects at most, a location leads to an answer that stands. -/
def Reaches (network : Network) (target : Url) (response : Response) : Prop :=
  ∃ n last, n ≤ 10 ∧ Leads network n target last ∧ Answers network last response

/-- What a fetch of `source` comes to, which begins at `target`. -/
structure Follows (network : Network) (source : Asset.Source) (target : Url) : Prop where
  /-- It makes eleven requests at most, and their answers decide on what it comes to. -/
  requests : ∃ others : List Url, others.length ≤ 10 ∧
    (target :: others).IsChain (Redirects network) ∧
    ∀ network' : Network, network'.reading = network.reading →
      (∀ asked ∈ target :: others, network'.answer asked = network.answer asked) →
      fetch network' source = fetch network source
  refused : ∀ response, Reaches network target response →
    ¬(200 ≤ response.status ∧ response.status < 300) →
    (fetch network source).outcome = .error (.status source response.status)
  binary : ∀ response, Reaches network target response →
    200 ≤ response.status → response.status < 300 → response.missing = 0 →
    Asset.Kind.classify source.url = .binary →
    (fetch network source).outcome = .ok (.binary response.body)
  text : ∀ response, Reaches network target response →
    200 ≤ response.status → response.status < 300 → response.missing = 0 →
    Asset.Kind.classify source.url = .text →
    (fetch network source).outcome = .ok (.text (Utf8.decodeLossy response.body)) ∧
      ∀ content, response.body = Utf8.encode content →
        (fetch network source).outcome = .ok (.text content)
  /-- An eleventh redirect is one too many, wherever it leads. -/
  endless : ∀ last next, Leads network 10 target last → Points network last next →
    (fetch network source).outcome = .error (.fetch source (.tooManyRedirects last))
  /-- A redirect off the web is not followed, nor is one whose text causes a fault. -/
  astray : ∀ n last, n ≤ 10 → Leads network n target last → Strays network last →
    ∃ fault, (fetch network source).outcome = .error (.fetch source fault)
  /-- Nothing else is an asset or a status. -/
  otherwise : (∀ response, Reaches network target response →
      200 ≤ response.status ∧ response.status < 300 ∧ response.missing ≠ 0) →
    ∃ fault, (fetch network source).outcome = .error (.fetch source fault)

/-! ## Requests -/

/-- A location of the web is asked for where a request can name it. -/
theorem requested_eq {text : String} (read : Url.ofText? text = .ok url)
    (web : url.scheme = "http") :
    requested text = if url.withoutCredentials.isRequestable then .ok url.withoutCredentials
      else .error (.badTarget url.withoutCredentials) := by
  have host : url.hasHost = true := Url.hasHost_of_ofText? read (by rw [web]; decide)
  have fetchable : url.withoutCredentials.isFetchable = true := by
    show (url.scheme = "http" || url.scheme = "https") = true
    rw [web]
    decide
  rw [requested, read]
  simp only [host, fetchable]
  cases url.withoutCredentials.isRequestable <;> rfl

theorem outcome_of_refused (refused : requested source.url = .error fault) :
    (fetch network source).outcome = .error (.fetch source fault) := by
  rw [fetch, refused]

section Asks

variable (asks : requested source.url = .ok target)

include asks

theorem fetch_of_ok (met : exchange network target = .ok response) :
    fetch network source = ⟨1, assetOf source response⟩ := by
  rw [fetch, asks]
  simp only [met]

theorem outcome_of_error (met : exchange network target = .error fault) :
    (fetch network source).outcome = .error (.fetch source fault) := by
  rw [fetch, asks]
  simp only [met]

end Asks

/-! ## Assets of a response -/

theorem assetOf_of_not_isSuccess (other : ¬response.isSuccess = true) :
    assetOf source response = .error (.status source response.status) := by
  rw [assetOf, if_neg other]

theorem assetOf_of_missing (success : response.isSuccess = true) (missing : response.missing ≠ 0) :
    assetOf source response = .error (.fetch source .incompleteBody) := by
  rw [assetOf, if_pos success, Response.content, if_neg missing]

theorem assetOf_of_binary (success : response.isSuccess = true) (complete : response.missing = 0)
    (kind : Asset.Kind.classify source.url = .binary) :
    assetOf source response = .ok (.binary response.body) := by
  rw [assetOf, if_pos success, Response.content, if_pos complete, Asset.Source.kind, kind]

theorem assetOf_of_text (success : response.isSuccess = true) (complete : response.missing = 0)
    (kind : Asset.Kind.classify source.url = .text) :
    assetOf source response = .ok (.text (Utf8.decodeLossy response.body)) := by
  rw [assetOf, if_pos success, Response.content, if_pos complete, Asset.Source.kind, kind]

theorem isSuccess_iff : response.isSuccess = true ↔ 200 ≤ response.status ∧ response.status < 300 := by
  simp [Response.isSuccess]

/-! ## Fetches -/

/-- What an exchange comes to is told where up to ten redirects have led. -/
theorem exchange_of_leads {n : Nat} (within : n ≤ 10) (leads : Leads network n target last) :
    ∃ redirects, exchange network target = exchangeFrom network target redirects last := by
  obtain ⟨redirects, split⟩ := Nat.exists_eq_add_of_le' within
  refine ⟨redirects, ?_⟩
  rw [exchange, maxRedirects, split, exchangeFrom_of_leads leads]

theorem Reaches.exchange_eq (reaches : Reaches network target response) :
    exchange network target = .ok response := by
  obtain ⟨n, last, within, leads, answers⟩ := reaches
  obtain ⟨redirects, met⟩ := exchange_of_leads within leads
  rw [met, exchangeFrom_of_answers answers]

section Asks

variable (asks : requested source.url = .ok target)

include asks

theorem outcome_of_reaches (reaches : Reaches network target response) :
    (fetch network source).outcome = assetOf source response := by
  rw [fetch_of_ok asks reaches.exchange_eq]

theorem exists_fault_of_leads_strays {n : Nat} (within : n ≤ 10)
    (leads : Leads network n target last) (strays : Strays network last) :
    ∃ fault, (fetch network source).outcome = .error (.fetch source fault) := by
  obtain ⟨redirects, met⟩ := exchange_of_leads within leads
  obtain ⟨fault, failed⟩ := exists_fault_of_strays strays target redirects
  exact ⟨fault, outcome_of_error asks (met.trans failed)⟩

theorem outcome_of_leads_points (leads : Leads network 10 target last)
    (points : Points network last next) :
    (fetch network source).outcome = .error (.fetch source (.tooManyRedirects last)) :=
  outcome_of_error asks (exchangeFrom_of_leads_points leads points target)

/-- An exchange that comes to no answer. -/
theorem exists_fault_of_not_reaches (unreached : ∀ response, ¬Reaches network target response) :
    ∃ fault, (fetch network source).outcome = .error (.fetch source fault) := by
  rcases leads_cases network 10 target with ⟨n, last, within, leads, ends⟩ |
    ⟨last, next, leads, more⟩
  · cases ends with
    | answers answers => exact absurd ⟨n, last, within, leads, answers⟩ (unreached _)
    | silence silent =>
      obtain ⟨redirects, met⟩ := exchange_of_leads within leads
      exact ⟨_, outcome_of_error asks (met.trans (exchangeFrom_of_silence silent target _))⟩
    | strays strays => exact exists_fault_of_leads_strays asks within leads strays
  · exact ⟨_, outcome_of_leads_points asks leads more.1⟩

theorem follows_of_asks (network : Network) : Follows network source target where
  requests := by
    obtain ⟨others, within, chain, agree⟩ := exists_requests network target 10 target
    refine ⟨others, within, chain, fun network' reading same ↦ ?_⟩
    have same : exchange network' target = exchange network target := agree network' reading same
    rw [fetch, fetch, asks]
    simp only [same]
  refused response reaches other := by
    rw [outcome_of_reaches asks reaches]
    exact assetOf_of_not_isSuccess (mt isSuccess_iff.1 other)
  binary response reaches low high complete kind := by
    rw [outcome_of_reaches asks reaches]
    exact assetOf_of_binary (isSuccess_iff.2 ⟨low, high⟩) complete kind
  text response reaches low high complete kind := by
    rw [outcome_of_reaches asks reaches,
      assetOf_of_text (isSuccess_iff.2 ⟨low, high⟩) complete kind]
    refine ⟨rfl, fun content body ↦ ?_⟩
    rw [body, Utf8.decodeLossy_encode]
  endless _ _ leads points := outcome_of_leads_points asks leads points
  astray _ _ within leads strays := exists_fault_of_leads_strays asks within leads strays
  otherwise incomplete := by
    by_cases reached : ∃ response, Reaches network target response
    · obtain ⟨response, reaches⟩ := reached
      obtain ⟨low, high, missing⟩ := incomplete response reaches
      rw [outcome_of_reaches asks reaches]
      exact ⟨_, assetOf_of_missing (isSuccess_iff.2 ⟨low, high⟩) missing⟩
    · exact exists_fault_of_not_reaches asks (not_exists.1 reached)

end Asks

/-! ## Kinds -/

theorem kind_of_assetOf {asset : Asset} (h : assetOf source response = .ok asset) :
    asset.kind = source.kind := by
  rw [assetOf] at h
  split at h
  · split at h
    · cases h
    · split at h
      · rename_i kind
        cases h
        exact kind.symm
      · rename_i kind
        cases h
        exact kind.symm
  · cases h

/-- An asset that comes over a network is of the kind that its source promises. -/
theorem kind_of_fetch {asset : Asset} (h : (fetch network source).outcome = .ok asset) :
    asset.kind = source.kind := by
  rw [fetch] at h
  split at h
  · cases h
  · split at h
    · cases h
    · exact kind_of_assetOf h

theorem resolve_ne_wrongKind (network : Network) (sources : List Asset.Source) (name : String)
    (kind : Asset.Kind) :
    (resolve (sources.map fun source ↦ (source, fetch network source))).result ≠
      .error (.wrongKind name kind) := by
  intro failed
  obtain ⟨fetched, mem, fails⟩ := exists_failsWith_of_resolve failed
  obtain ⟨source, -, rfl⟩ := List.mem_map.1 mem
  have refused := Resolution.failsWith_iff.1 fails
  cases met : (fetch network source).outcome with
  | error failure =>
    rw [met] at refused
    rcases honest_fetch network source failure met with ⟨_, _, rfl⟩ | ⟨_, _, rfl⟩ <;> cases refused
  | ok asset =>
    rw [met, Resolution.accept, Outcome.ok_bind, if_pos (kind_of_fetch met)] at refused
    cases refused

/-! ## One text everywhere -/

/-- A location on one host. -/
def loopback (path : String) : Url := ⟨"http", some ⟨.none, "[::1]", none⟩, path, none, none⟩

theorem requested_loopback {text : String} (path : String)
    (read : Url.ofText? text = .ok (loopback path))
    (short : (loopback path).render.utf8ByteSize ≤ Url.maxSize) :
    requested text = .ok (loopback path) := by
  rw [requested_eq read rfl, Url.withoutCredentials_of_none rfl,
    Url.isRequestable_of_loopback rfl short, if_pos rfl]

/-- A network that has one text at all locations. -/
def everywhere (content : String) : Network :=
  .ofAnswers fun _ ↦ .ok ⟨200, none, Utf8.encode content, 0⟩

section Everywhere

variable {content : String} (asks : requested source.url = .ok target)

include asks

theorem outcome_of_everywhere :
    (fetch (everywhere content) source).outcome =
      assetOf source ⟨200, none, Utf8.encode content, 0⟩ := by
  have final : 200 ∉ [301, 302, 303, 307, 308] := by decide
  exact outcome_of_reaches asks ⟨0, target, by decide, .here, answers_of_status rfl final⟩

theorem text_of_everywhere (kind : Asset.Kind.classify source.url = .text) :
    (fetch (everywhere content) source).outcome = .ok (.text content) := by
  rw [outcome_of_everywhere asks, assetOf_of_text rfl rfl kind, Utf8.decodeLossy_encode]

theorem binary_of_everywhere (kind : Asset.Kind.classify source.url = .binary) :
    (fetch (everywhere content) source).outcome = .ok (.binary (Utf8.encode content)) := by
  rw [outcome_of_everywhere asks, assetOf_of_binary rfl rfl kind]

end Everywhere

/-! ## All servers -/

/-- What a fetch comes to, for every network and every source with a location of the web.  Where a
request can name the location, redirects are followed from there; else none is made. -/
theorem fetch_over_network (read : Url.ofText? source.url = .ok url) (web : url.scheme = "http") :
    (url.withoutCredentials.isRequestable = true →
      Follows network source url.withoutCredentials) ∧
    (url.withoutCredentials.isRequestable = false → ∀ network',
      (fetch network' source).outcome =
        .error (.fetch source (.badTarget url.withoutCredentials))) ∧
    ∀ (sources : List Asset.Source) (name : String) (kind : Asset.Kind),
      (resolve (sources.map fun source ↦ (source, fetch network source))).result ≠
        .error (.wrongKind name kind) := by
  refine ⟨fun requestable ↦ ?_, fun other network' ↦ ?_, resolve_ne_wrongKind network⟩
  · apply follows_of_asks
    rw [requested_eq read web, if_pos requestable]
  · apply outcome_of_refused
    rw [requested_eq read web, other]
    rfl

/-- A network with redirects: to a location that ends in another way, to one that is too long for
a request, off the web, and in a circle. -/
def fourRedirects : Network := .ofAnswers fun url ↦
  if url.path = "/a.mem" then .ok ⟨302, some "/b.js", [], 0⟩
  else if url.path = "/b.js" then .ok ⟨200, none, [0xff], 0⟩
  else if url.path = "/long" then .ok ⟨302, some (Url.longQuery 65521).render, [], 0⟩
  else if url.path = "/off" then .ok ⟨302, some "ftp://[::1]/b", [], 0⟩
  else .ok ⟨307, some "/c", [], 0⟩

theorem reaches_behind : Reaches fourRedirects (loopback "/a.mem") ⟨200, none, [0xff], 0⟩ := by
  have points : Points fourRedirects (loopback "/a.mem") (loopback "/b.js") :=
    points_ofAnswers_iff.2 ⟨⟨302, some "/b.js", [], 0⟩, "/b.js", rfl, by decide, rfl, rfl,
      Url.isRequestable_of_loopback rfl (by decide)⟩
  have first : Redirects fourRedirects (loopback "/a.mem") (loopback "/b.js") :=
    ⟨points, by decide⟩
  exact ⟨1, loopback "/b.js", by decide, .onward first .here, answers_of_status rfl (by decide)⟩

theorem reaches_redirect :
    Reaches fourRedirects (loopback "/long") ⟨302, some (Url.longQuery 65521).render, [], 0⟩ := by
  refine ⟨0, loopback "/long", by decide, .here, rfl, fun text sends ↦ ?_⟩
  obtain rfl := Option.some.inj sends.location
  have read : (loopback "/long").join? (Url.longQuery 65521).render = .ok (Url.longQuery 65521) := by
    rw [Url.join?_of_loopback (Url.toList_render_longQuery _) (Url.solid_longQuery _),
      Url.ofText?_render_longQuery]
  refine ⟨some (Url.longQuery 65521), ?_, fun next mem ↦ ?_⟩
  · show Except.ok ((loopback "/long").join? (Url.longQuery 65521).render).toOption = _
    rw [read]
    rfl
  · obtain rfl := Option.some.inj mem
    exact Url.isRequestable_longQuery_eq_false (by decide)

theorem strays_off : Strays fourRedirects (loopback "/off") := by
  have points : Points fourRedirects (loopback "/off") { loopback "/b" with scheme := "ftp" } :=
    points_ofAnswers_iff.2 ⟨⟨302, some "ftp://[::1]/b", [], 0⟩, "ftp://[::1]/b", rfl, by decide,
      rfl, rfl, Url.isRequestable_of_loopback rfl (by decide)⟩
  exact .inl ⟨_, points, by decide⟩

theorem redirects_around : Redirects fourRedirects (loopback "/c") (loopback "/c") := by
  have points : Points fourRedirects (loopback "/c") (loopback "/c") :=
    points_ofAnswers_iff.2 ⟨⟨307, some "/c", [], 0⟩, "/c", rfl, by decide, rfl, rfl,
      Url.isRequestable_of_loopback rfl (by decide)⟩
  exact ⟨points, by decide⟩

theorem leads_around (n : Nat) : Leads fourRedirects n (loopback "/c") (loopback "/c") := by
  induction n with
  | zero => exact .here
  | succ n ih => exact .onward redirects_around ih

/-- One binary is fetched behind a redirect; the other redirects end in three ways. -/
theorem binary_behind_redirect :
    (fetch fourRedirects ⟨"m", "http://[::1]/a.mem"⟩).outcome = .ok (.binary [0xff]) ∧
    (fetch fourRedirects ⟨"l", "http://[::1]/long"⟩).outcome =
      .error (.status ⟨"l", "http://[::1]/long"⟩ 302) ∧
    (∃ fault, (fetch fourRedirects ⟨"o", "http://[::1]/off"⟩).outcome =
      .error (.fetch ⟨"o", "http://[::1]/off"⟩ fault)) ∧
    (fetch fourRedirects ⟨"c", "http://[::1]/c"⟩).outcome =
      .error (.fetch ⟨"c", "http://[::1]/c"⟩ (.tooManyRedirects (loopback "/c"))) := by
  have follows (source : Asset.Source) (path : String)
      (read : Url.ofText? source.url = .ok (loopback path))
      (short : (loopback path).render.utf8ByteSize ≤ Url.maxSize) :
      Follows fourRedirects source (loopback path) := by
    have plain : (loopback path).withoutCredentials = loopback path :=
      Url.withoutCredentials_of_none rfl
    rw [← plain]
    apply (fetch_over_network read rfl).1
    rw [plain]
    exact Url.isRequestable_of_loopback rfl short
  refine ⟨?_, ?_, ?_, ?_⟩
  · have follows := follows ⟨"m", "http://[::1]/a.mem"⟩ "/a.mem" rfl (by decide)
    exact follows.binary _ reaches_behind (by decide) (by decide) rfl (by decide)
  · have follows := follows ⟨"l", "http://[::1]/long"⟩ "/long" rfl (by decide)
    exact follows.refused _ reaches_redirect (by decide)
  · have follows := follows ⟨"o", "http://[::1]/off"⟩ "/off" rfl (by decide)
    exact follows.astray 0 _ (by decide) .here strays_off
  · have follows := follows ⟨"c", "http://[::1]/c"⟩ "/c" rfl (by decide)
    exact follows.endless _ _ (leads_around 10) redirects_around.1

/-- A location that is too long for a request is not fetched, though there is an answer for it. -/
theorem long_location_not_fetched :
    Url.ofText? (Url.longQuery 65521).render = .ok (Url.longQuery 65521) ∧
    (Url.longQuery 65521).scheme = "http" ∧
    Leads (everywhere "hello") 0 (Url.longQuery 65521) (Url.longQuery 65521) ∧
    Answers (everywhere "hello") (Url.longQuery 65521) ⟨200, none, Utf8.encode "hello", 0⟩ ∧
    (fetch (everywhere "hello") ⟨"n", (Url.longQuery 65521).render⟩).outcome =
      .error (.fetch ⟨"n", (Url.longQuery 65521).render⟩ (.badTarget (Url.longQuery 65521))) := by
  have read := Url.ofText?_render_longQuery 65521
  refine ⟨read, rfl, .here, answers_of_status rfl (by decide), ?_⟩
  apply outcome_of_refused
  rw [requested_eq read rfl, Url.withoutCredentials_of_none rfl,
    Url.isRequestable_longQuery_eq_false (by decide)]
  rfl

end SoloScript.Http

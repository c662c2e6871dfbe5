import Mathlib.Data.List.Chain
import SoloScript.Http.Exchange
import SoloScript.Proofs.Outcome

/-!
# What an exchange comes to

The answers of a network make a graph of redirects, which may run in circles.  An exchange walks in
it for a bounded number of steps: to an answer that stands, to silence, to a redirect that is not
followed, or to one redirect too many.  What it comes to depends on nothing else of the network.
-/

namespace SoloScript.Http

open Outcome

variable {network : Network} {origin url next last : Url} {response : Response} {silence : Silence}
  {text : String} {n redirects : Nat}

/-! ## Redirects -/

/-- The answer for `url` is a redirect with the text `text`. -/
structure Sends (network : Network) (url : Url) (response : Response) (text : String) : Prop where
  answered : network.answer url = .ok response
  status : response.status ∈ [301, 302, 303, 307, 308]
  location : response.location = some text

/-- The answer for `url` is a redirect to `next`, which a request can name. -/
def Points (network : Network) (url next : Url) : Prop :=
  ∃ response text, Sends network url response text ∧ network.reading url text = .ok (some next) ∧
    next.isRequestable = true

/-- The answer for `url` is a redirect that can be followed, to `next`. -/
def Redirects (network : Network) (url next : Url) : Prop :=
  Points network url next ∧ next.isFetchable = true

/-- The answer for `url` is a redirect that cannot be followed: it leads off the web, or its text
causes a fault. -/
def Strays (network : Network) (url : Url) : Prop :=
  (∃ next, Points network url next ∧ next.isFetchable = false) ∨
    ∃ response text fault, Sends network url response text ∧
      network.reading url text = .error fault

/-- `n` redirects lead from `url` to `last`. -/
inductive Leads (network : Network) : (n : Nat) → (url last : Url) → Prop
  | here {url : Url} : Leads network 0 url url
  | onward {n : Nat} {url next last : Url} (first : Redirects network url next)
      (others : Leads network n next last) : Leads network (n + 1) url last

/-- The answer for `url` stands: it is no redirect, or its text means no location, or none that a
request can name. -/
structure Answers (network : Network) (url : Url) (response : Response) : Prop where
  answered : network.answer url = .ok response
  stands : ∀ text, Sends network url response text →
    ∃ read, network.reading url text = .ok read ∧ ∀ next ∈ read, next.isRequestable = false

/-- What an exchange ends with at `url`, however many redirects are left. -/
inductive Ends (network : Network) (url : Url) : Prop
  | answers {response : Response} (answers : Answers network url response)
  | silence {silence : Silence} (silent : network.answer url = .error silence)
  | strays (strays : Strays network url)

/-- Where redirects are read like other locations, they lead to where their text says. -/
theorem points_ofAnswers_iff {answer : Url → Except Silence Response} :
    Points (.ofAnswers answer) url next ↔
      ∃ response text, answer url = .ok response ∧
        response.status ∈ [301, 302, 303, 307, 308] ∧ response.location = some text ∧
        url.join? text = .ok next ∧ next.isRequestable = true := by
  have read (text : String) :
      (Network.ofAnswers answer).reading url text = .ok (some next) ↔ url.join? text = .ok next := by
    rw [Network.ofAnswers, Except.ok.injEq, toOption_eq_some_iff]
  constructor
  · rintro ⟨response, text, sends, met, requestable⟩
    exact ⟨response, text, sends.answered, sends.status, sends.location, (read text).1 met,
      requestable⟩
  · rintro ⟨response, text, answered, status, location, met, requestable⟩
    exact ⟨response, text, ⟨answered, status, location⟩, (read text).2 met, requestable⟩

/-! ## Targets of a response -/

theorem Sends.target?_eq (sends : Sends network url response text) :
    response.target? (network.reading url) =
      (network.reading url text).map (·.filter Url.isRequestable) := by
  rw [Response.target?, if_pos (List.contains_iff_mem.2 sends.status), sends.location]

/-- A response either sends on, by what its text means, or has no target. -/
theorem target?_cases (answered : network.answer url = .ok response) :
    (∃ text, Sends network url response text ∧ response.target? (network.reading url) =
      (network.reading url text).map (·.filter Url.isRequestable)) ∨
    (∀ text, ¬Sends network url response text) ∧
      response.target? (network.reading url) = .ok none := by
  by_cases sent : ∃ text, Sends network url response text
  · obtain ⟨text, sends⟩ := sent
    exact .inl ⟨text, sends, sends.target?_eq⟩
  · refine .inr ⟨not_exists.1 sent, ?_⟩
    rw [Response.target?]
    split
    · rename_i status
      split
      · rfl
      · rename_i text location
        exact absurd ⟨text, answered, List.contains_iff_mem.1 status, location⟩ sent
    · rfl

theorem points_iff (answered : network.answer url = .ok response) :
    Points network url next ↔ response.target? (network.reading url) = .ok (some next) := by
  constructor
  · rintro ⟨response', text, sends, read, requestable⟩
    cases sends.answered.symm.trans answered
    rw [sends.target?_eq, read, Except.map, Option.filter_some_pos requestable]
  · intro target
    rcases target?_cases answered with ⟨text, sends, met⟩ | ⟨-, met⟩
    · obtain ⟨read, read_eq, named⟩ := map_eq_ok_iff.1 (met.symm.trans target)
      obtain ⟨rfl, requestable⟩ := Option.filter_eq_some_iff.1 named
      exact ⟨response, text, sends, read_eq, requestable⟩
    · cases met.symm.trans target

theorem Points.exists_target? (points : Points network url next) :
    ∃ response, network.answer url = .ok response ∧
      response.target? (network.reading url) = .ok (some next) := by
  obtain ⟨response, text, sends, -⟩ := id points
  exact ⟨response, sends.answered, (points_iff sends.answered).1 points⟩

theorem answers_iff (answered : network.answer url = .ok response) :
    Answers network url response ↔ response.target? (network.reading url) = .ok none := by
  constructor
  · intro answers
    rcases target?_cases answered with ⟨text, sends, met⟩ | ⟨-, met⟩
    · obtain ⟨read, read_eq, unnamed⟩ := answers.stands text sends
      rw [met, read_eq, Except.map, Option.filter_eq_none_iff.2]
      exact fun next mem ↦ Bool.eq_false_iff.1 (unnamed next mem)
    · exact met
  · intro target
    refine ⟨answered, fun text sends ↦ ?_⟩
    obtain ⟨read, met, unnamed⟩ := map_eq_ok_iff.1 (sends.target?_eq.symm.trans target)
    exact ⟨read, met, fun next mem ↦
      Bool.eq_false_iff.2 (Option.filter_eq_none_iff.1 unnamed next mem)⟩

theorem strays_of_target? {fault : Fault} (answered : network.answer url = .ok response)
    (target : response.target? (network.reading url) = .error fault) : Strays network url := by
  rcases target?_cases answered with ⟨text, sends, met⟩ | ⟨-, met⟩
  · exact .inr ⟨response, text, fault, sends, map_eq_error_iff.1 (met.symm.trans target)⟩
  · cases met.symm.trans target

/-- An answer that is no redirect by its status. -/
theorem answers_of_status (answered : network.answer url = .ok response)
    (other : response.status ∉ [301, 302, 303, 307, 308]) : Answers network url response where
  answered := answered
  stands _ sends := absurd sends.status other

/-- One request either ends an exchange or leads on. -/
theorem ends_or_redirects (network : Network) (url : Url) :
    Ends network url ∨ ∃ next, Redirects network url next := by
  cases answered : network.answer url with
  | error silence => exact .inl (.silence answered)
  | ok response =>
    cases target : response.target? (network.reading url) with
    | error fault => exact .inl (.strays (strays_of_target? answered target))
    | ok next? =>
      cases next? with
      | none => exact .inl (.answers ((answers_iff answered).2 target))
      | some next =>
        have points := (points_iff answered).2 target
        cases web : next.isFetchable with
        | false => exact .inl (.strays (.inl ⟨next, points, web⟩))
        | true => exact .inr ⟨next, points, web⟩

/-- A location leads to an end, or for long enough on and on. -/
theorem leads_cases (network : Network) (redirects : Nat) (url : Url) :
    (∃ n last, n ≤ redirects ∧ Leads network n url last ∧ Ends network last) ∨
      ∃ last next, Leads network redirects url last ∧ Redirects network last next := by
  induction redirects generalizing url with
  | zero =>
    rcases ends_or_redirects network url with ends | ⟨next, first⟩
    · exact .inl ⟨0, url, Nat.le_refl _, .here, ends⟩
    · exact .inr ⟨url, next, .here, first⟩
  | succ redirects ih =>
    rcases ends_or_redirects network url with ends | ⟨next, first⟩
    · exact .inl ⟨0, url, Nat.zero_le _, .here, ends⟩
    · rcases ih next with ⟨n, last, within, leads, ends⟩ | ⟨last, after, leads, more⟩
      · exact .inl ⟨n + 1, last, Nat.succ_le_succ within, .onward first leads, ends⟩
      · exact .inr ⟨last, after, .onward first leads, more⟩

/-! ## Exchanges -/

/-- A redirect is followed if there is one left. -/
theorem exchangeFrom_of_redirects (first : Redirects network url next) :
    exchangeFrom network origin (redirects + 1) url =
      exchangeFrom network origin redirects next := by
  obtain ⟨points, web⟩ := first
  obtain ⟨response, answered, target⟩ := points.exists_target?
  rw [exchangeFrom, answered]
  simp only [target, web, if_true]

/-- With none left it is one too many, wherever it leads. -/
theorem exchangeFrom_of_points (points : Points network url next) (origin : Url) :
    exchangeFrom network origin 0 url = .error (.tooManyRedirects url) := by
  obtain ⟨response, answered, target⟩ := points.exists_target?
  rw [exchangeFrom, answered]
  simp only [target]

theorem exchangeFrom_of_answers (answers : Answers network url response) (origin : Url)
    (redirects : Nat) : exchangeFrom network origin redirects url = .ok response := by
  rw [exchangeFrom.eq_def, answers.answered]
  simp only [(answers_iff answers.answered).1 answers]

theorem exchangeFrom_of_silence (silent : network.answer url = .error silence) (origin : Url)
    (redirects : Nat) :
    exchangeFrom network origin redirects url = .error (.noAnswer origin silence) := by
  rw [exchangeFrom.eq_def, silent]

theorem exists_fault_of_strays (strays : Strays network url) (origin : Url) (redirects : Nat) :
    ∃ fault, exchangeFrom network origin redirects url = .error fault := by
  rcases strays with ⟨next, points, other⟩ | ⟨response, text, fault, sends, refused⟩
  · cases redirects with
    | zero => exact ⟨_, exchangeFrom_of_points points origin⟩
    | succ redirects =>
      obtain ⟨response, answered, target⟩ := points.exists_target?
      refine ⟨.badScheme next, ?_⟩
      rw [exchangeFrom, answered]
      simp only [target, other, Bool.false_eq_true, if_false]
  · refine ⟨fault, ?_⟩
    rw [exchangeFrom.eq_def, sends.answered]
    simp only [sends.target?_eq, refused, Except.map]

/-- As many redirects are followed as are left. -/
theorem exchangeFrom_of_leads (leads : Leads network n url last) (origin : Url) (redirects : Nat) :
    exchangeFrom network origin (redirects + n) url =
      exchangeFrom network origin redirects last := by
  induction leads with
  | here => rfl
  | onward first others ih =>
    rw [← Nat.add_assoc, exchangeFrom_of_redirects first]
    exact ih

/-- One redirect more than are left is a fault. -/
theorem exchangeFrom_of_leads_points (leads : Leads network redirects url last)
    (points : Points network last next) (origin : Url) :
    exchangeFrom network origin redirects url = .error (.tooManyRedirects last) := by
  have followed := exchangeFrom_of_leads leads origin 0
  rw [Nat.zero_add] at followed
  rw [followed, exchangeFrom_of_points points]

/-! ## What an exchange depends on -/

section Congr

variable {network' : Network} (reading : network'.reading = network.reading)
  (same : network'.answer url = network.answer url)

include reading same

theorem redirects_congr : Redirects network' url next ↔ Redirects network url next := by
  have sends (response : Response) (text : String) :
      Sends network' url response text ↔ Sends network url response text :=
    ⟨fun sends ↦ ⟨same.symm.trans sends.answered, sends.status, sends.location⟩,
      fun sends ↦ ⟨same.trans sends.answered, sends.status, sends.location⟩⟩
  simp only [Redirects, Points, sends, reading]

/-- Where no redirect is followed, no further answer counts. -/
theorem exchangeFrom_congr (stays : ∀ next, ¬Redirects network url next) (origin : Url)
    (redirects : Nat) :
    exchangeFrom network' origin redirects url = exchangeFrom network origin redirects url := by
  rw [exchangeFrom.eq_def, exchangeFrom.eq_def network, same, reading]
  cases answered : network.answer url with
  | error silence => rfl
  | ok response =>
    cases target : response.target? (network.reading url) with
    | error fault => simp only [target]
    | ok next? =>
      cases next? with
      | none => simp only [target]
      | some next =>
        have other : ¬next.isFetchable = true :=
          fun web ↦ stays next ⟨(points_iff answered).2 target, web⟩
        cases redirects with
        | zero => simp only [target]
        | succ redirects => simp only [target, if_neg other]

end Congr

/-- An exchange makes one request for each redirect that it follows, and one more.  What it comes
to is told by their answers. -/
theorem exists_requests (network : Network) (origin : Url) (redirects : Nat) (url : Url) :
    ∃ others : List Url, others.length ≤ redirects ∧ (url :: others).IsChain (Redirects network) ∧
      ∀ network' : Network, network'.reading = network.reading →
        (∀ asked ∈ url :: others, network'.answer asked = network.answer asked) →
        exchangeFrom network' origin redirects url = exchangeFrom network origin redirects url := by
  induction redirects generalizing url with
  | zero =>
    refine ⟨[], Nat.le_refl _, .singleton _, fun network' reading same ↦ ?_⟩
    rw [exchangeFrom, exchangeFrom, same url List.mem_cons_self, reading]
  | succ redirects ih =>
    by_cases on : ∃ next, Redirects network url next
    · obtain ⟨next, first⟩ := on
      obtain ⟨others, within, chain, agree⟩ := ih next
      refine ⟨next :: others, Nat.succ_le_succ within, chain.cons_cons first, ?_⟩
      intro network' reading same
      obtain ⟨here, same⟩ := List.forall_mem_cons.1 same
      rw [exchangeFrom_of_redirects first,
        exchangeFrom_of_redirects ((redirects_congr reading here).2 first)]
      exact agree network' reading same
    · refine ⟨[], Nat.zero_le _, .singleton _, fun network' reading same ↦ ?_⟩
      exact exchangeFrom_congr reading (same url List.mem_cons_self) (not_exists.1 on) origin _

end SoloScript.Http

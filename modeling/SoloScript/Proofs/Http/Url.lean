import SoloScript.Http.Url.Reader
import SoloScript.Proofs.Outcome
import SoloScript.Proofs.Text.Utf8

/-!
# Locations of the web

A location of the web always names a host, but not every location can be asked for: some characters
of a host and some lengths are too much for a request.
-/

namespace SoloScript.Http

open Outcome

/-! ## Hosts -/

namespace Host

theorem bracketed?_ne_empty {text : List Char} {host : String} (h : bracketed? text = .ok host) :
    host ≠ "" := by
  rw [bracketed?] at h
  split at h
  · cases h
    exact fun empty ↦ absurd (congrArg String.toList empty) (by simp)
  · cases h

theorem renderAddress_ne_empty (n : Nat) : renderAddress n ≠ "" := by
  intro empty
  have empty := congrArg String.toList empty
  rw [renderAddress, String.toList_intercalate] at empty
  simp [List.intercalate] at empty

theorem ofText?_ne_empty {text : List Char} {host : String} (h : ofText? text = .ok host) :
    host ≠ "" := by
  rw [ofText?.eq_def] at h
  split at h
  · cases h
  · exact bracketed?_ne_empty h
  · split at h
    · cases h
    · cases h
    · rename_i name _ filled _
      split at h
      · split at h
        · cases h
          exact renderAddress_ne_empty _
        · cases h
      · cases h
        rw [← String.ofList_nil]
        exact fun empty ↦ filled (String.ofList_injective empty)

theorem ofText?_loopback : ofText? "[::1]".toList = .ok "[::1]" := rfl

end Host

/-! ## Locations -/

namespace Url

variable {scheme : String} {text rest : List Char} {url : Url}

theorem host_ne_empty_of_readAuthority {authority : Authority}
    (known : (Family.ofScheme scheme).isKnown = true)
    (h : readAuthority scheme text = .ok (authority, rest)) : authority.host ≠ "" := by
  rw [readAuthority] at h
  simp only [known, if_true] at h
  generalize splitCredentials _ = credentials at h
  split at h
  · cases h
  · split at h
    · rename_i host read
      have filled : host ≠ "" := Host.ofText?_ne_empty read
      simp only [pure_eq_ok, ok_bind, filled, false_and, if_false] at h
      split at h
      · obtain ⟨port, -, done⟩ := bind_eq_ok_iff.1 h
        cases done
        exact filled
      · cases h
        exact filled
    · cases h

theorem hasHost_of_readBehindSlashes (known : (Family.ofScheme scheme).isKnown = true)
    (h : readBehindSlashes scheme text = .ok url) : url.scheme = scheme ∧ url.hasHost = true := by
  obtain ⟨⟨authority, rest⟩, read, done⟩ := bind_eq_ok_iff.1 h
  cases done
  exact ⟨rfl, decide_eq_true (host_ne_empty_of_readAuthority known read)⟩

theorem scheme_of_readFile (h : readFile text = .ok url) : url.scheme = "file" := by
  rw [readFile.eq_def] at h
  dsimp only at h
  split at h
  · split at h
    · split at h
      · cases h
        rfl
      · split at h
        · cases h
        · cases h
          rfl
        · cases h
          rfl
    · cases h
      rfl
  · cases h
    rfl
  · cases h
    rfl

theorem scheme_of_readOther (h : readOther scheme text = .ok url) : url.scheme = scheme := by
  rw [readOther.eq_def] at h
  dsimp only at h
  split at h
  · obtain ⟨⟨authority, rest⟩, -, done⟩ := bind_eq_ok_iff.1 h
    cases done
    rfl
  · cases h
    rfl
  · cases h
    rfl

/-- A location of the web names a host. -/
theorem hasHost_of_ofText? {source : String} (h : ofText? source = .ok url)
    (web : Family.ofScheme url.scheme = .web) : url.hasHost = true := by
  rw [ofText?] at h
  split at h
  · cases h
  · rename_i scheme rest _
    rw [readBehindColon] at h
    split at h
    · rename_i family
      exact (hasHost_of_readBehindSlashes (by rw [family]; rfl) h).2
    · rw [scheme_of_readFile h] at web
      exact absurd web (by decide)
    · rename_i family
      rw [scheme_of_readOther h, family] at web
      cases web

/-- What a request can name: some characters do not stand in its host, and it is not too long. -/
theorem isRequestable_iff : url.isRequestable = true ↔
    (∀ authority ∈ url.authority, ∀ c ∈ authority.host.toList, c ∉ "\"`\x7b\x7d".toList) ∧
      url.render.utf8ByteSize ≤ maxSize := by
  rw [isRequestable, Bool.and_eq_true, Bool.not_eq_true', decide_eq_true_eq]
  simp only [String.any, String.contains_bool_eq, Option.any_eq_false, List.any_eq_false,
    List.contains_iff_mem, Option.mem_def]

/-! ## Locations on one host -/

/-- Where there are no credentials, none are taken away. -/
theorem withoutCredentials_of_none {host : String} {port : Option Nat}
    (authority : url.authority = some ⟨.none, host, port⟩) : url.withoutCredentials = url := by
  obtain ⟨scheme, _, path, query, fragment⟩ := url
  obtain rfl := authority
  simp only [withoutCredentials, Option.map_some]
  split <;> rfl

/-- A location without blanks is read as it stands. -/
theorem clean_of_solid {text : String} (solid : ∀ c ∈ text.toList, 0x20 < c.toNat) :
    clean text = text.toList := by
  have inside (text : List Char) (solid : ∀ c ∈ text, 0x20 < c.toNat) :
      text.dropWhile (·.toNat ≤ 0x20) = text := by
    cases text with
    | nil => rfl
    | cons c text =>
      have first : decide (c.toNat ≤ 0x20) = false :=
        decide_eq_false (Nat.not_le.2 (solid c List.mem_cons_self))
      rw [List.dropWhile_cons, first, if_neg Bool.false_ne_true]
  have kept : ∀ c ∈ text.toList, decide (c ≠ '\t' ∧ c ≠ '\n' ∧ c ≠ '\r') = true := by
    intro c mem
    have other {d : Char} (low : d.toNat ≤ 0x20) : c ≠ d := by
      rintro rfl
      exact absurd low (Nat.not_le.2 (solid c mem))
    rw [decide_eq_true_eq]
    exact ⟨other (by decide), other (by decide), other (by decide)⟩
  rw [clean, inside _ solid, inside _ fun c mem ↦ solid c (List.mem_reverse.1 mem),
    List.reverse_reverse]
  exact List.filter_eq_self.2 kept

theorem readAuthority_loopback (text : List Char) :
    readAuthority "http" ("[::1]/".toList ++ text) = .ok (⟨.none, "[::1]", none⟩, '/' :: text) := by
  have family : Family.ofScheme "http" = .web := by decide
  have front : ("[::1]/".toList ++ text).takeWhile (!endsAuthority .web ·) = "[::1]".toList := rfl
  have credentials : splitCredentials "[::1]".toList = (none, "[::1]".toList) := rfl
  have host : splitHost false "[::1]".toList = ("[::1]".toList, []) := rfl
  rw [readAuthority, family]
  simp only [front, credentials, host, Family.isKnown, if_true, Host.ofText?_loopback]
  rfl

section Loopback

variable {source : String} (whole : source.toList = "http://[::1]/".toList ++ text)
  (solid : ∀ c ∈ text, 0x20 < c.toNat)

include whole solid

theorem clean_of_loopback : clean source = "http://[::1]/".toList ++ text := by
  have front : ∀ c ∈ "http://[::1]/".toList, 0x20 < c.toNat := by simp
  rw [clean_of_solid (by rw [whole]; exact List.forall_mem_append.2 ⟨front, solid⟩), whole]

/-- Behind the host, a location is read as a path and a tail. -/
theorem ofText?_of_loopback :
    ofText? source = .ok (withTail "http" (some ⟨.none, "[::1]", none⟩)
      (Path.render (Path.below .web [] (text.takeWhile (!endsPath ·))))
      (text.drop (text.takeWhile (!endsPath ·)).length)) := by
  have family : Family.ofScheme "http" = .web := by decide
  rw [ofText?, clean_of_loopback whole solid]
  show readBehindSlashes "http" ("[::1]/".toList ++ text) = _
  rw [readBehindSlashes, readAuthority_loopback, family]
  rfl

/-- What leaves nothing out means the same wherever it is seen from. -/
theorem join?_of_loopback (url : Url) : url.join? source = ofText? source := by
  rw [join?, ofText?, clean_of_loopback whole solid]
  exact if_neg fun short ↦ absurd short.2 (by decide : ¬2 < 2)

end Loopback

theorem isRequestable_of_loopback (host : url.authority = some ⟨.none, "[::1]", none⟩)
    (short : url.render.utf8ByteSize ≤ maxSize) : url.isRequestable = true := by
  rw [isRequestable_iff, host]
  exact ⟨by simp, short⟩

/-! ## Long queries -/

/-- A location with a query of `n` letters. -/
def longQuery (n : Nat) : Url :=
  ⟨"http", some ⟨.none, "[::1]", none⟩, "/", some (String.ofList (List.replicate n 'a')), none⟩

theorem toList_render_longQuery (n : Nat) :
    (longQuery n).render.toList = "http://[::1]/".toList ++ '?' :: List.replicate n 'a' := by
  simp [render, longQuery, Authority.render, Credentials.render, Credentials.none]

theorem utf8ByteSize_render_longQuery (n : Nat) : (longQuery n).render.utf8ByteSize = 14 + n := by
  rw [← String.ofList_toList (s := (longQuery n).render), toList_render_longQuery,
    Text.Utf8.utf8ByteSize_ofList, Text.Utf8.size_append, Text.Utf8.size_cons,
    Text.Utf8.size_replicate]
  show 13 + (1 + n * 1) = 14 + n
  omega

theorem tail_longQuery (n : Nat) : tail .web ('?' :: List.replicate n 'a') =
    ((longQuery n).query, none) := by
  have query : ('?' :: List.replicate n 'a').takeWhile (· ≠ '#') = '?' :: List.replicate n 'a' := by
    simp
  have plain : escape .knownQuery (List.replicate n 'a') = List.replicate n 'a' := by
    rw [escape, List.flatMap_replicate]
    exact List.flatten_replicate_singleton
  simp only [tail, query, List.drop_length, List.tail?_cons, Option.map_some, Function.comp,
    Family.isKnown, if_true, plain]
  rfl

theorem solid_longQuery (n : Nat) : ∀ c ∈ '?' :: List.replicate n 'a', 0x20 < c.toNat := by
  refine List.forall_mem_cons.2 ⟨by decide, fun c mem ↦ ?_⟩
  rw [List.eq_of_mem_replicate mem]
  decide

/-- What is written is read back. -/
theorem ofText?_render_longQuery (n : Nat) :
    ofText? (longQuery n).render = .ok (longQuery n) := by
  have family : Family.ofScheme "http" = .web := by decide
  rw [ofText?_of_loopback (toList_render_longQuery n) (solid_longQuery n)]
  show Except.ok (withTail "http" _ "/" ('?' :: List.replicate n 'a')) = _
  rw [withTail, family, tail_longQuery]
  rfl

theorem isRequestable_longQuery_eq_false {n : Nat} (long : maxSize < 14 + n) :
    (longQuery n).isRequestable = false := by
  rw [Bool.eq_false_iff, ne_eq, isRequestable_iff, utf8ByteSize_render_longQuery]
  exact fun short ↦ Nat.not_le.2 long short.2

end Url

end SoloScript.Http

import PageScript.Cosmos.Request
import PageScript.Proofs.Url.Join

/-!
# The resource that is signed is the one that is asked for

The link of a container goes into the signature as it is, and into the address of a request as a
relative path. A name that cannot be taken for anything else comes out of the address again, so that
both name one resource. Nothing about the names but their length can keep a request from being made
(`documentsUrl_iff`).
-/

namespace PageScript.Cosmos

open Codec Url

/-! ## Names -/

/-- A character that neither ends a segment of a path nor starts an escape. -/
def isNameChar (c : Char) : Bool := !(['/', '?', '#', '%'].contains c) && !isControl c

/-- A name of a database or a container that can stand in a path. -/
structure IsResourceName (name : String) : Prop where
  nonempty : name.toList ≠ []
  noDots : name.toList ≠ ['.'] ∧ name.toList ≠ ['.', '.']
  chars : ∀ c ∈ name.toList, isNameChar c = true

theorem of_isNameChar {c : Char} (h : isNameChar c = true) :
    (c ∉ ['/', '?', '#'] ∧ isControl c = false) ∧ c ≠ '%' := by
  simp only [isNameChar, Bool.and_eq_true, Bool.not_eq_true', List.contains_eq_mem,
    decide_eq_false_iff_not, List.mem_cons, List.not_mem_nil, or_false, not_or] at h ⊢
  exact ⟨⟨⟨h.1.1, h.1.2.1, h.1.2.2.1⟩, h.2⟩, h.1.2.2.2⟩

/-- The segments of the path to the documents of a container. -/
def documentSegments (database container : String) : List (List Char) :=
  ["dbs".toList, database.toList, "colls".toList, container.toList, "docs".toList]

section

variable {database container : String}

theorem toList_documents (database container : String) :
    (Wire.resourceLink database container ++ "/docs").toList =
      pathText (documentSegments database container) := by
  simp [Wire.resourceLink, pathText, documentSegments, List.intercalate_cons_cons]

variable (hd : IsResourceName database) (hc : IsResourceName container)
include hd hc

theorem isResourceName_segment {segment : List Char}
    (h : segment ∈ documentSegments database container) :
    ∃ name, IsResourceName name ∧ segment = name.toList := by
  have fixed {name : String} (nonempty : name.toList ≠ [])
      (noDots : name.toList ≠ ['.'] ∧ name.toList ≠ ['.', '.'])
      (chars : name.toList.all isNameChar = true) : IsResourceName name :=
    ⟨nonempty, noDots, List.all_eq_true.1 chars⟩
  simp only [documentSegments, List.mem_cons, List.not_mem_nil, or_false] at h
  rcases h with h | h | h | h | h
  · exact ⟨"dbs", fixed (by decide) (by decide) (by decide), h⟩
  · exact ⟨database, hd, h⟩
  · exact ⟨"colls", fixed (by decide) (by decide) (by decide), h⟩
  · exact ⟨container, hc, h⟩
  · exact ⟨"docs", fixed (by decide) (by decide) (by decide), h⟩

theorem percent_not_mem_segment {segment : List Char}
    (h : segment ∈ documentSegments database container) : '%' ∉ segment := by
  obtain ⟨name, hn, rfl⟩ := isResourceName_segment hd hc h
  exact fun hm => (of_isNameChar (hn.chars _ hm)).2 rfl

theorem relativePath_documents : RelativePath (documentSegments database container) where
  ne_nil := List.cons_ne_nil _ _
  nonempty segment hs := by
    obtain ⟨name, hn, rfl⟩ := isResourceName_segment hd hc hs
    exact hn.nonempty
  noDots segment hs := by
    obtain ⟨name, hn, rfl⟩ := isResourceName_segment hd hc hs
    exact hn.noDots
  chars segment hs c hm := by
    obtain ⟨name, hn, rfl⟩ := isResourceName_segment hd hc hs
    exact (of_isNameChar (hn.chars c hm)).1
  noColon := by
    rintro segment ⟨⟩
    decide
  noSemicolon := by
    rintro segment ⟨⟩
    show ';' ∉ "docs".toList
    decide

/-- The path to the documents is the escaped form of the link and what follows it. -/
theorem unescaped_documents :
    Percent.unescaped
      ('/' :: Percent.escape isPathSafe (Wire.resourceLink database container ++ "/docs").toList) =
      .ok ('/' :: (Wire.resourceLink database container ++ "/docs").toList) := by
  have slash : '/' :: Percent.escape isPathSafe
      (Wire.resourceLink database container ++ "/docs").toList =
      Percent.escape isPathSafe ('/' :: (Wire.resourceLink database container ++ "/docs").toList) := by
    rw [Percent.escape_cons, if_pos (by decide), List.singleton_append]
  rw [slash, Percent.unescaped_escape]
  rintro c hm - rfl
  rcases List.mem_cons.1 hm with he | hm
  · cases he
  · rw [toList_documents] at hm
    rcases Text.mem_intercalate hm with he | ⟨segment, hs, hm⟩
    · cases he
    · exact percent_not_mem_segment hd hc hs hm

end

/-! ## Addresses -/

/-- The address of the documents is made if the address of the account is, if it is not too long with
the escaped path in it and if its host can be read a second time. -/
theorem documentsUrl_iff (account : Authority) {base : List Char} (hb : base = [] ∨ base = ['/'])
    {database container : String} (hd : IsResourceName database) (hc : IsResourceName container)
    {url : Url} :
    documentsUrl (String.ofList (account.address base)) (Wire.resourceLink database container) =
        .ok url ↔
      (account.address base).length ≤ lengthLimit ∧
      ∃ written, ∃ he : encodeHost account.host.text = .ok written,
        authorityFault? (account.rewritten he).text = none ∧
        ((account.rewritten he).address ('/' :: Percent.escape isPathSafe
          (Wire.resourceLink database container ++ "/docs").toList)).length ≤ lengthLimit ∧
        ∃ again, encodeHost (account.rewritten he).host.text = .ok again ∧
          url = account.url again ('/' :: Percent.escape isPathSafe
            (Wire.resourceLink database container ++ "/docs").toList) := by
  have relative := relativePath_documents hd hc
  have noPercent : ∀ segment ∈ documentSegments database container, '%' ∉ segment :=
    fun segment => percent_not_mem_segment hd hc
  rw [toList_documents]
  constructor
  · intro h
    obtain ⟨read, hr, hj⟩ := ok_of_bind h
    rw [String.toList_ofList, account.ofText_address (plainPath_root hb)] at hr
    obtain ⟨hl, written, he, rfl⟩ := hr
    rw [toList_documents, account.join_root relative he hb noPercent] at hj
    exact ⟨hl, written, he, hj⟩
  · rintro ⟨hl, written, he, hj⟩
    have hr : Url.ofText (account.address base) = .ok (account.url written base) :=
      (account.ofText_address (plainPath_root hb)).2 ⟨hl, written, he, rfl⟩
    rw [documentsUrl, String.toList_ofList, hr, toList_documents]
    exact (account.join_root relative he hb noPercent).2 hj

/-! ## Hosts that can be sent -/

/-- The host can be read, read again as it is written, and sent along. An address in brackets is
ASCII. A name may not turn into a wrong address of four numbers, and the ASCII form of a label at its
start has to stand for one. -/
def Sendable : Host → (written : List Char) → Prop
  | .name text, written =>
    encodeHost text = .ok written ∧ (looksLikeIpv4 written = true → isIpv4 written = true) ∧
      (Idna.asciiMark.isPrefixOf (written.map Char.toLower) = true →
        Idna.checkName (written.map Char.toLower) = .ok ())
  | .literal address, written =>
    written = address ∧ isIpv6 address = true ∧ ∀ c ∈ address, c.toNat < 0x80

section

variable {account : Authority} {written : List Char}

theorem Sendable.encodeHost_eq {host : Host} (h : Sendable host written) :
    encodeHost host.text = .ok written := by
  cases host with
  | name text => exact h.1
  | literal address =>
    obtain ⟨rfl, ipv6, -⟩ := h
    rw [Host.text, encodeHost_literal, if_pos ipv6]

theorem checkHeader_ascii {text : List Char} (h : ∀ c ∈ text, c.toNat < 0x80) :
    checkHeader text = .ok () := by
  refine if_neg ?_
  rw [Bool.not_eq_true, List.any_eq_false]
  intro c hc
  simpa using h c hc

/-- What is written of an authority is ASCII, unless there is something else in brackets. -/
theorem ascii_rewritten (he : encodeHost account.host.text = .ok written)
    (ha : ∀ address, account.host = .literal address → ∀ c ∈ address, c.toNat < 0x80) :
    ∀ c ∈ (account.rewritten he).text, c.toNat < 0x80 := by
  have host : ∀ c ∈ (account.host.rewritten written).text, c.toNat < 0x80 := by
    have proper := account.proper
    cases hh : account.host with
    | name text =>
      rw [hh] at proper he
      intro c hc
      exact toNat_lt_of_isHostSafe
        ((encodeHost_name proper.1 (fun c hc => (proper.2 c hc).1) he).2 c hc)
    | literal address =>
      show ∀ c ∈ '[' :: address ++ [']'], c.toNat < 0x80
      rw [List.forall_mem_append, List.forall_mem_cons, List.forall_mem_singleton]
      exact ⟨⟨by decide, ha address hh⟩, by decide⟩
  refine List.forall_mem_append.2 ⟨host, fun c hc => ?_⟩
  rcases (account.rewritten he).mem_portText hc with rfl | digit
  · decide
  · exact toNat_lt_of_isAlphanum (Bool.or_eq_true_iff.2 (.inr digit))

section

variable (h : Sendable account.host written) (he : encodeHost account.host.text = .ok written)
include h

theorem Sendable.ascii_literal :
    ∀ address, account.host = .literal address → ∀ c ∈ address, c.toNat < 0x80 := by
  intro address hh
  rw [hh] at h
  exact h.2.2

theorem Sendable.authorityFault?_eq : authorityFault? (account.rewritten he).text = none := by
  have ascii := ascii_rewritten he h.ascii_literal
  cases hh : account.host with
  | name text =>
    have rewritten : (account.rewritten he).host = .name written := by
      rw [Authority.host_rewritten, hh]
      rfl
    exact (account.rewritten he).authorityFault?_name ascii rewritten
  | literal address =>
    have rewritten : (account.rewritten he).host = .literal address := by
      rw [Authority.host_rewritten, hh]
      rfl
    rw [hh] at h
    exact (account.rewritten he).authorityFault?_literal ascii rewritten h.2.1

/-- The host is read again in lower case, or as it stands in brackets. -/
theorem Sendable.encodeHost_rewritten :
    ∃ again, encodeHost (account.rewritten he).host.text = .ok again ∧ again ≠ [] ∧
      (Idna.asciiMark.isPrefixOf again = true → Idna.checkName again = .ok ()) := by
  have proper := account.proper
  rw [Authority.host_rewritten]
  cases hh : account.host with
  | name text =>
    rw [hh] at h he proper
    obtain ⟨some, safe⟩ := encodeHost_name proper.1 (fun c hc => (proper.2 c hc).1) he
    exact ⟨written.map Char.toLower, encodeHost_written some safe h.2.1, by simpa using some, h.2.2⟩
  | literal address =>
    rw [hh] at h
    have some := List.ne_nil_of_mem (mem_of_isIpv6 h.2.1).1
    refine ⟨address, ?_, some, fun hm => ?_⟩
    · show encodeHost ('[' :: address ++ [']']) = _
      rw [encodeHost_literal, if_pos h.2.1]
    · -- The mark starts with a letter that no address in brackets has.
      obtain ⟨rest, rfl⟩ := List.isPrefixOf_iff_prefix.1 hm
      exact absurd ((mem_of_isIpv6 h.2.1).2 'x' List.mem_cons_self) (by decide)

theorem Sendable.checkHost_eq (path : List Char) :
    ∃ again, encodeHost (account.rewritten he).host.text = .ok again ∧
      checkHost (account.url again path) = .ok () := by
  obtain ⟨again, ha, some, name⟩ := h.encodeHost_rewritten he
  have literal : ∀ address, (account.rewritten he).host = .literal address →
      ∀ c ∈ address, c.toNat < 0x80 := by
    intro address hl
    rw [Authority.host_rewritten] at hl
    cases hh : account.host with
    | name text =>
      rw [hh] at hl
      cases hl
    | literal inner =>
      rw [hh] at hl
      cases hl
      exact h.ascii_literal address hh
  have header : checkHeader (account.url again path).hostAndPort = .ok () := by
    rw [← account.url_rewritten he, (account.rewritten he).hostAndPort_url ha]
    exact checkHeader_ascii (ascii_rewritten ha literal)
  refine ⟨again, ha, ?_⟩
  have host : (account.url again path).host = again := rfl
  rw [checkHost, host, if_neg (by simpa using some)]
  split
  · rename_i marked
    rw [name marked]
    exact header
  · exact header

end

end

/-! ## Requests -/

theorem authToken_of_decode {verb resourceType link date key : String} {secret : List UInt8}
    (h : Base64.decode key = .ok secret) :
    ∃ token, authToken verb resourceType link date key = .ok token := by
  rw [authToken, signature, h]
  exact ⟨_, rfl⟩

/-- The token and the address of a request that has been made. -/
theorem of_ofQuery {connection : Connection} {query : Query} {date : String} {request : Request}
    (h : Request.ofQuery connection query date = .ok request) :
    (∃ token, authToken Wire.verb Wire.resourceType
        (Wire.resourceLink query.database query.container) date connection.key = .ok token ∧
      request.headers.lookup Wire.headerAuthorization = some token) ∧
    documentsUrl connection.endpoint (Wire.resourceLink query.database query.container) =
      .ok request.url := by
  have unmapped {ε ε' α : Type} {x : Except ε α} {f : ε → ε'} {a : α} (hx : x.mapError f = .ok a) :
      x = .ok a := by
    cases x with
    | error e => cases hx
    | ok a => cases hx; rfl
  obtain ⟨token, ht, h⟩ := ok_of_bind h
  obtain ⟨url, hu, h⟩ := ok_of_bind h
  obtain ⟨_, -, h⟩ := ok_of_bind h
  obtain ⟨_, -, h⟩ := ok_of_bind h
  cases h
  exact ⟨⟨token, unmapped ht, rfl⟩, unmapped hu⟩

/-- A token and an address that can be sent make a request. -/
theorem ofQuery_of {connection : Connection} {query : Query} {date token : String} {url : Url}
    (ht : authToken Wire.verb Wire.resourceType
      (Wire.resourceLink query.database query.container) date connection.key = .ok token)
    (hu : documentsUrl connection.endpoint
      (Wire.resourceLink query.database query.container) = .ok url)
    (hdate : ∀ c ∈ date.toList, c.toNat < 0x80) (hh : checkHost url = .ok ()) :
    ∃ request, Request.ofQuery connection query date = .ok request := by
  rw [Request.ofQuery, ht, hu, checkHeader_ascii hdate]
  simp only [Except.mapError, bind, Except.bind, hh]
  exact ⟨_, rfl⟩

/-- A request to the root of an account asks for the documents of the container whose link its token
signs, and for nothing else. Given a host that can be sent, a key and a date, it is made unless an
address is too long. -/
theorem ofQuery_requests_signed_link (account : Authority) {base : List Char}
    (hb : base = [] ∨ base = ['/']) {query : Query} (hd : IsResourceName query.database)
    (hc : IsResourceName query.container) (key date : String) :
    (∀ request, Request.ofQuery ⟨String.ofList (account.address base), key⟩ query date =
        .ok request →
      (∃ token, authToken Wire.verb Wire.resourceType
          (Wire.resourceLink query.database query.container) date key = .ok token ∧
        request.headers.lookup Wire.headerAuthorization = some token) ∧
      Percent.unescaped request.url.path =
        .ok ('/' :: (Wire.resourceLink query.database query.container ++ "/docs").toList) ∧
      request.url.query = none ∧ request.url.fragment = none) ∧
    ∀ written secret, Sendable account.host written → Base64.decode key = .ok secret →
      (∀ c ∈ date.toList, c.toNat < 0x80) →
      ((∃ request, Request.ofQuery ⟨String.ofList (account.address base), key⟩ query date =
          .ok request) ↔
        (account.address base).length ≤ lengthLimit ∧
        (account.url written ('/' :: Percent.escape isPathSafe
          (Wire.resourceLink query.database query.container ++ "/docs").toList)).toText.length ≤
            lengthLimit) := by
  constructor
  · intro request h
    obtain ⟨signed, address⟩ := of_ofQuery h
    obtain ⟨-, written, he, -, -, again, -, hurl⟩ := (documentsUrl_iff account hb hd hc).1 address
    rw [hurl]
    exact ⟨signed, unescaped_documents hd hc, rfl, rfl⟩
  · intro written secret sendable hkey hdate
    have he := sendable.encodeHost_eq
    rw [account.toText_url he]
    constructor
    · rintro ⟨request, h⟩
      obtain ⟨hl, again, he', -, hlong, -⟩ := (documentsUrl_iff account hb hd hc).1 (of_ofQuery h).2
      cases Except.ok.inj (he.symm.trans he')
      exact ⟨hl, hlong⟩
    · rintro ⟨hl, hlong⟩
      obtain ⟨token, ht⟩ := authToken_of_decode hkey
      obtain ⟨again, ha, hh⟩ := sendable.checkHost_eq he ('/' :: Percent.escape isPathSafe
        (Wire.resourceLink query.database query.container ++ "/docs").toList)
      have address := (documentsUrl_iff account hb hd hc).2
        ⟨hl, written, he, sendable.authorityFault?_eq he, hlong, again, ha, rfl⟩
      exact ofQuery_of ht address hdate hh

/-- An account at a port of its own. -/
def accountAtPort : Authority where
  host := .name "Account.Example".toList
  port := some "08443".toList
  proper := ⟨by decide, fun c hc => by
    have all : ("Account.Example".toList.all fun c => !isDelimiter c && !isControl c) = true := by
      decide
    simpa using List.all_eq_true.1 all c hc⟩
  digits := by
    rintro text ⟨⟩
    exact List.all_eq_true.1 (by decide)
  short := by
    rintro text ⟨⟩
    decide

/-- Names that look like parameters, a user, a scheme and a dot segment. -/
theorem ofQuery_requests_signed_link_oddNames :
    ∃ request token, Request.ofQuery ⟨"https://Account.Example:08443/", "AQID"⟩
        ⟨"a b;c@d:e", "..é", "SELECT * FROM c", ""⟩ "Sun, 31 Dec 2000 22:30:59 GMT" = .ok request ∧
      authToken "post" "docs" "dbs/a b;c@d:e/colls/..é" "Sun, 31 Dec 2000 22:30:59 GMT" "AQID" =
        .ok token ∧
      request.headers.lookup "Authorization" = some token ∧
      Percent.unescaped request.url.path = .ok "/dbs/a b;c@d:e/colls/..é/docs".toList ∧
      request.url.query = none ∧ request.url.fragment = none := by
  have database : IsResourceName "a b;c@d:e" :=
    ⟨by decide, by decide, List.all_eq_true.1 (by decide)⟩
  have container : IsResourceName "..é" := ⟨by decide, by decide, List.all_eq_true.1 (by decide)⟩
  have endpoint : String.ofList (accountAtPort.address ['/']) = "https://Account.Example:08443/" := by
    decide
  have link : Wire.resourceLink "a b;c@d:e" "..é" = "dbs/a b;c@d:e/colls/..é" := by decide
  have path : '/' :: ("dbs/a b;c@d:e/colls/..é" ++ "/docs").toList =
      "/dbs/a b;c@d:e/colls/..é/docs".toList := by decide
  have sendable : Sendable accountAtPort.host "account.example".toList :=
    ⟨by rfl, by decide, by decide⟩
  have date : ∀ c ∈ "Sun, 31 Dec 2000 22:30:59 GMT".toList, c.toNat < 0x80 := by
    have all : ("Sun, 31 Dec 2000 22:30:59 GMT".toList.all (·.toNat < 0x80)) = true := by decide
    exact fun c hc => of_decide_eq_true (List.all_eq_true.1 all c hc)
  obtain ⟨sound, complete⟩ := @ofQuery_requests_signed_link accountAtPort ['/'] (.inr rfl)
    ⟨"a b;c@d:e", "..é", "SELECT * FROM c", ""⟩ database container "AQID"
    "Sun, 31 Dec 2000 22:30:59 GMT"
  obtain ⟨request, made⟩ := (complete "account.example".toList [1, 2, 3] sendable (by rfl) date).2
    ⟨by decide, by decide⟩
  obtain ⟨⟨token, signed, carried⟩, asked, noQuery, noFragment⟩ := sound request made
  rw [link] at signed asked
  rw [path] at asked
  rw [endpoint] at made
  exact ⟨request, token, made, signed, carried, asked, noQuery, noFragment⟩

end PageScript.Cosmos

import PageScript.Proofs.Numeral.Literal
import PageScript.Proofs.Url.Host
import PageScript.Url.Join

/-!
# Addresses that are read

A secure address is put together from a host, a port and a path. Reading it takes it apart at the same
places, and what is written again is an address of that kind (`Authority.toText_url`), so that it can
be read once more. Only the host can fail to be read (`Authority.ofText_address`).
-/

namespace PageScript.Url

/-! ## Paths -/

/-- A path that stays as it is: it is empty or starts at the root, has no dot segments and no
characters that are escaped. -/
structure PlainPath (path : List Char) : Prop where
  rooted : path = [] ∨ path.head? = some '/'
  safe : ∀ c ∈ path, isPathSafe c = true
  noDot : ['.'] ∉ Text.splitAtEach '/' path
  noDots : ['.', '.'] ∉ Text.splitAtEach '/' path

theorem toNat_lt_of_isPathSafe {c : Char} (h : isPathSafe c = true) : c.toNat < 0x80 := by
  simp only [isPathSafe, isSafe, Bool.and_eq_true, decide_eq_true_eq] at h
  omega

theorem of_isPathSafe {c : Char} (h : isPathSafe c = true) :
    isControl c = false ∧ c ≠ '?' ∧ c ≠ '#' := by
  have all : ∀ n < 0x80, isPathSafe (Char.ofNat n) = true →
      isControl (Char.ofNat n) = false ∧ Char.ofNat n ≠ '?' ∧ Char.ofNat n ≠ '#' := by
    decide +kernel
  exact of_ascii (p := fun c => isPathSafe c = true → isControl c = false ∧ c ≠ '?' ∧ c ≠ '#') all
    (toNat_lt_of_isPathSafe h) h

/-- What an escaped text holds besides its own characters may stand in a path as well. -/
theorem mem_escape_path {text : List Char} {c : Char}
    (h : c ∈ Codec.Percent.escape isPathSafe text) :
    isPathSafe c = true ∧ (c ∈ text ∨ c = '%' ∨ Codec.Percent.isHex c = true) := by
  have all : ∀ n < 0x80, Codec.Percent.isHex (Char.ofNat n) = true →
      isPathSafe (Char.ofNat n) = true := by decide +kernel
  rcases Codec.Percent.mem_escape h with ⟨hm, hs⟩ | rfl | hx
  · exact ⟨hs, .inl hm⟩
  · exact ⟨by decide, .inr (.inl rfl)⟩
  · refine ⟨?_, .inr (.inr hx)⟩
    exact of_ascii (p := fun c => Codec.Percent.isHex c = true → isPathSafe c = true) all
      (Codec.Percent.toNat_lt_of_isHex hx) hx

section

variable {path : List Char} (h : PlainPath path)
include h

theorem PlainPath.normalPath_eq : normalPath path = path := by
  have plain : ((Text.splitAtEach '/' path).contains ['.'] ||
      (Text.splitAtEach '/' path).contains ['.', '.']) = false := by
    simpa using ⟨h.noDot, h.noDots⟩
  rw [normalPath, plain, if_neg Bool.false_ne_true]

theorem PlainPath.pathFault?_eq (hasAuthority : Bool) : pathFault? true hasAuthority path = none := by
  rcases h.rooted with rfl | hr
  · simp [pathFault?]
  · simp [pathFault?, hr]

end

/-! ## Hosts and ports -/

/-- A host as it stands in an address: a name, or an address in brackets. -/
inductive Host where
  | name (text : List Char)
  | literal (address : List Char)

def Host.text : Host → List Char
  | .name text => text
  | .literal address => '[' :: address ++ [']']

/-- The host holds no character that separates it from the rest of an address. -/
def Host.Proper : Host → Prop
  | .name text => text ≠ [] ∧ ∀ c ∈ text, isDelimiter c = false ∧ isControl c = false
  | .literal address => ∀ c ∈ address, (c = ':' ∨ isDelimiter c = false) ∧ isControl c = false

/-- The number that a text of digits stands for. -/
def portNumber (text : List Char) : Nat := Numeral.ofDigits 10 (text.map fun c => c.toNat - 0x30)

/-- A host and the digits of a port, if there is one. -/
structure Authority where
  host : Host
  port : Option (List Char)
  proper : host.Proper
  digits : ∀ text ∈ port, ∀ c ∈ text, c.isDigit = true
  short : ∀ text ∈ port, text.length ≤ Numeral.digitLimit

namespace Authority

variable (authority : Authority)

def portText : List Char :=
  match authority.port with
  | some text => ':' :: text
  | none => []

def text : List Char := authority.host.text ++ authority.portText

/-- The address of a path. -/
def address (path : List Char) : List Char := "https://".toList ++ authority.text ++ path

/-- The number of the port, unless it goes without saying. -/
def number : Option Nat :=
  authority.port.bind fun text =>
    if text = [] ∨ portNumber text = 443 then none else some (portNumber text)

/-- The address of a path once it is read, with the written form of the host. -/
def url (written path : List Char) : Url where
  scheme := "https".toList
  user := []
  host := written
  port := authority.number.map Int.ofNat
  path := path
  query := none
  fragment := none

end Authority

/-! ## Ports -/

theorem isDigit_of_char {c : Char} (h : c.isDigit = true) : Numeral.IsDigit 10 (c.toNat - 0x30) c := by
  have all : ∀ n < 0x80, (Char.ofNat n).isDigit = true → (Char.ofNat n).toNat - 0x30 < 10 ∧
      Char.ofNat n = Nat.digitChar ((Char.ofNat n).toNat - 0x30) := by
    decide +kernel
  have low : c.toNat < 0x80 := toNat_lt_of_isAlphanum (Bool.or_eq_true_iff.2 (.inr h))
  obtain ⟨hd, hc⟩ := of_ascii (p := fun c => c.isDigit = true →
    c.toNat - 0x30 < 10 ∧ c = Nat.digitChar (c.toNat - 0x30)) all low h
  exact ⟨hd, .inl hc⟩

theorem char_of_isDigit {d : Nat} {c : Char} (h : Numeral.IsDigit 10 d c) :
    c.isDigit = true ∧ c.toNat - 0x30 = d := by
  have all : ∀ d < 10, ((Nat.digitChar d).isDigit = true ∧ (Nat.digitChar d).toNat - 0x30 = d) ∧
      (Nat.digitChar d).toUpper.isDigit = true ∧ (Nat.digitChar d).toUpper.toNat - 0x30 = d := by
    decide
  rcases h.2 with rfl | rfl
  · exact (all d h.1).1
  · exact (all d h.1).2

theorem forall₂_digits {text : List Char} (h : ∀ c ∈ text, c.isDigit = true) :
    List.Forall₂ (Numeral.IsDigit 10) (text.map fun c => c.toNat - 0x30) text := by
  rw [List.forall₂_map_left_iff, List.forall₂_same]
  exact fun c hc => isDigit_of_char (h c hc)

theorem portOf_digits {text : List Char} (hd : ∀ c ∈ text, c.isDigit = true)
    (hs : text.length ≤ Numeral.digitLimit) :
    portOf "https".toList text = .ok ((if text = [] ∨ portNumber text = 443 then none
      else some (portNumber text)).map Int.ofNat) := by
  unfold portOf
  by_cases hn : text = []
  · simp [hn]
  · have usual : usualPort? "https".toList = some 443 := by decide
    have read := Numeral.read_digits (forall₂_digits hd) (by simpa using hn)
      (by rwa [List.length_map])
    rw [← Numeral.ofDigits_eq] at read
    rw [if_neg (by simpa using hn), read, usual]
    show Except.ok (if some 443 = some (portNumber text : Int) then none
      else some (portNumber text : Int)) = _
    by_cases hu : portNumber text = 443
    · simp [hu]
    · rw [if_neg (by rw [Option.some.injEq]; omega), if_neg (by simp [hn, hu])]
      rfl

theorem map_digits {digits : List Nat} {chars : List Char}
    (h : List.Forall₂ (Numeral.IsDigit 10) digits chars) :
    (chars.map fun c => c.toNat - 0x30) = digits := by
  induction h with
  | nil => rfl
  | cons head _ ih => rw [List.map_cons, (char_of_isDigit head).2, ih]

/-- The digits that a number is written with give it back. -/
theorem portNumber_toDigits (n : Nat) : portNumber (Nat.toDigits 10 n) = n := by
  obtain ⟨digits, h, -, -, hv⟩ := Numeral.exists_digits_toDigits n
  rw [portNumber, map_digits h, Numeral.ofDigits_eq, hv]

theorem isDigit_of_mem_toDigits (n : Nat) : ∀ c ∈ Nat.toDigits 10 n, c.isDigit = true := by
  intro c hc
  obtain ⟨digits, h, -⟩ := Numeral.exists_digits_toDigits n
  obtain ⟨d, hd⟩ := Numeral.exists_isDigit h c hc
  exact (char_of_isDigit hd).1

theorem length_toDigits_portNumber {text : List Char} (hd : ∀ c ∈ text, c.isDigit = true)
    (hne : text ≠ []) : (Nat.toDigits 10 (portNumber text)).length ≤ text.length := by
  rw [portNumber, Numeral.ofDigits_eq]
  refine (Numeral.length_toDigits_le ?_ (by simpa using hne)).trans (by simp)
  intro d hm
  obtain ⟨c, hc, rfl⟩ := List.mem_map.1 (List.mem_reverse.1 hm)
  exact (isDigit_of_char (hd c hc)).1

/-! ## Writing again -/

/-- The host with a name in its written form. -/
def Host.rewritten (written : List Char) : Host → Host
  | .name _ => .name written
  | .literal address => .literal address

section

variable {host : Host} {written : List Char} (h : host.Proper)
  (he : encodeHost host.text = .ok written)
include h he

theorem Host.Proper.rewritten : (host.rewritten written).Proper := by
  cases host with
  | name text =>
    obtain ⟨some, safe⟩ := encodeHost_name h.1 (fun c hc => (h.2 c hc).1) he
    exact ⟨some, fun c hc => ⟨(of_isHostSafe (safe c hc)).1, (of_isHostSafe (safe c hc)).2.1⟩⟩
  | literal address => exact h

theorem Host.Proper.text_rewritten :
    (if written.contains ':' then '[' :: written ++ [']'] else written) =
      (host.rewritten written).text := by
  cases host with
  | name text =>
    have safe := (encodeHost_name h.1 (fun c hc => (h.2 c hc).1) he).2
    have noColon : ¬ written.contains ':' = true := by
      intro hc
      exact absurd (safe ':' (List.contains_iff_mem.1 hc)) (by decide)
    rw [if_neg noColon]
    rfl
  | literal address =>
    rw [Host.text, encodeHost_literal] at he
    split at he
    · rename_i ipv6
      cases he
      rw [if_pos (List.contains_iff_mem.2 (mem_of_isIpv6 ipv6).1)]
      rfl
    · cases he

end

namespace Authority

variable (authority : Authority) {written : List Char}

theorem number_cases :
    authority.number = none ∨ ∃ text ∈ authority.port, text ≠ [] ∧ portNumber text ≠ 443 ∧
      authority.number = some (portNumber text) := by
  cases hp : authority.port with
  | none => exact .inl (by rw [number, hp]; rfl)
  | some text =>
    by_cases h : text = [] ∨ portNumber text = 443
    · exact .inl (by rw [number, hp, Option.bind_some, if_pos h])
    · rw [not_or] at h
      refine .inr ⟨text, rfl, h.1, h.2, ?_⟩
      rw [number, hp, Option.bind_some, if_neg (not_or.2 h)]

/-- The host and the port as they are written once the address is read. -/
def rewritten (he : encodeHost authority.host.text = .ok written) : Authority where
  host := authority.host.rewritten written
  port := authority.number.map (Nat.toDigits 10)
  proper := authority.proper.rewritten he
  digits := by
    intro text ht
    obtain ⟨n, -, rfl⟩ := Option.map_eq_some_iff.1 ht
    exact isDigit_of_mem_toDigits n
  short := by
    intro text ht
    obtain ⟨n, hn, rfl⟩ := Option.map_eq_some_iff.1 ht
    rcases authority.number_cases with hnone | ⟨port, hp, some, -, hnumber⟩
    · cases hnone.symm.trans hn
    · cases hnumber.symm.trans hn
      exact (length_toDigits_portNumber (authority.digits port hp) some).trans
        (authority.short port hp)

section

variable (he : encodeHost authority.host.text = .ok written)

theorem host_rewritten : (authority.rewritten he).host = authority.host.rewritten written := rfl

theorem port_rewritten : (authority.rewritten he).port = authority.number.map (Nat.toDigits 10) := rfl

theorem number_rewritten : (authority.rewritten he).number = authority.number := by
  rcases authority.number_cases with hn | ⟨text, -, -, unusual, hn⟩
  · rw [number, port_rewritten, hn]
    rfl
  · rw [number, port_rewritten, hn, Option.map_some, Option.bind_some, portNumber_toDigits,
      if_neg (not_or.2 ⟨Nat.toDigits_ne_nil, unusual⟩)]

theorem text_ne_nil : authority.text ≠ [] := by
  have proper := authority.proper
  rw [text]
  cases hh : authority.host with
  | name name =>
    rw [hh] at proper
    exact fun hn => proper.1 (List.append_eq_nil_iff.1 hn).1
  | literal address => exact List.cons_ne_nil _ _

theorem hostAndPort_url (path : List Char) :
    (authority.url written path).hostAndPort = (authority.rewritten he).text := by
  rw [hostAndPort, text, portText, port_rewritten]
  refine congrArg₂ (· ++ ·) (authority.proper.text_rewritten he) ?_
  rw [url]
  cases authority.number with
  | none => rfl
  | some n =>
    show ':' :: (Nat.repr n).toList = ':' :: Nat.toDigits 10 n
    rw [Nat.repr, String.toList_ofList]

/-- An address that has been read is written like one of its kind. -/
theorem toText_url (path : List Char) :
    (authority.url written path).toText = (authority.rewritten he).address path := by
  have whole : (authority.url written path).authority = (authority.rewritten he).text := by
    rw [Url.authority, hostAndPort_url authority he]
    exact List.nil_append _
  have nonempty : (authority.rewritten he).text.isEmpty = false :=
    List.isEmpty_eq_false_iff.2 (authority.rewritten he).text_ne_nil
  unfold toText address
  rw [whole, nonempty]
  generalize (authority.rewritten he).text = text
  show "https".toList ++ [':'] ++ '/' :: '/' :: text ++ path ++ [] ++ [] = _
  have start : "https://".toList = "https".toList ++ [':', '/', '/'] := by decide
  simp [start]

theorem url_rewritten (again path : List Char) :
    (authority.rewritten he).url again path = authority.url again path := by
  rw [url, url, number_rewritten]

end

/-! ## Reading -/

theorem mem_portText {c : Char} (h : c ∈ authority.portText) : c = ':' ∨ c.isDigit = true := by
  rw [portText] at h
  split at h
  · rename_i text ht
    exact (List.mem_cons.1 h).imp_right (authority.digits text ht c)
  · cases h

theorem mem_text {c : Char} (h : c ∈ authority.text) :
    (c = ':' ∨ c = '[' ∨ c = ']' ∨ isDelimiter c = false) ∧ isControl c = false := by
  have proper := authority.proper
  rcases List.mem_append.1 h with hc | hc
  · cases hh : authority.host with
    | name name =>
      rw [hh] at proper hc
      exact ⟨.inr (.inr (.inr (proper.2 c hc).1)), (proper.2 c hc).2⟩
    | literal address =>
      rw [hh, Host.text, List.cons_append, List.mem_cons, List.mem_append, List.mem_singleton] at hc
      rw [hh] at proper
      rcases hc with rfl | hc | rfl
      · exact ⟨.inr (.inl rfl), rfl⟩
      · exact ⟨(proper c hc).1.imp_right fun hd => .inr (.inr hd), (proper c hc).2⟩
      · exact ⟨.inr (.inr (.inl rfl)), rfl⟩
  · rcases authority.mem_portText hc with rfl | digit
    · exact ⟨.inl rfl, rfl⟩
    · have safe := isHostSafe_of_isHex (Codec.Percent.isHex_of_isDigit digit)
      obtain ⟨hd, hcontrol, -⟩ := of_isHostSafe safe
      exact ⟨.inr (.inr (.inr hd)), hcontrol⟩

theorem not_mem_text {mark : Char} (h : mark ∈ ['/', '?', '#', '@']) : mark ∉ authority.text := by
  intro hm
  have allowed := (authority.mem_text hm).1
  simp only [List.mem_cons, List.not_mem_nil, or_false] at h
  rcases h with rfl | rfl | rfl | rfl <;> exact absurd allowed (by decide)

theorem portText_head? : ∀ c ∈ authority.portText.head?, (c != ':') = false := by
  rw [portText]
  split
  · rintro c ⟨⟩
    rfl
  · rintro c ⟨⟩

theorem bracket_not_mem_portText {bracket : Char} (h : bracket = '[' ∨ bracket = ']') :
    bracket ∉ authority.portText := by
  intro hm
  have other := authority.mem_portText hm
  rcases h with rfl | rfl <;> exact absurd other (by decide)

theorem splitAuthority_text :
    splitAuthority authority.text = ([], authority.host.text, authority.port.getD []) := by
  have proper := authority.proper
  have port : (if authority.portText.head? = some ':' then authority.portText.tail
      else authority.portText) = authority.port.getD [] := by
    rw [portText]
    cases authority.port with
    | none => rfl
    | some text => rfl
  rw [splitAuthority, Text.cutLast_none (authority.not_mem_text (by decide)), text]
  cases hh : authority.host with
  | name name =>
    rw [hh] at proper
    have noColon : ∀ c ∈ name, (c != ':') = true :=
      Text.ne_mark fun hc => absurd (proper.2 ':' hc).1 (by decide)
    have cutName : (name ++ authority.portText).takeWhile (· != ':') = name :=
      Text.takeWhile_append_stop noColon authority.portText_head?
    have cutPort : (name ++ authority.portText).dropWhile (· != ':') = authority.portText :=
      Text.dropWhile_append_stop noColon authority.portText_head?
    rw [Host.text]
    dsimp only
    split
    · rename_i inner he
      obtain ⟨c, rest, rfl⟩ := List.exists_cons_of_ne_nil proper.1
      rw [List.cons_append, List.cons.injEq] at he
      exact absurd (proper.2 '[' (he.1 ▸ List.mem_cons_self)).1 (by decide)
    · rw [cutName, cutPort, port]
      rfl
  | literal address =>
    have inner : Host.text (.literal address) ++ authority.portText =
        '[' :: (address ++ ']' :: authority.portText) := by
      simp [Host.text]
    simp only [inner, Text.cutLast_mark (authority.bracket_not_mem_portText (.inr rfl)), port]
    rfl

theorem address_eq (path : List Char) :
    authority.address path =
      'h' :: 't' :: 't' :: 'p' :: 's' :: ':' :: '/' :: '/' :: (authority.text ++ path) := by
  have start : "https://".toList = ['h', 't', 't', 'p', 's', ':', '/', '/'] := by decide
  unfold address
  rw [start, List.append_assoc]
  rfl

variable {path : List Char} (hp : PlainPath path)
include hp

theorem parts_address :
    Parts.ofText (authority.address path) = ⟨"https".toList, authority.text, path, none, none⟩ := by
  have scheme : scheme? (authority.address path) =
      some ("https".toList, '/' :: '/' :: (authority.text ++ path)) := by
    have name : "https".toList = ['h', 't', 't', 'p', 's'] := by decide
    rw [address_eq, name]
    rfl
  have inside : ∀ c ∈ authority.text, (c != '/' && c != '?' && c != '#') = true := by
    intro c hc
    simp only [Bool.and_eq_true, bne_iff_ne]
    refine ⟨⟨?_, ?_⟩, ?_⟩ <;> rintro rfl
    · exact authority.not_mem_text (by decide) hc
    · exact authority.not_mem_text (by decide) hc
    · exact authority.not_mem_text (by decide) hc
  have stop : ∀ c ∈ path.head?, (c != '/' && c != '?' && c != '#') = false := by
    intro c hc
    rcases hp.rooted with rfl | hr
    · cases hc
    · cases hr.symm.trans hc
      rfl
  have noHash : '#' ∉ path := fun hm => (of_isPathSafe (hp.safe _ hm)).2.2 rfl
  have noQuestion : '?' ∉ path := fun hm => (of_isPathSafe (hp.safe _ hm)).2.1 rfl
  rw [Parts.ofText, scheme]
  simp only [Parts.behindScheme, Text.takeWhile_append_stop inside stop,
    Text.dropWhile_append_stop inside stop, Text.cutFirst_none noHash, Text.cutFirst_none noQuestion]

theorem ofParts_address :
    ofParts ⟨"https".toList, authority.text, path, none, none⟩ =
      match encodeHost authority.host.text with
      | .ok written => .ok (authority.url written path)
      | .error what => .error (.host what (String.ofList authority.host.text)) := by
  have port : portOf "https".toList (authority.port.getD []) =
      .ok (authority.number.map Int.ofNat) := by
    rw [number]
    cases hport : authority.port with
    | none => rfl
    | some text => exact portOf_digits (authority.digits text hport) (authority.short text hport)
  have someScheme : (!"https".toList.isEmpty) = true := by decide
  unfold ofParts
  simp only [authority.splitAuthority_text]
  cases encodeHost authority.host.text with
  | error what => rfl
  | ok written =>
    simp only [pure, Except.pure, bind, Except.bind, port, someScheme, hp.pathFault?_eq,
      hp.normalPath_eq, ite_self, Codec.Percent.escapeAgain_of_safe hp.safe]
    have lower : "https".toList.map Char.toLower = "https".toList := by decide
    rw [lower]
    rfl

theorem find?_control : (authority.address path).find? isControl = none := by
  have start : "https://".toList.any isControl = false := by decide
  unfold address
  simp only [List.find?_eq_none, List.forall_mem_append, Bool.not_eq_true]
  exact ⟨⟨fun c hc => Bool.eq_false_iff.2 (List.any_eq_false.1 start c hc),
    fun c hc => (authority.mem_text hc).2⟩, fun c hc => (of_isPathSafe (hp.safe c hc)).1⟩

/-- Of a secure address that is not too long, only the host can fail to be read. -/
theorem ofText_address {url : Url} :
    ofText (authority.address path) = .ok url ↔
      (authority.address path).length ≤ lengthLimit ∧
        ∃ written, encodeHost authority.host.text = .ok written ∧ url = authority.url written path := by
  have noColon : ¬ (authority.address path).head? = some ':' := by
    rw [address_eq, List.head?_cons]
    decide
  by_cases hl : lengthLimit < (authority.address path).length
  · rw [ofText, if_pos hl]
    constructor
    · rintro ⟨⟩
    · rintro ⟨h, -⟩
      exact absurd h (Nat.not_le.2 hl)
  · have read : ofText (authority.address path) =
        ofParts ⟨"https".toList, authority.text, path, none, none⟩ := by
      rw [ofText, if_neg hl, authority.find?_control hp, if_neg noColon, authority.parts_address hp]
      split
      · rename_i h
        cases h
      · rfl
    rw [read, authority.ofParts_address hp]
    cases encodeHost authority.host.text with
    | error what => simp
    | ok written => simp [Nat.not_lt.1 hl, eq_comm]

end Authority

end PageScript.Url

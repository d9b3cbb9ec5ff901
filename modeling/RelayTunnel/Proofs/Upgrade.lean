import RelayTunnel.Proofs.Parameters
import RelayTunnel.Settings.Defect
import RelayTunnel.WebSocket.Upgrade

/-!
# Which requests can be made

Settings are checked once, and a request is checked again when it is turned into one for an upgrade.
What the URL rules allow in an authority is nearly what the rules for requests allow there: the host
may hold four more characters. The path and the query of a request to the relay are always fine. So
settings without a defect lead to requests that can be made, provided that the user agent can be the
value of a header, that the host holds none of these characters, and that the URL is not too long.
-/

namespace RelayTunnel

/-- The characters that a domain may hold but the authority of a request may not. -/
def Host.offending : List Char := "\"\x60\x7b\x7d".toList

/-- Whether a host can be the one of a request. -/
def Host.isRequestable : Host → Bool
  | domain name => name.toList.all fun c => !offending.contains c
  | address _ => true

/-! ## Addresses of the second family -/

namespace IpAddress

/-- A run of zeros lies within the groups seen. -/
theorem longestZeroRun_bound {index : Nat} {run best : ZeroRun} (groups : List Nat)
    (within : run.start + run.length ≤ index) (known : best.start + best.length ≤ index) :
    let longest := longestZeroRun index run best groups
    longest.start + longest.length ≤ index + groups.length := by
  induction groups generalizing index run best with
  | nil => exact known
  | cons group groups ih =>
    have extended : (run.extend index group).start + (run.extend index group).length ≤
        index + 1 := by
      unfold ZeroRun.extend
      split
      · exact Nat.zero_le _
      · split
        · exact Nat.le_refl _
        · exact Nat.succ_le_succ within
    rw [List.length_cons, Nat.add_comm groups.length, ← Nat.add_assoc]
    exact ih extended (by split <;> omega)

theorem count_hexGroup (group : Nat) : (hexGroup group).toList.count ':' = 0 := by
  rw [hexGroup, String.toList_ofList, List.count_eq_zero]
  intro member
  have digits : ':' ∉ lowerDigits := by decide
  exact digits (toDigits_mem (by decide) (by decide) member)

/-- Between groups there is one colon less than there are groups. -/
theorem count_joinGroups (groups : List Nat) :
    (joinGroups groups).toList.count ':' = groups.length - 1 := by
  rw [joinGroups, String.toList_intercalate, List.map_map]
  induction groups with
  | nil => rfl
  | cons group groups ih =>
    cases groups with
    | nil => simpa using count_hexGroup group
    | cons next groups =>
      have here := count_hexGroup group
      rw [List.map_cons, List.map_cons, List.intercalate_cons_cons, List.count_append,
        List.count_append, ← List.map_cons, ih]
      simp [here]
      omega

/-- An address has no more colons than an authority may hold. -/
theorem count_grouped (bits : BitVec 128) :
    (grouped bits).toList.count ':' ≤ RequestTarget.maxColons := by
  -- eight groups have seven colons; around a run of zeros at least two groups are left out
  have eight : (groups bits).length = 8 := rfl
  have bound := @longestZeroRun_bound 0 ⟨0, 0⟩ ⟨0, 0⟩ (groups bits) (Nat.le_refl 0) (Nat.le_refl 0)
  simp only [grouped, RequestTarget.maxColons]
  split
  · have colons : "::".toList.count ':' = 2 := by decide
    simp only [String.toList_append, List.count_append, count_joinGroups, List.length_take,
      List.length_drop, colons]
    omega
  · rw [count_joinGroups, eight]
    decide

end IpAddress

/-! ## Scanning an authority -/

namespace RequestTarget

/-- Whether a character means nothing but itself in an authority. -/
def isPlain (c : Char) : Bool := c.isAlphanum || "!$&'()*+,-.;=_~".toList.contains c

theorem isAuthorityChar_of_isPlain {c : Char} (plain : isPlain c = true) :
    isAuthorityChar c = true := by
  have more : ∀ c ∈ "!$&'()*+,-.;=_~".toList, c ∈ "!$&'()*+,-.:;=@[]_~".toList :=
    List.all_iff_forall_prop.mp (by decide)
  rw [isPlain, Bool.or_eq_true, List.contains_iff_mem] at plain
  rw [isAuthorityChar, Bool.or_eq_true, String.contains_char_eq, decide_eq_true_eq]
  exact plain.imp_right (more c)

theorem isPlain_lowerDigits : ∀ c ∈ lowerDigits, isPlain c = true :=
  List.all_eq_true.mp (by decide)

theorem isPlain_of_isDomainChar {c : Char} (allowed : Host.isDomainChar c = true)
    (requestable : Host.offending.contains c = false) : isPlain c = true := by
  have plain : Host.isDomainChar c = true → Host.offending.contains c = false → isPlain c = true :=
    of_ascii (P := fun c => _ = true → Host.offending.contains c = false → isPlain c = true)
      (by decide) (Host.ascii_of_isDomainChar allowed)
  exact plain allowed requestable

theorem isPlain_of_isSafe {c : Char} (safe : Percent.isSafe Percent.userSet c = true) :
    isPlain c = true ∨ c = '%' := by
  have plain : Percent.isSafe Percent.userSet c = true → isPlain c = true ∨ c = '%' :=
    of_ascii (P := fun c => _ = true → isPlain c = true ∨ c = '%') (by decide)
      (Percent.ascii_of_isSafe safe)
  exact plain safe

namespace AuthorityScan

variable {scan : AuthorityScan} {text : List Char}

theorem next_plain {c : Char} (plain : isPlain c = true) : scan.next c = .ok scan := by
  have unlike {d : Char} (special : isPlain d = false) : c ≠ d := by
    rintro rfl
    cases plain.symm.trans special
  rw [next, if_neg (unlike (by decide)), if_neg (unlike (by decide)), if_neg (unlike (by decide)),
    if_neg (unlike (by decide)), if_neg (unlike (by decide)),
    if_pos (isAuthorityChar_of_isPlain plain)]

theorem next_offending {c : Char} (offending : c ∈ Host.offending) :
    scan.next c = .error .invalidCharacter := by
  have unlike : ∀ d ∈ Host.offending, d ≠ ':' ∧ d ≠ '[' ∧ d ≠ ']' ∧ d ≠ '@' ∧ d ≠ '%' :=
    List.all_iff_forall_prop.mp (by decide)
  have illegal : ∀ d ∈ Host.offending,
      ¬ (d.isAlphanum || decide (d ∈ "!$&'()*+,-.:;=@[]_~".toList)) = true :=
    List.all_iff_forall_prop.mp (by decide)
  obtain ⟨colon, opening, closing, sign, percent⟩ := unlike c offending
  rw [next, if_neg colon, if_neg opening, if_neg closing, if_neg sign, if_neg percent,
    isAuthorityChar, String.contains_char_eq, if_neg (illegal c offending)]

/-- A text is scanned from where the one before it has led. -/
theorem foldlM_append {behind : List Char} {scan' : AuthorityScan}
    (front : text.foldlM next scan = .ok scan') :
    (text ++ behind).foldlM next scan = behind.foldlM next scan' := by
  rw [List.foldlM_append, front]
  rfl

theorem foldlM_plain (plain : ∀ c ∈ text, isPlain c = true) : text.foldlM next scan = .ok scan := by
  induction text with
  | nil => rfl
  | cons c text ih =>
    obtain ⟨here, behind⟩ := List.forall_mem_cons.mp plain
    rw [List.foldlM_cons, next_plain here]
    exact ih behind

/-- An encoded text leaves behind at most that something was encoded. -/
theorem foldlM_encoded (encoded : ∀ c ∈ text, isPlain c = true ∨ c = '%') :
    ∃ percent, text.foldlM next scan = .ok { scan with percent } := by
  induction text generalizing scan with
  | nil => exact ⟨scan.percent, rfl⟩
  | cons c text ih =>
    obtain ⟨here, behind⟩ := List.forall_mem_cons.mp encoded
    rw [List.foldlM_cons]
    rcases here with plain | rfl
    · rw [next_plain plain]
      exact ih behind
    · exact @ih { scan with percent := true } behind

/-- Colons are counted. -/
theorem foldlM_colons (known : ∀ c ∈ text, c = ':' ∨ isPlain c = true)
    (few : scan.colons + text.count ':' ≤ maxColons) :
    text.foldlM next scan = .ok { scan with colons := scan.colons + text.count ':' } := by
  induction text generalizing scan with
  | nil => rfl
  | cons c text ih =>
    obtain ⟨here, behind⟩ := List.forall_mem_cons.mp known
    rw [List.foldlM_cons]
    rcases here with rfl | plain
    · rw [List.count_cons_self] at few
      have room : ¬ maxColons ≤ scan.colons := by omega
      have counted : scan.next ':' = .ok { scan with colons := scan.colons + 1 } := by
        rw [next, if_pos rfl, if_neg room]
      have fewer : scan.colons + 1 + text.count ':' ≤ maxColons := by omega
      have further := @ih { scan with colons := scan.colons + 1 } behind fewer
      rw [counted, List.count_cons_self, Nat.add_comm (text.count ':'), ← Nat.add_assoc]
      exact further
    · have other : c ≠ ':' := by
        rintro rfl
        cases plain
      rw [List.count_cons_of_ne other] at few ⊢
      rw [next_plain plain]
      exact ih behind few

/-- Nothing of a user name and a password matters behind them. -/
theorem foldlM_userText {url : Url} (h : url.IsSocket) :
    (Url.userText url).toList.foldlM next {} = .ok {} := by
  have encoded {part : String}
      (safe : ∀ c ∈ part.toList, Percent.isSafe Percent.userSet c = true) :
      ∀ c ∈ part.toList, isPlain c = true ∨ c = '%' := fun c member =>
    isPlain_of_isSafe (safe c member)
  -- whatever colons and percent signs have been seen, the at sign makes the scan forget them
  unfold Url.userText
  split
  · rfl
  · obtain ⟨percent, name⟩ := @foldlM_encoded {} _ (encoded h.username)
    split
    · rw [String.toList_append, foldlM_append name]
      rfl
    · obtain ⟨percent', secret⟩ :=
        @foldlM_encoded { colons := 1, percent } _ (encoded h.password)
      have colon : ":".toList.foldlM next { percent } = .ok { colons := 1, percent } := rfl
      rw [String.toList_append, String.toList_append, String.toList_append, List.append_assoc,
        List.append_assoc, foldlM_append name, foldlM_append colon, foldlM_append secret]
      rfl

/-- The scan of a domain ends at the first character that a request may not have there. -/
theorem foldlM_offending {c : Char} (allowed : ∀ c ∈ text, Host.isDomainChar c = true)
    (member : c ∈ text) (offending : c ∈ Host.offending) :
    text.foldlM next scan = .error .invalidCharacter := by
  induction text with
  | nil => cases member
  | cons d text ih =>
    obtain ⟨here, behind⟩ := List.forall_mem_cons.mp allowed
    rw [List.foldlM_cons]
    cases known : Host.offending.contains d with
    | false =>
      have later : c ∈ text := by
        rcases List.mem_cons.mp member with rfl | later
        · cases known.symm.trans (List.contains_iff_mem.mpr offending)
        · exact later
      rw [next_plain (isPlain_of_isDomainChar here known)]
      exact ih behind later
    | true =>
      rw [next_offending (List.contains_iff_mem.mp known)]
      rfl

/-- Of a host at most a pair of brackets is left behind. -/
theorem foldlM_host {host : Host} (plain : host.IsPlain) (requestable : host.isRequestable = true) :
    ∃ bracketed, host.text.toList.foldlM next {} =
      .ok { opened := bracketed, closed := bracketed } := by
  cases host with
  | domain name =>
    refine ⟨false, foldlM_plain fun c member => ?_⟩
    have free := List.all_eq_true.mp requestable c member
    exact isPlain_of_isDomainChar (plain.2 c member) (by simpa using free)
  | address ip =>
    cases ip with
    | v4 bits =>
      refine ⟨false, foldlM_plain fun c member => ?_⟩
      rcases IpAddress.dotted_mem member with rfl | digit
      · decide
      · exact isPlain_lowerDigits c digit
    | v6 bits =>
      refine ⟨true, ?_⟩
      have text : (Host.address (.v6 bits)).text.toList =
          '[' :: ((IpAddress.grouped bits).toList ++ [']']) := by
        simp [Host.text, toString]
      have known : ∀ c ∈ (IpAddress.grouped bits).toList, c = ':' ∨ isPlain c = true :=
        fun c member => (IpAddress.grouped_mem member).imp_right (isPlain_lowerDigits c)
      have inside := @foldlM_colons { opened := true } _ known
        (by simpa using IpAddress.count_grouped bits)
      have opening : ['['].foldlM next {} = .ok { opened := true } := rfl
      rw [text, ← List.singleton_append, foldlM_append opening, foldlM_append inside]
      rfl

/-- A port takes one colon. -/
theorem foldlM_port (port : Option Nat) (bracketed : Bool) :
    ∃ colons, colons ≤ 1 ∧
      ((port.map fun port => s!":{port}").getD "").toList.foldlM next
          { opened := bracketed, closed := bracketed } =
        .ok { colons, opened := bracketed, closed := bracketed } := by
  cases port with
  | none => exact ⟨0, Nat.zero_le 1, rfl⟩
  | some port =>
    have text : s!":{port}".toList = ':' :: Nat.toDigits 10 port := by simp [toString]
    have digits : ∀ c ∈ Nat.toDigits 10 port, isPlain c = true := fun c member =>
      isPlain_lowerDigits c (toDigits_mem (by decide) (by decide) member)
    refine ⟨1, Nat.le_refl 1, ?_⟩
    rw [Option.map_some, Option.getD_some, text, List.foldlM_cons]
    exact @foldlM_plain { colons := 1, opened := bracketed, closed := bracketed } _ digits

end AuthorityScan

/-- A host is not empty, and no at sign stands in it. -/
theorem toList_host {host : Host} (plain : host.IsPlain) :
    host.text.toList ≠ [] ∧ '@' ∉ host.text.toList := by
  cases host with
  | domain name =>
    refine ⟨fun empty => plain.1 (String.toList_eq_nil_iff.mp empty), fun member => ?_⟩
    cases plain.2 '@' member
  | address ip =>
    refine ⟨?_, fun member => ?_⟩
    · cases ip <;> simp [Host.text, IpAddress.dotted, toString]
    · have outside : '@' ∉ Host.addressAlphabet := by decide
      exact outside (Host.text_address_mem member)

/-- The last character of an authority is one of its host or of its port. -/
theorem getLast?_authority {url : Url} {host : Host} (located : url.host = some host)
    (plain : host.IsPlain) : url.authority.getLast? ≠ some '@' ∧ url.authority ≠ [] := by
  obtain ⟨nonempty, noAt⟩ := toList_host plain
  have behind : url.authority = (Url.userText url).toList ++ (host.text.toList ++
      ((url.port.map fun port => s!":{port}").getD "").toList) := by
    rw [Url.authority, located, List.append_assoc, Option.map_some, Option.getD_some]
  refine ⟨fun found => ?_, by simp [behind, nonempty]⟩
  rw [behind, List.getLast?_append_of_ne_nil _ (List.append_ne_nil_of_left_ne_nil nonempty _)]
    at found
  rcases List.mem_append.mp (List.mem_of_getLast? found) with inside | port
  · exact noAt inside
  · have outside : '@' ∉ Host.addressAlphabet := by decide
    exact outside (Url.portText_mem port)

/-- The authority of a URL of a WebSocket is one of a request, if its host can be. -/
theorem checkAuthority_authority {url : Url} {host : Host} (h : url.IsSocket)
    (located : url.host = some host) (requestable : host.isRequestable = true) :
    checkAuthority url.authority = .ok () := by
  have plain : host.IsPlain := by
    obtain ⟨other, same, plain⟩ := h.host
    cases located.symm.trans same
    exact plain
  obtain ⟨bracketed, inside⟩ := AuthorityScan.foldlM_host plain requestable
  obtain ⟨colons, few, port⟩ := AuthorityScan.foldlM_port url.port bracketed
  have scanned : url.authority.foldlM AuthorityScan.next {} =
      .ok { colons, opened := bracketed, closed := bracketed } := by
    rw [Url.authority, located, List.append_assoc, Option.map_some, Option.getD_some,
      AuthorityScan.foldlM_append (AuthorityScan.foldlM_userText h),
      AuthorityScan.foldlM_append inside, port]
  obtain ⟨last, full⟩ := getLast?_authority located plain
  have passes : ¬ ((bracketed != bracketed || decide (1 < colons) ||
      decide (url.authority.getLast? = some '@') || false) = true) := by
    simp [last, few]
  rw [checkAuthority, scanned]
  show (if (bracketed != bracketed || decide (1 < colons) ||
      decide (url.authority.getLast? = some '@') || false) = true then _ else _) = _
  rw [if_neg passes, if_neg (by simpa using full)]
  rfl

/-! ## The path and the query -/

theorem isPathChar_of_isSafe {c : Char} (safe : c = '/' ∨ Percent.isSafe Percent.pathSet c = true) :
    isPathChar c = true ∧ c ≠ '?' ∧ c ≠ '#' := by
  rw [isPathChar, String.contains_char_eq]
  rcases safe with rfl | safe
  · decide
  · have fine : Percent.isSafe Percent.pathSet c = true →
        (decide (0x20 < c.toNat) && !decide (c ∈ "#<>?\x60".toList)) = true ∧ c ≠ '?' ∧ c ≠ '#' :=
      of_ascii (P := fun c => _ = true →
          (decide (0x20 < c.toNat) && !decide (c ∈ "#<>?\x60".toList)) = true ∧ c ≠ '?' ∧ c ≠ '#')
        (by decide) (Percent.ascii_of_isSafe safe)
    exact fine safe

/-- The characters of a query that was written for pairs. -/
theorem isQueryChar_of_mem {pairs : List (String × String)} {c : Char}
    (member : c ∈ Form.query pairs) : isQueryChar c = true ∧ c ≠ '#' := by
  have fine : ∀ c ∈ '&' :: '=' :: Form.alphabet,
      (decide (0x20 < c.toNat) && !decide (c ∈ "\"#<>".toList)) = true ∧ c ≠ '#' :=
    List.all_iff_forall_prop.mp (by decide)
  rw [isQueryChar, String.contains_char_eq]
  exact fine c (Form.query_mem member)

/-- The path of a URL of a WebSocket and such a query are those of a request. -/
theorem checkPath_tail {url : Url} {pairs : List (String × String)} (h : url.IsSocket)
    (query : url.query = some (String.ofList (Form.query pairs))) :
    checkPath (url.pathText.toList ++ url.tail) = .ok () := by
  have path : ∀ c ∈ url.pathText.toList, isPathChar c = true ∧ c ≠ '?' ∧ c ≠ '#' := fun c member =>
    isPathChar_of_isSafe (h.pathText_mem member)
  have free : '#' ∉ (String.ofList (Form.query pairs)).toList := by
    rw [String.toList_ofList]
    exact fun member => (isQueryChar_of_mem member).2 rfl
  obtain ⟨shown, front, -⟩ := Url.cut_tail (fun c member => (path c member).2) query free
  rw [String.toList_ofList] at shown front
  have behind : (url.pathText.toList ++ '?' :: Form.query pairs).drop
      (url.pathText.toList.length + 1) = Form.query pairs := by
    simp [List.drop_append]
  have legal : url.pathText.toList.all isPathChar = true ∧
      (Form.query pairs).all isQueryChar = true :=
    ⟨List.all_eq_true.mpr fun c member => (path c member).1,
      List.all_eq_true.mpr fun c member => (isQueryChar_of_mem member).1⟩
  simp only [checkPath, shown, front, behind, legal, Bool.and_self, if_true]

/-- Of a URL of a WebSocket that is not too long the parts behind the scheme are checked. -/
theorem authority_of_isSocket {url : Url} {host : Host} {query : String} (h : url.IsSocket)
    (located : url.host = some host) (query : url.query = some query)
    (short : url.text.utf8ByteSize ≤ maxLength) :
    RequestTarget.authority url =
      (checkAuthority url.authority >>= fun _ => checkPath (url.pathText.toList ++ url.tail) >>=
        fun _ => .ok (String.ofList url.authority)) := by
  have behind : url.text.toList.drop (url.scheme.length + 3) =
      url.authority ++ (url.pathText.toList ++ url.tail) := by
    rw [Url.toList_text located, List.append_assoc, List.append_assoc]
    exact List.drop_left' (by simp [← String.length_toList])
  have inside : ∀ c ∈ url.authority, (!endsAuthority c) = true := fun c member => by
    simp [h.authority_inner member]
  have outside : ∀ c ∈ (url.pathText.toList ++ url.tail).head?, (!endsAuthority c) = false := by
    obtain ⟨segments, path, -⟩ := h.path
    cases segments with
    | nil =>
      simp [Url.pathText, path, Url.tail, query, endsAuthority]
    | cons segment segments =>
      simp [Url.pathText, path, endsAuthority]
  have cut := (takeWhile_append_eq inside outside).1
  rw [RequestTarget.authority]
  simp only [if_neg (Nat.not_lt.mpr short), behind, cut, List.drop_left]
  rfl

/-- A URL of a WebSocket with such a query is the target of a request if it is not too long. -/
theorem authority_eq_ok {url : Url} {host : Host} {pairs : List (String × String)}
    (h : url.IsSocket) (located : url.host = some host) (requestable : host.isRequestable = true)
    (query : url.query = some (String.ofList (Form.query pairs)))
    (short : url.text.utf8ByteSize ≤ maxLength) :
    RequestTarget.authority url = .ok (String.ofList url.authority) := by
  rw [authority_of_isSocket h located query short, checkAuthority_authority h located requestable,
    checkPath_tail h query]
  rfl

end RequestTarget

/-! ## Headers -/

namespace Upgrade

/-- The upgrade request for a URL: the headers that every one has, and those of the relay. -/
def toRelay (token userAgent : String) (url : Url) : Upgrade where
  url := url
  headers := standardHeaders (String.ofList url.authority) ++
    [ ("authorization", "Bearer " ++ token), ("origin", Endpoint.origin),
      ("user-agent", userAgent), ("sec-websocket-protocol", Request.relaySubprotocol) ]

/-- The names of the headers of a request to the relay are such that headers can have. -/
theorem isHeaderName_authorized : isHeaderName "Authorization" = true ∧
    isHeaderName "Origin" = true ∧ isHeaderName "User-Agent" = true := by
  decide +kernel

/-- So none of its headers is refused for its name. -/
theorem isHeaderName_of_mem {e : Endpoint} {token : String} {url : Url}
    {header : String × String} (member : header ∈ (Request.authorized e token url).headers) :
    isHeaderName header.1 = true := by
  obtain ⟨bearer, origin, agent⟩ := isHeaderName_authorized
  simp only [Request.authorized, List.mem_cons, List.not_mem_nil, or_false] at member
  rcases member with rfl | rfl | rfl
  · exact bearer
  · exact origin
  · exact agent

theorem addHeader_eq_ok {headers : List (String × String)} {name value : String}
    (named : isHeaderName name = true) (legal : isHeaderValue value = true) :
    addHeader headers (name, value) = .ok (insertHeader headers name.toLower value) := by
  simp only [addHeader, named, legal, Bool.not_true, Bool.false_eq_true, if_false, if_true]

theorem isHeaderValue_bearer {token : String} (legal : isHeaderValue token = true) :
    isHeaderValue s!"Bearer {token}" = true := by
  have sign : "Bearer ".toList.all isValueChar = true := by decide
  have text : s!"Bearer {token}".toList = "Bearer ".toList ++ token.toList := by simp [toString]
  rw [isHeaderValue, text, List.all_append, sign, Bool.true_and]
  exact legal

/-- All headers of a request to the relay can be added if the user agent and the token can be
    values of headers. -/
theorem ofRequest_authorized {e : Endpoint} {token : String} {url : Url}
    (target : RequestTarget.authority url = .ok (String.ofList url.authority))
    (agent : isHeaderValue e.userAgent = true) (bearer : isHeaderValue token = true) :
    ofRequest (Request.authorized e token url) = .ok (toRelay token e.userAgent url) := by
  obtain ⟨first, second, third⟩ := isHeaderName_authorized
  have bearer := isHeaderValue_bearer bearer
  have origin : isHeaderValue Endpoint.origin = true := by decide
  have subprotocol : isHeaderValue Request.relaySubprotocol = true := by decide
  have lower : "Authorization".toLower = "authorization" ∧ "Origin".toLower = "origin" ∧
      "User-Agent".toLower = "user-agent" := by
    decide +kernel
  simp only [ofRequest, Request.authorized, target, List.foldlM_cons, List.foldlM_nil,
    addHeader_eq_ok first bearer, addHeader_eq_ok second origin, addHeader_eq_ok third agent,
    addSubprotocol, subprotocol, if_true, lower]
  rfl

/-- A user agent that cannot be the value of a header is the end of the request. -/
theorem ofRequest_agent {e : Endpoint} {token authority : String} {url : Url}
    (target : RequestTarget.authority url = .ok authority)
    (agent : isHeaderValue e.userAgent = false) (bearer : isHeaderValue token = true) :
    ofRequest (Request.authorized e token url) =
      .error (misuse "invalid value for header user-agent: failed to parse header value") := by
  obtain ⟨first, second, third⟩ := isHeaderName_authorized
  have bearer := isHeaderValue_bearer bearer
  have origin : isHeaderValue Endpoint.origin = true := by decide
  have lower : "User-Agent".toLower = "user-agent" := by decide +kernel
  have refused (headers : List (String × String)) :
      addHeader headers ("User-Agent", e.userAgent) =
        .error (misuse "invalid value for header user-agent: failed to parse header value") := by
    simp only [addHeader, third, agent, lower]
    rfl
  simp only [ofRequest, Request.authorized, target, List.foldlM_cons, addHeader_eq_ok first bearer,
    addHeader_eq_ok second origin]
  show (addHeader _ ("User-Agent", e.userAgent) >>= _) >>= _ = _
  rw [refused]
  rfl

/-- What is no target of a request cannot be asked for. -/
theorem ofRequest_target {request : Request} {defect : TargetDefect}
    (refused : RequestTarget.authority request.url = .error defect) :
    ofRequest request =
      .error (misuse s!"invalid relay request: HTTP format error: {defect.message}") := by
  simp only [ofRequest, refused]

/-- A text that is too long is no target, whatever else it is. -/
theorem ofRequest_tooLong {request : Request}
    (long : RequestTarget.maxLength < request.url.text.utf8ByteSize) :
    ofRequest request =
      .error (misuse "invalid relay request: HTTP format error: uri too long") := by
  have refused : RequestTarget.authority request.url = .error .tooLong := by
    simp only [RequestTarget.authority, if_pos long]
    rfl
  exact ofRequest_target refused

/-- What becomes of the request for an action of the relay. -/
theorem ofRequest_action {e : Endpoint} {host : Host} {token action : String}
    (socket : e.base.IsSocket) (located : e.base.host = some host)
    (requestable : host.isRequestable = true) (agent : isHeaderValue e.userAgent = true)
    (bearer : isHeaderValue token = true) (pairs : List (String × String))
    (safe : ∀ c ∈ action.toList, Percent.isSafe Percent.pathSet c = true) :
    let url := e.actionUrl action pairs
    (url.text.utf8ByteSize ≤ RequestTarget.maxLength →
        ofRequest (Request.authorized e token url) = .ok (toRelay token e.userAgent url)) ∧
      (RequestTarget.maxLength < url.text.utf8ByteSize →
        ofRequest (Request.authorized e token url) =
          .error (misuse "invalid relay request: HTTP format error: uri too long")) := by
  intro url
  refine ⟨fun short => ?_, fun long => ?_⟩
  · have target := RequestTarget.authority_eq_ok (Endpoint.actionUrl_isSocket socket safe) located
      requestable Endpoint.actionUrl_query short
    exact ofRequest_authorized target agent bearer
  · exact @ofRequest_tooLong (Request.authorized e token url) long

end Upgrade

/-! ## Settings without a defect -/

/-- Such settings name the endpoint of a relay. -/
theorem RelaySettings.endpoint?_of_valid {s : RelaySettings} (valid : s.defect? = none) :
    ∃ e, s.endpoint? = .ok e ∧ e.base.IsSocket ∧ e.userAgent = s.userAgent := by
  rw [defect?, Option.or_eq_none_iff, endpointDefect?] at valid
  have found : ∃ e, s.endpoint? = .ok e := by
    unfold RelaySettings.endpoint? Endpoint.parse
    cases read : Url.parse s.endpoint with
    | error reason => simp [read] at valid
    | ok url =>
      simp only [read, ite_eq_left_iff, reduceCtorEq, imp_false, not_not] at valid
      simp only [valid.1, if_true]
      exact ⟨_, rfl⟩
  obtain ⟨e, accepted⟩ := found
  exact ⟨e, accepted, Endpoint.isSocket_of_parse accepted⟩

namespace Upgrade

/-- Settings without a defect name an endpoint. If the user agent can be the value of a header and
    the host can be the one of a request, then for every target and every session both requests
    become upgrade requests with all their headers, as long as the URL is not too long; if it is,
    this is the error. -/
theorem requests_of_valid (s : Settings) (valid : s.defect? = none) :
    ∃ e host, s.relay.endpoint? = .ok e ∧ e.base.host = some host ∧
      (isHeaderValue s.relay.userAgent = true → host.isRequestable = true →
        ∀ (t : Target) (sid : String) (count : UInt64) (token : String),
          isHeaderValue token = true →
          ∀ url ∈ [e.connectUrl t, e.reconnectUrl t sid count],
            (url.text.utf8ByteSize ≤ 65534 →
                ofRequest (Request.authorized e token url) =
                  .ok (toRelay token s.relay.userAgent url)) ∧
              (65534 < url.text.utf8ByteSize →
                ofRequest (Request.authorized e token url) =
                  .error (misuse "invalid relay request: HTTP format error: uri too long"))) := by
  rw [Settings.defect?, Option.or_eq_none_iff] at valid
  obtain ⟨e, accepted, socket, agent⟩ := RelaySettings.endpoint?_of_valid valid.1
  obtain ⟨host, located, -⟩ := socket.host
  refine ⟨e, host, accepted, located, fun legal requestable t sid count token bearer => ?_⟩
  rw [← agent] at legal ⊢
  intro url member
  simp only [List.mem_cons, List.not_mem_nil, or_false] at member
  rcases member with rfl | rfl
  · exact ofRequest_action socket located requestable legal bearer _ Endpoint.actions_isSafe.1
  · exact ofRequest_action socket located requestable legal bearer _ Endpoint.actions_isSafe.2

/-- An endpoint with a password, an address in brackets, a port, a query and a fragment, and a
    token with a tab. -/
theorem requests_of_valid_bracketed :
    let s : Settings :=
      { relay := { endpoint := "ws://u:%40@[::ffff:7f00:1]:9000/v4/?x#y", userAgent := "agent" } }
    let e : Endpoint :=
      { base :=
          { scheme := "ws", username := "u", password := "%40"
            host := some (.address (.v6 0xFFFF7F000001#128)), port := some 9000
            path := .segments ["v4", ""], query := some "x", fragment := some "y" }
        userAgent := "agent" }
    let t : Target := ⟨"p", "z", "i", 22, "nic0"⟩
    let url := e.reconnectUrl t "s&1" 7
    let text :=
      "ws://u:%40@[::ffff:7f00:1]:9000/v4/reconnect?sid=s%261&ack=7&newWebsocket=true&zone=z#y"
    s.defect? = none ∧ s.relay.endpoint? = .ok e ∧ url.text = text ∧
      ofRequest (Request.authorized e "a\tb" url) = .ok (toRelay "a\tb" "agent" url) := by
  intro s e t url text
  have valid : s.defect? = none := by decide +kernel
  have known : s.relay.endpoint? = .ok e := by decide +kernel
  have written : url.text = text := by decide +kernel
  have short : url.text.utf8ByteSize ≤ 65534 := by
    rw [written]
    decide +kernel
  obtain ⟨other, host, accepted, located, requests⟩ := requests_of_valid s valid
  cases accepted.symm.trans known
  cases located
  refine ⟨valid, known, written, ?_⟩
  have either : url ∈ [e.connectUrl t, e.reconnectUrl t "s&1" 7] :=
    List.mem_cons_of_mem _ List.mem_cons_self
  exact (requests (by decide) rfl t "s&1" 7 "a\tb" (by decide) url either).1 short

/-! ## Requests that cannot be made -/

theorem length_le_flatMap {α β : Type} {f : α → List β} (full : ∀ x, f x ≠ []) (xs : List α) :
    xs.length ≤ (xs.flatMap f).length := by
  induction xs with
  | nil => exact Nat.le_refl 0
  | cons x xs ih =>
    have some := List.length_pos_of_ne_nil (full x)
    rw [List.length_cons, List.flatMap_cons, List.length_append]
    omega

/-- A text takes at least as many bytes as it has characters. -/
theorem length_le_encode (text : String) : text.toList.length ≤ (Utf8.encode text).length := by
  rw [Utf8.encode_eq]
  exact length_le_flatMap (fun c => String.utf8EncodeChar_ne_nil) _

/-- The form of a text is at least as long as the text. -/
theorem length_le_form (text : String) : text.toList.length ≤ (Form.encode text).length := by
  have full (byte : UInt8) : Form.encodeByte byte ≠ [] := by
    unfold Form.encodeByte
    split
    · exact List.cons_ne_nil _ _
    · split <;> exact List.cons_ne_nil _ _
  exact Nat.le_trans (length_le_encode text) (length_le_flatMap full _)

/-- So is a query with that text as the value of its first pair. -/
theorem length_le_query (name value : String) (pairs : List (String × String)) :
    value.toList.length ≤ (Form.query ((name, value) :: pairs)).length := by
  have form := length_le_form value
  have first : ∃ rest, Form.query ((name, value) :: pairs) =
      Form.encode name ++ '=' :: Form.encode value ++ rest := by
    cases pairs with
    | nil => exact ⟨[], by simp [Form.query, Form.encodePair]⟩
    | cons next pairs =>
      refine ⟨'&' :: Form.query (next :: pairs), ?_⟩
      simp [Form.query, Form.encodePair, List.intercalate_cons_cons]
  obtain ⟨rest, same⟩ := first
  simp only [same, List.length_append, List.length_cons]
  omega

/-- And so is the text of the URL of a request. -/
theorem length_le_actionUrl {e : Endpoint} (action name value : String)
    (pairs : List (String × String)) (socket : e.base.IsSocket) :
    value.toList.length ≤ (e.actionUrl action ((name, value) :: pairs)).text.utf8ByteSize := by
  obtain ⟨host, located, -⟩ := socket.host
  have query := length_le_query name value pairs
  have text := length_le_encode (e.actionUrl action ((name, value) :: pairs)).text
  have bytes (text : String) : (Utf8.encode text).length = text.utf8ByteSize := by
    rw [Utf8.encode, Array.length_toList]
    rfl
  have whole := @Url.toList_text (e.actionUrl action ((name, value) :: pairs)) _ located
  rw [bytes, whole] at text
  simp only [Url.tail, Endpoint.actionUrl_query, Option.map_some, Option.getD_some,
    String.toList_ofList, List.length_append, List.length_cons] at text
  omega

/-- Settings without a defect whose requests cannot be made: with a line break in the user agent,
    with a brace in the host, and for a target with a name that makes the URL too long. -/
theorem requests_refused :
    let broken : Settings := { relay := { userAgent := "a\nb" } }
    let braced : Settings := { relay := { endpoint := "ws://a\x7bb/" } }
    let t : Target := ⟨"p", "z", "i", 22, "nic0"⟩
    let long : Target := { t with project := String.ofList (List.replicate 70000 'p') }
    (broken.defect? = none ∧ ∃ e, broken.relay.endpoint? = .ok e ∧
      ofRequest (Request.authorized e "t" (e.connectUrl t)) =
        .error (misuse "invalid value for header user-agent: failed to parse header value")) ∧
    (braced.defect? = none ∧ ∃ e, braced.relay.endpoint? = .ok e ∧
      ofRequest (Request.authorized e "t" (e.connectUrl t)) =
        .error (misuse "invalid relay request: HTTP format error: invalid uri character")) ∧
    (({} : Settings).defect? = none ∧ ∃ e, ({} : Settings).relay.endpoint? = .ok e ∧
      ofRequest (Request.authorized e "t" (e.connectUrl long)) =
        .error (misuse "invalid relay request: HTTP format error: uri too long")) := by
  intro broken braced t long
  have valid : broken.defect? = none ∧ braced.defect? = none ∧ ({} : Settings).defect? = none := by
    decide +kernel
  refine ⟨⟨valid.1, ?_⟩, ⟨valid.2.1, ?_⟩, valid.2.2, ?_⟩
  · let e : Endpoint :=
      { base :=
          { scheme := "wss", host := some (.domain "tunnel.cloudproxy.app")
            path := .segments ["v4"] }
        userAgent := "a\nb" }
    have accepted : broken.relay.endpoint? = .ok e := by decide +kernel
    have socket : (e.connectUrl t).IsSocket :=
      Endpoint.actionUrl_isSocket (Endpoint.isSocket_of_parse accepted).1 Endpoint.actions_isSafe.1
    have target : RequestTarget.authority (e.connectUrl t) = .ok _ :=
      RequestTarget.authority_eq_ok socket rfl (by decide) Endpoint.actionUrl_query
        (by decide +kernel)
    exact ⟨e, accepted, ofRequest_agent target (by decide) (by decide)⟩
  · let e : Endpoint :=
      { base := { scheme := "ws", host := some (.domain "a\x7bb"), path := .segments [""] }
        userAgent := Endpoint.standardUserAgent }
    have accepted : braced.relay.endpoint? = .ok e := by decide +kernel
    have socket : (e.connectUrl t).IsSocket :=
      Endpoint.actionUrl_isSocket (Endpoint.isSocket_of_parse accepted).1 Endpoint.actions_isSafe.1
    have refused : RequestTarget.checkAuthority (e.connectUrl t).authority =
        .error .invalidCharacter := by
      have text : (e.connectUrl t).authority = "a\x7bb".toList := by decide +kernel
      rw [text, RequestTarget.checkAuthority, RequestTarget.AuthorityScan.foldlM_offending
        (List.all_eq_true.mp (by decide)) (by decide : '\x7b' ∈ _) (by decide)]
      rfl
    have target : RequestTarget.authority (e.connectUrl t) = .error .invalidCharacter := by
      rw [RequestTarget.authority_of_isSocket socket rfl Endpoint.actionUrl_query
        (by decide +kernel), refused]
      rfl
    have answer := @ofRequest_target (Request.authorized e "t" (e.connectUrl t)) _ target
    exact ⟨e, accepted, answer⟩
  · obtain ⟨e, accepted, socket, -⟩ :=
      RelaySettings.endpoint?_of_valid (s := {}) (by decide +kernel)
    refine ⟨e, accepted, ofRequest_tooLong ?_⟩
    have least : long.project.toList.length ≤ (e.connectUrl long).text.utf8ByteSize :=
      length_le_actionUrl "connect" "project" long.project _ socket
    rw [String.toList_ofList, List.length_replicate] at least
    exact Nat.lt_of_lt_of_le (by decide) least

end Upgrade

end RelayTunnel

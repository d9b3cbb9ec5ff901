import RelayTunnel.Proofs.Form
import RelayTunnel.WebSocket.RequestTarget

/-!
# What is known of a URL that was read

The parts of a URL that was read under one of the schemes of WebSockets are made of the characters
that their encoding leaves alone: `Url.IsSocket`. So none of the marks between the parts stands in
one of them, and the text of the URL falls apart as it was put together.
-/

namespace RelayTunnel

/-- Two computations in a row succeed only if both do. -/
theorem exists_of_bind_eq_ok {ε α β : Type} {first : Except ε α} {further : α → Except ε β} {b : β}
    (both : first >>= further = .ok b) : ∃ a, first = .ok a ∧ further a = .ok b := by
  cases first with
  | error e => cases both
  | ok a => exact ⟨a, rfl, both⟩

/-- A text is cut in front of the first character that fails a test. -/
theorem takeWhile_append_eq {p : Char → Bool} {front behind : List Char}
    (inside : ∀ c ∈ front, p c = true) (outside : ∀ c ∈ behind.head?, p c = false) :
    (front ++ behind).takeWhile p = front ∧ (front ++ behind).dropWhile p = behind := by
  rw [List.takeWhile_append_of_pos inside, List.dropWhile_append_of_pos inside]
  cases behind with
  | nil => exact ⟨List.append_nil front, rfl⟩
  | cons c behind =>
    have fails : ¬ p c = true := by simp [outside c rfl]
    rw [List.takeWhile_cons_of_neg fails, List.dropWhile_cons_of_neg fails]
    exact ⟨List.append_nil front, rfl⟩

/-- What holds of the ASCII characters one by one holds of every one of them. -/
theorem of_ascii {P : Char → Prop} (all : ∀ n : Fin 128, P (Char.ofNat n)) {c : Char}
    (ascii : c.toNat < 128) : P c := by
  have here := all ⟨c.toNat, ascii⟩
  rwa [Char.ofNat_toNat] at here

/-! ## Encoded parts -/

namespace Percent

/-- Whether a character stands for itself in a part that encodes the set. -/
def isSafe (set : CharSet) (c : Char) : Bool :=
  0x20 ≤ c.toNat && c.toNat < 0x7F && !set.contains c

theorem ascii_of_isSafe {set : CharSet} {c : Char} (safe : isSafe set c = true) :
    c.toNat < 128 := by
  simp only [isSafe, Bool.and_eq_true, decide_eq_true_eq] at safe
  omega

/-- What is encoded consists of safe characters, unless the set spoils the encoding. -/
theorem encode_isSafe {set : CharSet} {text : List Char} {c : Char}
    (free : ∀ d ∈ '%' :: hexDigits, set.contains d = false) (member : c ∈ encode set text) :
    isSafe set c = true := by
  obtain ⟨d, -, member⟩ := List.mem_flatMap.mp member
  unfold encodeChar at member
  split at member
  · obtain ⟨byte, -, member⟩ := List.mem_flatMap.mp member
    have mark := List.mem_cons.mpr (escape_mem member)
    have ascii : ∀ d ∈ '%' :: hexDigits, 0x20 ≤ d.toNat ∧ d.toNat < 0x7F :=
      List.all_iff_forall_prop.mp (by decide)
    simp only [isSafe, free c mark, Bool.not_false, Bool.and_true, Bool.and_eq_true,
      decide_eq_true_eq]
    exact ascii c mark
  · rename_i plain
    obtain rfl := List.mem_singleton.mp member
    simp only [Bool.or_eq_true, decide_eq_true_eq, not_or, Bool.not_eq_true, Nat.not_lt,
      Nat.not_le] at plain
    simp only [isSafe, plain.1.1, plain.1.2, plain.2]
    rfl

end Percent

/-! ## Hosts -/

/-- The digits of numbers in a radix up to sixteen. -/
def lowerDigits : List Char := "0123456789abcdef".toList

theorem toDigits_mem {radix n : Nat} {c : Char} (positive : 0 < radix) (few : radix ≤ 16)
    (member : c ∈ Nat.toDigits radix n) : c ∈ lowerDigits := by
  have digit {d : Nat} (small : d < 16) : Nat.digitChar d ∈ lowerDigits := by
    have all : ∀ d : Fin 16, Nat.digitChar d ∈ lowerDigits := by decide
    exact all ⟨d, small⟩
  have core {fuel n : Nat} {behind : List Char} (found : ∀ c ∈ behind, c ∈ lowerDigits) :
      ∀ c ∈ Nat.toDigitsCore radix fuel n behind, c ∈ lowerDigits := by
    induction fuel generalizing n behind with
    | zero => exact found
    | succ fuel ih =>
      have next : ∀ c ∈ Nat.digitChar (n % radix) :: behind, c ∈ lowerDigits :=
        List.forall_mem_cons.mpr ⟨digit (Nat.lt_of_lt_of_le (Nat.mod_lt _ positive) few), found⟩
      rw [Nat.toDigitsCore]
      split
      · exact next
      · exact ih next
  exact core (fun c member => by cases member) c member

namespace IpAddress

theorem dotted_mem {bits : BitVec 32} {c : Char} (member : c ∈ (dotted bits).toList) :
    c = '.' ∨ c ∈ lowerDigits := by
  rw [dotted, String.toList_intercalate] at member
  rcases mem_intercalate member with point | ⟨part, among, member⟩
  · exact .inl (by simpa using point)
  · simp only [List.map_map, List.mem_map, Function.comp_apply] at among
    obtain ⟨shift, -, rfl⟩ := among
    exact .inr (toDigits_mem (by decide) (by decide) (Nat.toList_repr ▸ member))

theorem joinGroups_mem {groups : List Nat} {c : Char} (member : c ∈ (joinGroups groups).toList) :
    c = ':' ∨ c ∈ lowerDigits := by
  rw [joinGroups, String.toList_intercalate] at member
  rcases mem_intercalate member with colon | ⟨part, among, member⟩
  · exact .inl (by simpa using colon)
  · simp only [List.map_map, List.mem_map, Function.comp_apply] at among
    obtain ⟨group, -, rfl⟩ := among
    rw [hexGroup, String.toList_ofList] at member
    exact .inr (toDigits_mem (by decide) (by decide) member)

theorem grouped_mem {bits : BitVec 128} {c : Char} (member : c ∈ (grouped bits).toList) :
    c = ':' ∨ c ∈ lowerDigits := by
  simp only [grouped] at member
  split at member
  · simp only [String.toList_append, List.mem_append] at member
    rcases member with (front | colons) | behind
    · exact joinGroups_mem front
    · exact .inl (by simpa using colons)
    · exact joinGroups_mem behind
  · exact joinGroups_mem member

end IpAddress

namespace Punycode

/-- The digits, in the order of their values. -/
def digits : List Char := "abcdefghijklmnopqrstuvwxyz0123456789".toList

theorem digit_mem {value : Nat} (small : value < 36) : digit value ∈ digits := by
  have all : ∀ n : Fin 36, digit n ∈ digits := by decide
  exact all ⟨value, small⟩

theorem threshold_bounds (k bias : Nat) : 1 ≤ threshold k bias ∧ threshold k bias ≤ 26 := by
  unfold threshold
  split
  · omega
  · split <;> omega

theorem encodeNumber_mem {bias most k q : Nat} {c : Char}
    (member : c ∈ encodeNumber bias most k q) : c ∈ digits := by
  induction most generalizing k q with
  | zero => cases member
  | succ most ih =>
    have bounds := threshold_bounds k bias
    simp only [encodeNumber] at member
    split at member
    · obtain rfl := List.mem_singleton.mp member
      exact digit_mem (by omega)
    · rcases List.mem_cons.mp member with rfl | member
      · have small := Nat.mod_lt (q - threshold k bias) (y := 36 - threshold k bias) (by omega)
        exact digit_mem (by omega)
      · exact ih member

theorem writeChar_output {next point : Nat} {w : Writing} {c : Char}
    (member : c ∈ (writeChar next w point).output) : c ∈ w.output ∨ c ∈ digits := by
  unfold writeChar at member
  split at member
  · exact .inl member
  · split at member
    · exact (List.mem_append.mp member).imp_right encodeNumber_mem
    · exact .inl member

theorem foldl_writeChar_output {next : Nat} {points : List Nat} {w : Writing} {c : Char}
    (member : c ∈ (points.foldl (writeChar next) w).output) :
    c ∈ w.output ∨ c ∈ digits := by
  induction points generalizing w with
  | nil => exact .inl member
  | cons point points ih => exact (ih member).elim writeChar_output .inr

theorem writeAll_output {points nexts : List Nat} {start : Nat} {w : Writing} {c : Char}
    (member : c ∈ (writeAll points nexts start w).output) :
    c ∈ w.output ∨ c ∈ digits := by
  induction nexts generalizing start w with
  | nil => exact .inl member
  | cons next nexts ih => exact (ih member).elim foldl_writeChar_output .inr

/-- The form of a label consists of its ASCII characters, dashes and digits. -/
theorem encode_mem {label : List Char} {c : Char} (member : c ∈ encode label) :
    c ∈ label ∧ c.toNat < 0x80 ∨ c = '-' ∨ c ∈ digits := by
  rcases writeAll_output member with start | digit
  · have basic : c ∈ label.filter (fun c => decide (c.toNat < 0x80)) ∨ c = '-' := by
      dsimp only at start
      split at start
      · cases start
      · simpa using start
    rcases basic with basic | dash
    · obtain ⟨member, ascii⟩ := List.mem_filter.mp basic
      exact .inl ⟨member, of_decide_eq_true ascii⟩
    · exact .inr (.inl dash)
  · exact .inr (.inr digit)

end Punycode

namespace Host

/-- Whether a character may stand in a domain once that is in ASCII. -/
def isDomainChar (c : Char) : Bool := c.toNat < 0x80 && !isForbidden c

theorem ascii_of_isDomainChar {c : Char} (allowed : isDomainChar c = true) : c.toNat < 128 := by
  simp only [isDomainChar, Bool.and_eq_true, decide_eq_true_eq] at allowed
  exact allowed.1

/-- A domain has a name of such characters. -/
def IsPlain : Host → Prop
  | domain name => name ≠ "" ∧ ∀ c ∈ name.toList, isDomainChar c = true
  | address _ => True

theorem asciiLabel_isDomainChar {label : List Char} {c : Char} (valid : isLabel label = true)
    (member : c ∈ asciiLabel label) : isDomainChar c = true := by
  simp only [isLabel, Bool.and_eq_true, Bool.not_eq_true', List.any_eq_false] at valid
  have allowed {c : Char} (member : c ∈ label) (ascii : c.toNat < 0x80) :
      isDomainChar c = true := by
    simp [isDomainChar, ascii, valid.1 c member]
  unfold asciiLabel at member
  split at member
  · rename_i ascii
    exact allowed member (of_decide_eq_true (List.all_eq_true.mp ascii c member))
  · rcases List.mem_append.mp member with sign | form
    · have all : ∀ c ∈ ['x', 'n', '-', '-'], isDomainChar c = true :=
        List.all_eq_true.mp (by decide)
      exact all c sign
    · rcases Punycode.encode_mem form with ⟨member, ascii⟩ | rfl | digit
      · exact allowed member ascii
      · decide
      · have all : ∀ c ∈ Punycode.digits, isDomainChar c = true := List.all_eq_true.mp (by decide)
        exact all c digit

theorem asciiDomain_isDomainChar {domain name : List Char} {c : Char}
    (read : asciiDomain domain = some name) (member : c ∈ name) : isDomainChar c = true := by
  simp only [asciiDomain, Option.bind_eq_bind, Option.bind_eq_some_iff] at read
  obtain ⟨mapped, -, labels, -, read⟩ := read
  split at read <;> cases read
  rename_i valid
  rw [Bool.and_eq_true] at valid
  rcases mem_intercalate member with point | ⟨part, among, member⟩
  · obtain rfl := List.mem_singleton.mp point
    decide
  · obtain ⟨label, listed, rfl⟩ := List.mem_map.mp among
    exact asciiLabel_isDomainChar (List.all_eq_true.mp valid.1 label listed) member

theorem bracketed_isPlain {text : List Char} {host : Host} (read : bracketed text = .ok host) :
    host.IsPlain := by
  unfold bracketed at read
  split at read
  · split at read <;> cases read
    trivial
  · cases read

/-- Every host of a known scheme is plain. -/
theorem parse_isPlain {text : List Char} {host : Host} (read : parse text = .ok host) :
    host.IsPlain := by
  unfold parse at read
  split at read
  · exact bracketed_isPlain read
  · split at read
    · cases read
    · cases read
    · rename_i name nonempty found
      split at read
      · split at read <;> cases read
        trivial
      · cases read
        obtain ⟨text, -, ascii⟩ := Option.bind_eq_some_iff.mp found
        refine ⟨fun empty => nonempty ?_, fun c member => ?_⟩
        · simpa using congrArg String.toList empty
        · exact asciiDomain_isDomainChar ascii (by simpa using member)

/-- The characters of the texts of addresses. -/
def addressAlphabet : List Char := '.' :: ':' :: '[' :: ']' :: lowerDigits

theorem text_address_mem {ip : IpAddress} {c : Char} (member : c ∈ (address ip).text.toList) :
    c ∈ addressAlphabet := by
  have digits : lowerDigits ⊆ addressAlphabet := List.subset_append_right ['.', ':', '[', ']'] _
  cases ip with
  | v4 bits =>
    rcases IpAddress.dotted_mem member with rfl | digit
    · decide
    · exact digits digit
  | v6 bits =>
    have parts : c = '[' ∨ c ∈ (IpAddress.grouped bits).toList ∨ c = ']' := by
      simpa [text, toString] using member
    rcases parts with rfl | inside | rfl
    · decide
    · rcases IpAddress.grouped_mem inside with rfl | digit
      · decide
      · exact digits digit
    · decide

theorem endsAuthority_of_address :
    ∀ c ∈ addressAlphabet, RequestTarget.endsAuthority c = false :=
  List.all_iff_forall_prop.mp (by decide)

theorem isForbidden_of_endsAuthority {c : Char} (mark : RequestTarget.endsAuthority c = true) :
    isForbidden c = true := by
  simp only [RequestTarget.endsAuthority, Bool.or_eq_true, beq_iff_eq] at mark
  rcases mark with (rfl | rfl) | rfl <;> decide

/-- No mark behind an authority stands in the text of a host. -/
theorem text_inner {host : Host} {c : Char} (plain : host.IsPlain)
    (member : c ∈ host.text.toList) : RequestTarget.endsAuthority c = false := by
  cases host with
  | domain name =>
    have allowed := plain.2 c member
    simp only [isDomainChar, Bool.and_eq_true, Bool.not_eq_true'] at allowed
    cases mark : RequestTarget.endsAuthority c with
    | false => rfl
    | true => cases allowed.2.symm.trans (isForbidden_of_endsAuthority mark)
  | address ip => exact endsAuthority_of_address c (text_address_mem member)

end Host

/-! ## URLs -/

namespace Url

/-- Whether all characters of some segments stand for themselves in a path. -/
def AreSafe (segments : List String) : Prop :=
  ∀ segment ∈ segments, ∀ c ∈ segment.toList, Percent.isSafe Percent.pathSet c = true

/-- A URL as it is read under one of the schemes of WebSockets. -/
structure IsSocket (url : Url) : Prop where
  scheme : url.scheme = "ws" ∨ url.scheme = "wss"
  username : ∀ c ∈ url.username.toList, Percent.isSafe Percent.userSet c = true
  password : ∀ c ∈ url.password.toList, Percent.isSafe Percent.userSet c = true
  host : ∃ host, url.host = some host ∧ host.IsPlain
  path : ∃ segments, url.path = .segments segments ∧ AreSafe segments

theorem AreSafe.append {before behind : List String} (first : AreSafe before)
    (second : AreSafe behind) : AreSafe (before ++ behind) := by
  intro segment member
  exact (List.mem_append.mp member).elim (first segment) (second segment)

theorem AreSafe.addSegment {before : List String} (safe : AreSafe before) (segment : List Char)
    (last : Bool) : AreSafe (addSegment before segment last) := by
  have fewer : AreSafe before.dropLast := fun segment member =>
    safe segment (List.dropLast_subset _ member)
  have empty : AreSafe [""] := by
    intro segment member
    obtain rfl := List.mem_singleton.mp member
    intro c member
    cases member
  unfold Url.addSegment
  split
  · split
    · exact fewer.append empty
    · exact fewer
  · split
    · split
      · exact safe.append empty
      · exact safe
    · refine safe.append fun segment member => ?_
      obtain rfl := List.mem_singleton.mp member
      intro c member
      rw [String.toList_ofList] at member
      exact Percent.encode_isSafe (List.all_iff_forall_prop.mp (by decide)) member

theorem AreSafe.addSegments {before : List String} (safe : AreSafe before)
    (path : List (List Char)) : AreSafe (addSegments before path) := by
  fun_induction Url.addSegments before path with
  | case1 => exact safe
  | case2 before segment => exact safe.addSegment segment true
  | case3 before segment rest _ ih => exact ih (safe.addSegment segment false)

/-- What is attached behind the authority. -/
theorem attachPath_eq (kind : SchemeKind) (url : Url) (rest : List Char) :
    ∃ segments query fragment, AreSafe segments ∧
      attachPath kind url rest = { url with path := .segments segments, query, fragment } := by
  refine ⟨_, _, _, ?_, rfl⟩
  split
  · intro segment member
    cases member
  · exact AreSafe.addSegments (fun segment member => by cases member) _

/-- The parts of a URL that is read with an authority. -/
theorem parseAuthority_eq_ok {scheme : String} {text : List Char} {url : Url}
    (read : parseAuthority scheme text = .ok url) :
    ∃ (user : Option (List Char)) (name : List Char) (host : Host) (port : Option Nat)
      (segments : List String) (query fragment : Option String),
      (schemeKind scheme ≠ .other → Host.parse name = .ok host) ∧ AreSafe segments ∧
      url =
        { scheme, username := ((user.map userInfo).getD {}).username,
          password := ((user.map userInfo).getD {}).password, host := some host, port,
          path := .segments segments, query, fragment } := by
  simp only [parseAuthority] at read
  split at read
  · cases read
  split at read
  · rename_i other
    obtain ⟨host, -, read⟩ := exists_of_bind_eq_ok read
    obtain ⟨port, -, read⟩ := exists_of_bind_eq_ok read
    obtain ⟨segments, query, fragment, safe, same⟩ := attachPath_eq ..
    cases read
    exact ⟨_, [], host, port, segments, query, fragment, absurd other, safe, same⟩
  · obtain ⟨host, parsed, read⟩ := exists_of_bind_eq_ok read
    obtain ⟨port, -, read⟩ := exists_of_bind_eq_ok read
    obtain ⟨segments, query, fragment, safe, same⟩ := attachPath_eq ..
    cases read
    exact ⟨_, _, host, port, segments, query, fragment, fun _ => parsed, safe, same⟩

theorem parseAuthority_scheme {scheme : String} {text : List Char} {url : Url}
    (read : parseAuthority scheme text = .ok url) : url.scheme = scheme := by
  obtain ⟨_, _, _, _, _, _, _, -, -, rfl⟩ := parseAuthority_eq_ok read
  rfl

/-- What stands before a host is encoded. -/
theorem userInfo_isSafe (user : Option (List Char)) :
    (∀ c ∈ ((user.map userInfo).getD {}).username.toList,
        Percent.isSafe Percent.userSet c = true) ∧
      ∀ c ∈ ((user.map userInfo).getD {}).password.toList,
        Percent.isSafe Percent.userSet c = true := by
  cases user with
  | none => constructor <;> intro c member <;> cases member
  | some text =>
    constructor <;> intro c member <;>
      exact Percent.encode_isSafe (List.all_iff_forall_prop.mp (by decide))
        (by simpa [userInfo] using member)

theorem parseFile_scheme {text : List Char} {url : Url} (read : parseFile text = .ok url) :
    url.scheme = "file" := by
  have attached (base : Url) (rest : List Char) (same : base.scheme = "file") :
      (attachPath .file base rest).scheme = "file" := by
    obtain ⟨_, _, _, -, attached⟩ := attachPath_eq .file base rest
    rw [attached, same]
  simp only [parseFile] at read
  split at read
  · split at read
    · split at read
      · cases read
        exact attached _ _ rfl
      · obtain ⟨host, -, read⟩ := exists_of_bind_eq_ok read
        cases read
        exact attached _ _ rfl
    · cases read
      exact attached _ _ rfl
  · cases read
    exact attached _ _ rfl

theorem parseOther_scheme {scheme : String} {text : List Char} {url : Url}
    (read : parseOther scheme text = .ok url) : url.scheme = scheme := by
  unfold parseOther at read
  split at read
  · exact parseAuthority_scheme read
  · cases read
    obtain ⟨_, _, _, -, attached⟩ := attachPath_eq ..
    rw [attached]
  · cases read
    rfl

/-- A URL that was read and has one of the schemes of WebSockets. -/
theorem parse_isSocket {text : String} {url : Url} (read : parse text = .ok url)
    (socket : url.scheme = "ws" ∨ url.scheme = "wss") : url.IsSocket := by
  unfold parse at read
  split at read
  · cases read
  rename_i scheme rest found
  split at read
  · rename_i special
    have same := parseAuthority_scheme read
    obtain ⟨user, name, host, port, segments, query, fragment, parsed, safe, rfl⟩ :=
      parseAuthority_eq_ok read
    obtain ⟨username, password⟩ := userInfo_isSafe user
    exact {
      scheme := socket
      username
      password
      host := ⟨host, rfl, Host.parse_isPlain (parsed (by simp [special]))⟩
      path := ⟨segments, rfl, safe⟩ }
  -- the other schemes stay what they are, and are none of a WebSocket
  · rw [parseFile_scheme read] at socket
    simp at socket
  · rename_i other
    rw [parseOther_scheme read] at socket
    rcases socket with rfl | rfl <;> cases other

/-! ## The text of a URL -/

/-- What stands between the scheme and the path. -/
def authority (url : Url) : List Char :=
  (userText url).toList ++ ((url.host.map Host.text).getD "").toList ++
    ((url.port.map fun port => s!":{port}").getD "").toList

/-- What follows the path. -/
def tail (url : Url) : List Char :=
  (url.query.map ('?' :: ·.toList)).getD [] ++ (url.fragment.map ('#' :: ·.toList)).getD []

theorem toList_text {url : Url} {host : Host} (located : url.host = some host) :
    url.text.toList =
      url.scheme.toList ++ "://".toList ++ url.authority ++ url.pathText.toList ++ url.tail := by
  have query : ((url.query.map ("?" ++ ·)).getD "").toList =
      (url.query.map ('?' :: ·.toList)).getD [] := by
    cases url.query <;> simp
  have fragment : ((url.fragment.map ("#" ++ ·)).getD "").toList =
      (url.fragment.map ('#' :: ·.toList)).getD [] := by
    cases url.fragment <;> simp
  simp only [text, authorityText, located, authority, tail, String.toList_append, query, fragment,
    Option.map_some, Option.getD_some, List.append_assoc]
  rfl

theorem portText_mem {port : Option Nat} {c : Char}
    (member : c ∈ ((port.map fun port => s!":{port}").getD "").toList) :
    c ∈ Host.addressAlphabet := by
  cases port with
  | none => cases member
  | some port =>
    have parts : c = ':' ∨ c ∈ Nat.toDigits 10 port := by
      simpa [toString] using member
    rcases parts with rfl | digit
    · decide
    · have known := toDigits_mem (by decide) (by decide) digit
      exact List.mem_append_right ['.', ':', '[', ']'] known

theorem IsSocket.userText_mem {url : Url} {c : Char} (h : url.IsSocket)
    (member : c ∈ (userText url).toList) :
    c = ':' ∨ c = '@' ∨ Percent.isSafe Percent.userSet c = true := by
  unfold userText at member
  split at member
  · cases member
  · split at member
    · simp only [String.toList_append, List.mem_append] at member
      rcases member with name | mark
      · exact .inr (.inr (h.username c name))
      · exact .inr (.inl (by simpa using mark))
    · simp only [String.toList_append, List.mem_append] at member
      rcases member with ((name | colon) | secret) | mark
      · exact .inr (.inr (h.username c name))
      · exact .inl (by simpa using colon)
      · exact .inr (.inr (h.password c secret))
      · exact .inr (.inl (by simpa using mark))

theorem IsSocket.userText_inner {url : Url} {c : Char} (h : url.IsSocket)
    (member : c ∈ (userText url).toList) : RequestTarget.endsAuthority c = false := by
  rcases h.userText_mem member with rfl | rfl | safe
  · decide
  · decide
  · have inner : Percent.isSafe Percent.userSet c = true → RequestTarget.endsAuthority c = false :=
      of_ascii (P := fun c => _ = true → RequestTarget.endsAuthority c = false) (by decide)
        (Percent.ascii_of_isSafe safe)
    exact inner safe

/-- No mark behind the authority stands in it. -/
theorem IsSocket.authority_inner {url : Url} {c : Char} (h : url.IsSocket)
    (member : c ∈ url.authority) : RequestTarget.endsAuthority c = false := by
  obtain ⟨host, located, plain⟩ := h.host
  simp only [authority, located, Option.map_some, Option.getD_some, List.mem_append] at member
  rcases member with (user | inside) | port
  · exact h.userText_inner user
  · exact Host.text_inner plain inside
  · exact Host.endsAuthority_of_address c (portText_mem port)

theorem IsSocket.pathText_mem {url : Url} {c : Char} (h : url.IsSocket)
    (member : c ∈ url.pathText.toList) : c = '/' ∨ Percent.isSafe Percent.pathSet c = true := by
  obtain ⟨segments, path, safe⟩ := h.path
  simp only [pathText, path, String.toList_join, List.flatMap_map, List.mem_flatMap,
    String.toList_append, List.mem_append] at member
  obtain ⟨segment, among, slash | member⟩ := member
  · exact .inl (by simpa using slash)
  · exact .inr (safe segment among c member)

/-- Whoever cuts a text at the marks finds the query between what stands in front of it and the
    fragment. -/
theorem cut_tail {url : Url} {query : String} {front : List Char}
    (before : ∀ c ∈ front, c ≠ '?' ∧ c ≠ '#') (asks : url.query = some query)
    (free : '#' ∉ query.toList) :
    (front ++ url.tail).takeWhile (· ≠ '#') = front ++ '?' :: query.toList ∧
      (front ++ '?' :: query.toList).takeWhile (· ≠ '?') = front ∧
      (front ++ '?' :: query.toList).dropWhile (· ≠ '?') = '?' :: query.toList := by
  have fragment : ∀ c ∈ ((url.fragment.map ('#' :: ·.toList)).getD []).head?,
      decide (c ≠ '#') = false := by
    cases url.fragment <;> simp
  have shown : ∀ c ∈ front ++ '?' :: query.toList, decide (c ≠ '#') = true := by
    intro c member
    rcases List.mem_append.mp member with outside | inside
    · exact decide_eq_true (before c outside).2
    · rcases List.mem_cons.mp inside with rfl | inside
      · decide
      · exact decide_eq_true fun same => free (same ▸ inside)
  have split : front ++ url.tail =
      (front ++ '?' :: query.toList) ++ (url.fragment.map ('#' :: ·.toList)).getD [] := by
    simp [tail, asks]
  have marked : ∀ c ∈ front, decide (c ≠ '?') = true := fun c member =>
    decide_eq_true (before c member).1
  rw [split]
  exact ⟨(takeWhile_append_eq shown fragment).1, takeWhile_append_eq marked (by simp)⟩

end Url

end RelayTunnel

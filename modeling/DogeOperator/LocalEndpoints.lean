import DogeOperator.Network

/-! Which local endpoints devnet refuses. The `url` crate hands out a host as text: a domain as it
is, an IPv4 address in dotted decimal, an IPv6 address between square brackets. -/
namespace DogeOperator.Network
open Bytes Outcome

/-- The host of a parsed URL. -/
inductive UrlHost
  | domain (name : String)
  | ipv4 (a b c d : UInt8)
  | ipv6 (segments : List.Vector UInt16 8)

/-- The four octets in decimal, joined by dots. -/
def dottedDecimal (a b c d : UInt8) : List Char :=
  ['.'].intercalate [(toString a.toNat).toList, (toString b.toNat).toList,
    (toString c.toNat).toList, (toString d.toNat).toList]

/-- `host_str`, for any way of writing an IPv6 address between its brackets. -/
def UrlHost.hostStr (ipv6Text : List.Vector UInt16 8 → List Char) : UrlHost → String
  | domain name => name
  | ipv4 a b c d => String.ofList (dottedDecimal a b c d)
  | ipv6 segments => String.ofList ('[' :: ipv6Text segments ++ [']'])

/-- Localhost or a domain below it in any case, or a local address. -/
def UrlHost.Local : UrlHost → Prop
  | domain name => name.toList.map Char.toLower = "localhost".toList ∨
      ∃ labels, name.toList.map Char.toLower = labels ++ ".localhost".toList
  | ipv4 a b c d => ipv4Local (a.toNat, b.toNat, c.toNat, d.toNat) = true
  | ipv6 segments => ipv6Local segments = true

def UrlHost.IsIpv6 : UrlHost → Prop
  | ipv6 _ => True
  | _ => False

/-! The standard library's IPv6 text parser. Every reader returns what it read and the rest. -/

/-- One to four hexadecimal digits. -/
def readGroup (text : List Char) : Option (UInt16 × List Char) :=
  let digits := text.takeWhile fun c => (hexValue c).isSome
  if digits = [] ∨ digits.length > 4 then none
  else some (UInt16.ofNat (digits.foldl (fun n c => 16 * n + (hexValue c).getD 0) 0),
    text.drop digits.length)

def readOctet (text : List Char) : Option (ℕ × List Char) :=
  let digits := text.takeWhile Char.isDigit
  (ipv4Octet digits).map fun octet => (octet, text.drop digits.length)

/-- All but the first element stand behind a separator. -/
def readSeparator {α : Type} (separator : Char) (index : ℕ)
    (read : List Char → Option (α × List Char)) (text : List Char) : Option (α × List Char) :=
  if index = 0 then read text
  else match text with
    | [] => none
    | c :: rest => if c = separator then read rest else none

def readIpv4 (text : List Char) : Option ((ℕ × ℕ × ℕ × ℕ) × List Char) := do
  let (a, text) ← readSeparator '.' 0 readOctet text
  let (b, text) ← readSeparator '.' 1 readOctet text
  let (c, text) ← readSeparator '.' 2 readOctet text
  let (d, text) ← readSeparator '.' 3 readOctet text
  return ((a, b, c, d), text)

/-- Groups from position `index`, and whether an IPv4 address took the place of the last two. -/
def readGroups : (remaining index : ℕ) → List Char → List UInt16 × Bool × List Char
  | 0, _, text => ([], false, text)
  | remaining + 1, index, text =>
    match if remaining ≥ 1 then readSeparator ':' index readIpv4 text else none with
    | some ((a, b, c, d), rest) =>
      ([UInt16.ofNat (256 * a + b), UInt16.ofNat (256 * c + d)], true, rest)
    | none =>
      match readSeparator ':' index readGroup text with
      | none => ([], false, text)
      | some (group, rest) =>
        let (groups, ipv4, rest) := readGroups remaining (index + 1) rest
        (group :: groups, ipv4, rest)

/-- Eight groups, or fewer around one `::`; nothing may follow. -/
def ipv6FromStr (text : String) : Option (List.Vector UInt16 8) :=
  let (head, headIpv4, rest) := readGroups 8 0 text.toList
  let segments :=
    if head.length = 8 then if rest = [] then some head else none
    else if headIpv4 then none
    else match rest with
      | ':' :: ':' :: rest =>
        let (tail, _, rest) := readGroups (8 - (head.length + 1)) 0 rest
        if rest = [] then
          some (head ++ List.replicate (8 - head.length - tail.length) 0 ++ tail)
        else none
      | _ => none
  segments.bind fun segments => if h : segments.length = 8 then some ⟨segments, h⟩ else none

example : ipv6FromStr "fe80::1:192.168.0.1" =
    some ⟨[0xfe80, 0, 0, 0, 0, 1, 0xc0a8, 1], rfl⟩ := by decide +kernel

/-- Host text is parsed as an IPv6 address by the standard library. -/
def StandardIpv6 [UrlParser] : Prop := ∀ text, UrlParser.ipv6FromStr text = ipv6FromStr text

theorem readGroups_bracket (remaining : ℕ) (rest : List Char) :
    readGroups remaining 0 ('[' :: rest) = ([], false, '[' :: rest) := by
  have hoctet : readOctet ('[' :: rest) = none := rfl
  have hgroup : readGroup ('[' :: rest) = none := rfl
  have hipv4 : readSeparator ':' 0 readIpv4 ('[' :: rest) = none := by
    rw [readSeparator, if_pos rfl, readIpv4, readSeparator, if_pos rfl, hoctet]
    rfl
  cases remaining with
  | zero => rfl
  | succ remaining =>
    rw [readGroups, hipv4, ite_self, readSeparator, if_pos rfl, hgroup]

/-- A bracket never starts an IPv6 address. -/
theorem ipv6FromStr_bracket (rest : List Char) :
    ipv6FromStr (String.ofList ('[' :: rest)) = none := by
  rw [ipv6FromStr, String.toList_ofList, readGroups_bracket]
  rfl

theorem ipv4Octet_digits (n : UInt8) : ipv4Octet (toString n.toNat).toList = some n.toNat := by
  have hall : ∀ k : Fin 256, ipv4Octet (toString k.val).toList = some k.val := by decide +kernel
  exact hall ⟨n.toNat, n.toNat_lt⟩

/-- An octet has digits only. -/
theorem ipv4Octet_isDigit {digits : List Char} {n : ℕ} (h : ipv4Octet digits = some n) :
    digits ≠ [] ∧ ∀ c ∈ digits, c.isDigit := by
  unfold ipv4Octet at h
  split_ifs at h with hbad
  all_goals
    simp only [not_or, not_not, List.all_eq_true] at hbad
    exact ⟨hbad.1, hbad.2.2⟩

theorem dot_notMem_digits (n : UInt8) : '.' ∉ (toString n.toNat).toList := by
  intro h
  have hdigit := (ipv4Octet_isDigit (ipv4Octet_digits n)).2 '.' h
  cases hdigit

/-- Dotted decimal is read back. -/
theorem ipv4FromStr_dottedDecimal (a b c d : UInt8) :
    ipv4FromStr (String.ofList (dottedDecimal a b c d)) =
      some (a.toNat, b.toNat, c.toNat, d.toNat) := by
  have hsplit : (dottedDecimal a b c d).splitOn '.' = [(toString a.toNat).toList,
      (toString b.toNat).toList, (toString c.toNat).toList, (toString d.toNat).toList] := by
    apply List.splitOn_intercalate '.' _ (List.cons_ne_nil _ _)
    simp only [List.forall_mem_cons]
    exact ⟨dot_notMem_digits a, dot_notMem_digits b, dot_notMem_digits c, dot_notMem_digits d,
      by simp⟩
  rw [ipv4FromStr, String.toList_ofList, hsplit]
  simp only [List.map_cons, List.map_nil, ipv4Octet_digits]

/-- An IPv4 address starts with a digit. -/
theorem ipv4FromStr_digit {text : String} {ip : ℕ × ℕ × ℕ × ℕ} (h : ipv4FromStr text = some ip) :
    ∃ c rest, text.toList = c :: rest ∧ c.isDigit := by
  have hjoin : ['.'].intercalate (text.toList.splitOn '.') = text.toList :=
    List.intercalate_splitOn '.'
  unfold ipv4FromStr at h
  cases hpieces : text.toList.splitOn '.' with
  | nil =>
    rw [hpieces] at h
    cases h
  | cons piece pieces =>
    rw [hpieces] at h hjoin
    cases hoctet : ipv4Octet piece with
    | none =>
      rw [List.map_cons, hoctet] at h
      cases h
    | some n =>
      obtain ⟨hne, hdigits⟩ := ipv4Octet_isDigit hoctet
      cases piece with
      | nil => exact absurd rfl hne
      | cons c piece =>
        rw [← hjoin]
        refine ⟨c, ?_, ?_, hdigits c List.mem_cons_self⟩
        · exact piece ++ (if pieces = [] then [] else '.' :: ['.'].intercalate pieces)
        · cases pieces with
          | nil => simp [List.intercalate]
          | cons next pieces => simp [List.intercalate]

section
variable [UrlParser]

theorem hostIsLocal_domain {name : String} (h : (UrlHost.domain name).Local) :
    hostIsLocal name = true := by
  have hlower : "localhost".toList.map Char.toLower = "localhost".toList := by decide
  unfold hostIsLocal
  rcases h with heq | ⟨labels, hsuffix⟩
  · have hname : eqIgnoreAsciiCase name "localhost" = true := by
      rw [eqIgnoreAsciiCase, hlower, heq]
      simp
    rw [hname, Bool.true_or, Bool.true_or]
  · have hbelow : ".localhost".toList.isSuffixOf (name.toList.map Char.toLower) = true := by
      rw [List.isSuffixOf_iff_suffix, hsuffix]
      exact List.suffix_append labels _
    rw [hbelow, Bool.or_true, Bool.true_or]

theorem hostIsLocal_ipv4 {a b c d : UInt8} (h : (UrlHost.ipv4 a b c d).Local) :
    hostIsLocal (String.ofList (dottedDecimal a b c d)) = true := by
  rw [hostIsLocal, ipv4FromStr_dottedDecimal]
  dsimp only
  rw [show ipv4Local (a.toNat, b.toNat, c.toNat, d.toNat) = true from h, Bool.or_true]

/-- A host in brackets passes every check: it is no domain of localhost and parses as no address. -/
theorem hostIsLocal_bracketed (hipv6 : StandardIpv6) (text : List Char) :
    hostIsLocal (String.ofList ('[' :: text ++ [']'])) = false := by
  have hlocalhost : eqIgnoreAsciiCase (String.ofList ('[' :: text ++ [']'])) "localhost" = false := by
    rw [eqIgnoreAsciiCase, String.toList_ofList, decide_eq_false_iff_not]
    intro h
    have hhead := congrArg List.head? h
    simp at hhead
  have hbelow : ".localhost".toList.isSuffixOf
      ((String.ofList ('[' :: text ++ [']'])).toList.map Char.toLower) = false := by
    have htext : (String.ofList ('[' :: text ++ [']'])).toList = '[' :: text ++ [']'] :=
      String.toList_ofList
    rw [Bool.eq_false_iff, ne_eq, List.isSuffixOf_iff_suffix, htext, List.map_append]
    rintro ⟨labels, h⟩
    have hlast := congrArg List.getLast? h
    rw [List.getLast?_append, List.getLast?_append] at hlast
    have hends : some 't' = some ']' := hlast
    exact absurd hends (by decide)
  have hipv4 : ipv4FromStr (String.ofList ('[' :: text ++ [']'])) = none := by
    cases hparse : ipv4FromStr (String.ofList ('[' :: text ++ [']'])) with
    | none => rfl
    | some ip =>
      obtain ⟨c, rest, htext, hdigit⟩ := ipv4FromStr_digit hparse
      rw [String.toList_ofList, List.cons_append] at htext
      cases htext
      exact absurd hdigit (by decide)
  have hipv6None : UrlParser.ipv6FromStr (String.ofList ('[' :: text ++ [']'])) = none := by
    rw [hipv6, List.cons_append, ipv6FromStr_bracket]
  rw [hostIsLocal, hlocalhost, hbelow, hipv4]
  dsimp only
  rw [hipv6None]
  rfl

/-- On devnet a URL that parses is refused exactly when its host is found to be local. -/
theorem validateRemoteUrl_devnet {label value : String} {url : Url} {host : String}
    (hparse : UrlParser.parse value = .ok url) (hscheme : url.scheme = "http" ∨ url.scheme = "https")
    (hhost : url.hostStr = some host) :
    isOk (RuntimeNetwork.devnet.validateRemoteUrl label value) = !hostIsLocal host := by
  have haccepted : ¬ (url.scheme ≠ "http" ∧ url.scheme ≠ "https") := by
    rintro ⟨hhttp, hhttps⟩
    exact hscheme.elim hhttp hhttps
  have hremote : ¬ RuntimeNetwork.devnet.isLocalhost = true := Bool.false_ne_true
  rw [RuntimeNetwork.validateRemoteUrl, if_neg hremote, hparse]
  have hread : context s!"invalid {label} URL '{value}'"
      ((Except.ok url : Except String Url).mapError ([·])) = .ok url := rfl
  rw [hread, ok_bind, guard_bind_of_neg haccepted, hhost, orBail_some, ok_bind]
  cases hostIsLocal host with
  | false => rfl
  | true => rfl

/-- A local endpoint is refused on devnet exactly when its host is not an IPv6 literal. -/
theorem devnet_refuses_local_iff (hipv6 : StandardIpv6) {value : String} {url : Url} {host : UrlHost}
    {ipv6Text : List.Vector UInt16 8 → List Char} (hparse : UrlParser.parse value = .ok url)
    (hscheme : url.scheme = "http" ∨ url.scheme = "https")
    (hhost : url.hostStr = some (host.hostStr ipv6Text)) (hlocal : host.Local) (label : String) :
    isOk (RuntimeNetwork.devnet.validateRemoteUrl label value) = false ↔ ¬ host.IsIpv6 := by
  rw [validateRemoteUrl_devnet hparse hscheme hhost]
  cases host with
  | domain name =>
    rw [UrlHost.hostStr, hostIsLocal_domain hlocal]
    exact iff_of_true rfl id
  | ipv4 a b c d =>
    rw [UrlHost.hostStr, hostIsLocal_ipv4 hlocal]
    exact iff_of_true rfl id
  | ipv6 segments =>
    rw [UrlHost.hostStr, hostIsLocal_bracketed hipv6]
    exact iff_of_false (by decide) (fun h => h trivial)

end

/-! The loopback address in brackets. -/

def loopbackSegments : List.Vector UInt16 8 := ⟨[0, 0, 0, 0, 0, 0, 0, 1], rfl⟩

/-- The two URLs that are read below. -/
@[reducible] def sampleUrls : UrlParser where
  parse value :=
    if value = "http://[::1]:7071" then .ok ⟨"http", some "[::1]"⟩
    else if value = "http://10.0.0.8:7071" then .ok ⟨"http", some "10.0.0.8"⟩
    else .error "relative URL without a base"
  ipv6FromStr := ipv6FromStr

theorem sampleUrls_standardIpv6 : @StandardIpv6 sampleUrls := fun _ => rfl

theorem devnet_refuses_private :
    isOk (@RuntimeNetwork.validateRemoteUrl sampleUrls .devnet "Manager service"
      "http://10.0.0.8:7071") = false :=
  (@devnet_refuses_local_iff sampleUrls sampleUrls_standardIpv6 "http://10.0.0.8:7071"
    ⟨"http", some "10.0.0.8"⟩ (.ipv4 10 0 0 8) (fun _ => []) rfl (.inl rfl) rfl rfl
    "Manager service").mpr id

/-- The local endpoint `http://[::1]:7071` is accepted on devnet. -/
theorem devnet_accepts_loopback :
    ∃ url, sampleUrls.parse "http://[::1]:7071" = .ok url ∧ url.scheme = "http" ∧
      url.hostStr = some ((UrlHost.ipv6 loopbackSegments).hostStr fun _ => "::1".toList) ∧
      (UrlHost.ipv6 loopbackSegments).Local ∧
      isOk (@RuntimeNetwork.validateRemoteUrl sampleUrls .devnet "Manager service"
        "http://[::1]:7071") = true :=
  ⟨⟨"http", some "[::1]"⟩, rfl, rfl, rfl, rfl, by decide +kernel⟩

end DogeOperator.Network

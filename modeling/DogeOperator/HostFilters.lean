import DogeOperator.Ipv6Text
import DogeOperator.LocalEndpoints

/-! The two filters that keep the TypeScript tools for devnet off local endpoints. Both look at the
host as text: one takes the brackets of an IPv6 address off first, the other one leaves them on. -/
namespace DogeOperator.HostFilters
open Bytes Outcome Network Ipv6Text

/-- A parsed domain is ASCII without the delimiters of a host. -/
def ValidHost : UrlHost → Prop
  | .domain name => ∀ c ∈ name.toList, c.toNat < 128 ∧ c ≠ '[' ∧ c ≠ ']' ∧ c ≠ ':'
  | _ => True

/-- What the tools read of a `URL`; `href` is its text. -/
structure WebUrl where
  protocol : String
  username : String
  password : String
  host : UrlHost
  href : String
  valid : ValidHost host

/-- `new URL` -/
class WebUrlParser where
  parse : String → Option WebUrl

/-- IPv4 addresses are canonical and IPv6 addresses stand in brackets. -/
def WebUrl.hostname (url : WebUrl) : String := url.host.hostStr serialize

def toLowerCase (text : List Char) : List Char := text.map Char.toLower

/-- `/^\[|\]$/g` -/
def stripBrackets (host : List Char) : List Char :=
  let host := if host.head? = some '[' then host.tail else host
  if host.getLast? = some ']' then host.dropLast else host

def withoutFinalSlash (text : String) : String :=
  if text.toList.getLast? = some '/' then String.ofList text.toList.dropLast else text

def privateName (host : List Char) : Bool :=
  host = "localhost".toList || ".localhost".toList.isSuffixOf host

/-- `(1[6-9]|2\d|3[01])\.` -/
def privateSecondOctet : List Char → Bool
  | '1' :: ones :: '.' :: _ => '6' ≤ ones && ones ≤ '9'
  | '2' :: ones :: '.' :: _ => ones.isDigit
  | '3' :: ones :: '.' :: _ => ones = '0' || ones = '1'
  | _ => false

def privateIpv4 (host : List Char) : Bool :=
  ["127.", "0.", "10.", "192.168.", "169.254."].any (fun start => start.toList.isPrefixOf host) ||
    ("172.".toList.isPrefixOf host && privateSecondOctet (host.drop 4))

/-- One of the filters writes the last four starts as `/^fe[89ab]/`. -/
def privateIpv6 (host : List Char) : Bool :=
  host = "::".toList || host = "::1".toList ||
    ["fc", "fd", "fe8", "fe9", "fea", "feb"].any (fun start => start.toList.isPrefixOf host)

def privateHost (host : List Char) : Bool :=
  privateName host || privateIpv4 host || privateIpv6 host

section
variable [WebUrlParser]

/-- The devnet supervisor. -/
def requireRemoteUrl (value flag : String) (protocols : List String) : Except String String :=
  match WebUrlParser.parse value with
  | none => .error s!"{flag} must be a valid URL"
  | some url =>
    if url.protocol ∉ protocols then .error (flag ++ " must use " ++ " or ".intercalate protocols)
    else if url.username ≠ "" ∨ url.password ≠ "" then
      .error s!"{flag} must not embed credentials; use a mode-600 credential file"
    else if privateHost (stripBrackets (toLowerCase url.hostname.toList)) then
      .error s!"{flag} must be externally operated; local/private host '{url.hostname}' is forbidden"
    else .ok (withoutFinalSlash url.href)

/-- The deployment. -/
def requireRemoteHttpUrl (value flag : String) : Except String String :=
  match WebUrlParser.parse value with
  | none => .error s!"{flag} must be a valid http(s) URL."
  | some url =>
    if url.protocol ≠ "http:" ∧ url.protocol ≠ "https:" then
      .error s!"{flag} must use http or https."
    else if privateHost (toLowerCase url.hostname.toList) then
      .error (flag ++ " must be externally operated for --network devnet; local host '" ++
        url.hostname ++ "' is forbidden.")
    else .ok url.href

end

/-! Text. -/

/-- What is no upper-case letter stays. -/
theorem toLower_of_not_upper {c : Char} (h : ¬ (c.val ≥ 'A'.val ∧ c.val ≤ 'Z'.val)) :
    c.toLower = c := dif_neg h

theorem toLower_of_isDigit {c : Char} (h : c.isDigit = true) : c.toLower = c := by
  have hbound : c.toNat ≤ 57 := by
    simp only [Char.isDigit, Bool.and_eq_true, decide_eq_true_eq] at h
    exact UInt32.le_iff_toNat_le.mp h.2
  refine toLower_of_not_upper ?_
  rintro ⟨hlower, -⟩
  have hlower' : 65 ≤ c.toNat := UInt32.le_iff_toNat_le.mp hlower
  omega

theorem toLower_lowerHexDigits {c : Char} (h : c ∈ lowerHexDigits ∨ c = ':') : c.toLower = c := by
  rcases h with h | rfl
  · have hall : lowerHexDigits.all (fun c => c.toLower = c) = true := by decide
    exact of_decide_eq_true (List.all_eq_true.mp hall c h)
  · decide

/-- Letters only come from letters. -/
theorem toLower_eq_delimiter {c x : Char} (hx : x ∈ ['[', ']', ':']) (h : c.toLower = x) :
    c = x := by
  by_cases hupper : c.val ≥ 'A'.val ∧ c.val ≤ 'Z'.val
  · have hlowered : c.toLower.val = c.val + ('a'.val - 'A'.val) :=
      congrArg Char.val (dif_pos hupper)
    have hlow : 65 ≤ c.val.toNat := UInt32.le_iff_toNat_le.mp hupper.1
    have hhigh : c.val.toNat ≤ 90 := UInt32.le_iff_toNat_le.mp hupper.2
    have hletter : (c.val + ('a'.val - 'A'.val)).toNat = c.val.toNat + 32 := by
      rw [UInt32.toNat_add]
      exact Nat.mod_eq_of_lt (by change c.val.toNat + 32 < _; omega)
    have hvalue : (c.val + ('a'.val - 'A'.val)).toNat = x.toNat := by
      rw [← hlowered, h]
      rfl
    have hdelimiter : ∀ x ∈ ['[', ']', ':'], x.toNat < 97 := by simp
    have hbound := hdelimiter x hx
    omega
  · rwa [toLower_of_not_upper hupper] at h

theorem toLowerCase_eq_self {text : List Char} (h : ∀ c ∈ text, c.toLower = c) :
    toLowerCase text = text := (List.map_congr_left h).trans (List.map_id' text)

theorem toLowerCase_bracketed {text : List Char} (h : ∀ c ∈ text, c.toLower = c) :
    toLowerCase ('[' :: text ++ [']']) = '[' :: text ++ [']'] := by
  have htext : text.map Char.toLower = text := toLowerCase_eq_self h
  rw [toLowerCase, List.map_append, List.map_cons, htext]
  rfl

theorem stripBrackets_bracketed (text : List Char) :
    stripBrackets ('[' :: text ++ [']']) = text := by
  rw [stripBrackets, List.cons_append, if_pos List.head?_cons, List.tail_cons,
    if_pos List.getLast?_concat, List.dropLast_concat]

theorem stripBrackets_eq_self {host : List Char} (h : ∀ c ∈ host, c ≠ '[' ∧ c ≠ ']') :
    stripBrackets host = host := by
  have hhead : ¬ host.head? = some '[' := fun hhead => (h _ (List.mem_of_head? hhead)).1 rfl
  have hlast : ¬ host.getLast? = some ']' := fun hlast => (h _ (List.mem_of_getLast? hlast)).2 rfl
  rw [stripBrackets, if_neg hhead, if_neg hlast]

/-- In brackets no start and no name is recognised. -/
theorem privateHost_bracketed (text : List Char) : privateHost ('[' :: text ++ [']']) = false := by
  have hbelow : ¬ ".localhost".toList <:+ '[' :: text ++ [']'] := by
    rintro ⟨labels, h⟩
    have hlast := congrArg List.getLast? h
    rw [List.getLast?_append, List.getLast?_append] at hlast
    have hends : some 't' = some ']' := hlast
    exact absurd hends (by decide)
  have hname : privateName ('[' :: text ++ [']']) = false := by
    rw [privateName, Bool.or_eq_false_iff, decide_eq_false_iff_not, Bool.eq_false_iff, ne_eq,
      List.isSuffixOf_iff_suffix]
    exact ⟨by simp, hbelow⟩
  rw [privateHost, hname]
  rfl

/-! IPv4 addresses. -/

theorem mem_dottedDecimal {a b c d : UInt8} {x : Char} (h : x ∈ dottedDecimal a b c d) :
    x.isDigit = true ∨ x = '.' := by
  have hdigits : ∀ n : UInt8, x ∈ (toString n.toNat).toList → x.isDigit = true := fun n hx =>
    (ipv4Octet_isDigit (ipv4Octet_digits n)).2 x hx
  simp only [dottedDecimal, List.intercalate, List.intersperse, List.flatten_cons, List.flatten_nil,
    List.mem_append, List.mem_singleton, List.not_mem_nil, or_false] at h
  rcases h with h | h | h | h | h | h | h
  · exact .inl (hdigits a h)
  · exact .inr h
  · exact .inl (hdigits b h)
  · exact .inr h
  · exact .inl (hdigits c h)
  · exact .inr h
  · exact .inl (hdigits d h)

theorem dottedDecimal_eq (a b c d : UInt8) : ∃ rest, dottedDecimal a b c d =
    (toString a.toNat).toList ++ '.' :: ((toString b.toNat).toList ++ '.' :: rest) :=
  ⟨(toString c.toNat).toList ++ '.' :: (toString d.toNat).toList, by
    simp [dottedDecimal, List.intercalate, List.intersperse]⟩

theorem privateSecondOctet_digits {n : ℕ} (h : 16 ≤ n ∧ n ≤ 31) (rest : List Char) :
    privateSecondOctet ((toString n).toList ++ '.' :: rest) = true := by
  obtain ⟨hlow, hhigh⟩ := h
  interval_cases n <;> rfl

/-- Every local address is recognised. -/
theorem privateIpv4_of_local {a b c d : UInt8} (h : (UrlHost.ipv4 a b c d).Local) :
    privateIpv4 (dottedDecimal a b c d) = true := by
  obtain ⟨rest, htext⟩ := dottedDecimal_eq a b c d
  rw [htext]
  simp only [UrlHost.Local, ipv4Local, Bool.or_eq_true, Bool.and_eq_true, decide_eq_true_eq] at h
  rcases h with ((h | ⟨⟨⟨h, -⟩, -⟩, -⟩) | (h | ⟨⟨h, hlow⟩, hhigh⟩) | ⟨h, hb⟩) | ⟨h, hb⟩
  · rw [h]
    rfl
  · rw [h]
    rfl
  · rw [h]
    rfl
  · have hsecond := privateSecondOctet_digits ⟨hlow, hhigh⟩ rest
    rw [h, privateIpv4, Bool.or_eq_true, Bool.and_eq_true]
    exact .inr ⟨rfl, hsecond⟩
  · rw [h, hb]
    rfl
  · rw [h, hb]
    rfl

/-! IPv6 addresses. -/

/-- A short first group that reads like the start of a local one. -/
def Lookalike (n : ℕ) : Prop :=
  n = 0xfc ∨ n = 0xfd ∨ (0xfc0 ≤ n ∧ n ≤ 0xfdf) ∨ (0xfe8 ≤ n ∧ n ≤ 0xfeb)

instance (n : ℕ) : Decidable (Lookalike n) :=
  inferInstanceAs (Decidable (_ ∨ _ ∨ _ ∨ _))

/-- The network masks, as ranges of the first group. -/
theorem ipv6Local_iff (segments : List.Vector UInt16 8) : ipv6Local segments = true ↔
    (segments.toList = [0, 0, 0, 0, 0, 0, 0, 0] ∨ segments.toList = [0, 0, 0, 0, 0, 0, 0, 1]) ∨
      segments.head.toNat / 512 = 0x7e ∨ segments.head.toNat / 64 = 0x3fa := by
  have hbound : segments.head.toNat < 65536 := segments.head.toNat_lt
  have hunique : segments.head &&& 0xfe00 = 0xfc00 ↔ segments.head.toNat / 512 = 0x7e := by
    rw [← UInt16.toNat_inj, UInt16.toNat_and]
    change segments.head.toNat &&& ((2 ^ 7 - 1) * 2 ^ 9) = 0xfc00 ↔ _
    rw [and_leading_bits hbound]
    omega
  have hlink : segments.head &&& 0xffc0 = 0xfe80 ↔ segments.head.toNat / 64 = 0x3fa := by
    rw [← UInt16.toNat_inj, UInt16.toNat_and]
    change segments.head.toNat &&& ((2 ^ 10 - 1) * 2 ^ 6) = 0xfe80 ↔ _
    rw [and_leading_bits hbound]
    omega
  simp only [ipv6Local, Bool.or_eq_true, decide_eq_true_eq, hunique, hlink]
  tauto

theorem privateIpv6_iff (host : List Char) : privateIpv6 host = true ↔
    (host = [':', ':'] ∨ host = [':', ':', '1']) ∨ (['f', 'c'] <+: host ∨ ['f', 'd'] <+: host) ∨
      ['f', 'e', '8'] <+: host ∨ ['f', 'e', '9'] <+: host ∨ ['f', 'e', 'a'] <+: host ∨
        ['f', 'e', 'b'] <+: host := by
  simp only [privateIpv6, List.any_cons, List.any_nil, Bool.or_eq_true, decide_eq_true_eq,
    List.isPrefixOf_iff_prefix, Bool.false_eq_true, or_false, or_assoc]
  rfl

/-- Local addresses are recognised, and the lookalikes with them. -/
theorem privateIpv6_serialize (segments : List.Vector UInt16 8) :
    privateIpv6 (serialize segments) = true ↔
      ipv6Local segments = true ∨ Lookalike segments.head.toNat := by
  have hbound : segments.head.toNat < 65536 := segments.head.toNat_lt
  have hwhole : (serialize segments = [':', ':'] ∨ serialize segments = [':', ':', '1']) ↔
      segments.toList = [0, 0, 0, 0, 0, 0, 0, 0] ∨ segments.toList = [0, 0, 0, 0, 0, 0, 0, 1] := by
    constructor
    · exact eq_of_compressed
    · intro h
      rcases h with h | h
      · rw [serialize, h]
        exact .inl (by decide)
      · rw [serialize, h]
        exact .inr (by decide)
  have hstart : ((['f', 'c'] <+: serialize segments ∨ ['f', 'd'] <+: serialize segments) ∨
      ['f', 'e', '8'] <+: serialize segments ∨ ['f', 'e', '9'] <+: serialize segments ∨
        ['f', 'e', 'a'] <+: serialize segments ∨ ['f', 'e', 'b'] <+: serialize segments) ↔
      (segments.head.toNat / 512 = 0x7e ∨ segments.head.toNat / 64 = 0x3fa) ∨
        Lookalike segments.head.toNat := by
    by_cases hcompress : compressIndex segments.toList = some 0
    · have hhead : segments.head = 0 := by
        rw [← List.Vector.cons_head_tail segments, List.Vector.toList_cons] at hcompress
        exact head_of_compressIndex hcompress
      rw [serialize_compressed hcompress, hhead]
      simp [Lookalike]
    · obtain ⟨tail, htail⟩ := serialize_head hcompress
      rw [htail]
      have hunique := fun y (hy : y < 16) => two_digits (show 0 < 15 ∧ 15 < 16 by decide) hy hbound tail
      have hlink := fun z (hz : z < 16) =>
        three_digits (show 0 < 15 ∧ 15 < 16 by decide) (show 14 < 16 by decide) hz hbound tail
      rw [← show hexDigit 15 = 'f' from rfl, ← show hexDigit 12 = 'c' from rfl,
        ← show hexDigit 13 = 'd' from rfl, ← show hexDigit 14 = 'e' from rfl,
        ← show hexDigit 8 = '8' from rfl, ← show hexDigit 9 = '9' from rfl,
        ← show hexDigit 10 = 'a' from rfl, ← show hexDigit 11 = 'b' from rfl,
        hunique 12 (by decide), hunique 13 (by decide), hlink 8 (by decide), hlink 9 (by decide),
        hlink 10 (by decide), hlink 11 (by decide), Lookalike]
      omega
  rw [privateIpv6_iff, hwhole, hstart, ipv6Local_iff]
  exact or_assoc.symm

theorem privateIpv4_of_no_dot {host : List Char} (h : '.' ∉ host) : privateIpv4 host = false := by
  have hstart : ∀ start : List Char, '.' ∈ start → start.isPrefixOf host = false := by
    intro start hdot
    rw [Bool.eq_false_iff, ne_eq, List.isPrefixOf_iff_prefix]
    exact fun hstart => h (hstart.subset hdot)
  rw [privateIpv4, Bool.or_eq_false_iff, Bool.and_eq_false_iff, List.any_eq_false]
  refine ⟨?_, .inl (hstart _ (by decide))⟩
  intro start hmem
  have hdot : '.' ∈ start.toList := by
    have hall : ∀ start ∈ ["127.", "0.", "10.", "192.168.", "169.254."], '.' ∈ start.toList := by
      decide
    exact hall start hmem
  rw [hstart _ hdot]
  exact Bool.false_ne_true

/-- No name and no IPv4 address is read into an IPv6 address. -/
theorem privateHost_serialize (segments : List.Vector UInt16 8) :
    privateHost (serialize segments) = true ↔
      ipv6Local segments = true ∨ Lookalike segments.head.toNat := by
  have hchars : ∀ c ∈ serialize segments, c ∈ lowerHexDigits ∨ c = ':' := fun c hc =>
    mem_serializeGroups hc
  have hv4 : privateIpv4 (serialize segments) = false :=
    privateIpv4_of_no_dot fun hdot => absurd (hchars _ hdot) (by decide)
  have hname : privateName (serialize segments) = false := by
    rw [privateName, Bool.or_eq_false_iff, decide_eq_false_iff_not, Bool.eq_false_iff, ne_eq,
      List.isSuffixOf_iff_suffix]
    constructor
    · intro h
      have hletter : 'l' ∈ serialize segments := by
        rw [h]
        decide
      exact absurd (hchars _ hletter) (by decide)
    · intro h
      have hletter : 'l' ∈ serialize segments := h.subset (by decide)
      exact absurd (hchars _ hletter) (by decide)
  rw [privateHost, hname, hv4, ← privateIpv6_serialize]
  rfl

/-! What the filters decide. -/

theorem privateName_iff (name : String) :
    privateName (toLowerCase name.toList) = true ↔ (UrlHost.domain name).Local := by
  rw [privateName, Bool.or_eq_true, decide_eq_true_eq, List.isSuffixOf_iff_suffix]
  exact or_congr_right ⟨fun ⟨labels, h⟩ => ⟨labels, h.symm⟩, fun ⟨labels, h⟩ => ⟨labels, h.symm⟩⟩

/-- Only an IPv6 address is read differently without its brackets. -/
theorem stripBrackets_hostname {host : UrlHost} (hvalid : ValidHost host)
    (hkind : ∀ segments, host ≠ .ipv6 segments) :
    stripBrackets (toLowerCase (host.hostStr serialize).toList) =
      toLowerCase (host.hostStr serialize).toList := by
  apply stripBrackets_eq_self
  intro c hc
  obtain ⟨x, hx, rfl⟩ := List.mem_map.mp hc
  have hplain : x ≠ '[' ∧ x ≠ ']' := by
    cases host with
    | domain name => exact ⟨(hvalid x hx).2.1, (hvalid x hx).2.2.1⟩
    | ipv4 a b c d =>
      rw [UrlHost.hostStr, String.toList_ofList] at hx
      constructor
      · rintro rfl
        exact absurd (mem_dottedDecimal hx) (by decide)
      · rintro rfl
        exact absurd (mem_dottedDecimal hx) (by decide)
    | ipv6 segments => exact absurd rfl (hkind segments)
  constructor
  · intro h
    exact hplain.1 (toLower_eq_delimiter (by decide) h)
  · intro h
    exact hplain.2 (toLower_eq_delimiter (by decide) h)

def IsDomain : UrlHost → Prop
  | .domain _ => True
  | _ => False

/-- How the texts of the local addresses start. -/
def LocalStart (text : List Char) : Prop :=
  (∃ start ∈ ["127.", "0.", "10.", "192.168.", "169.254."], start.toList <+: text) ∨
    (∃ n, 16 ≤ n ∧ n ≤ 31 ∧ "172.".toList ++ ((toString n).toList ++ ['.']) <+: text) ∨
      ∃ start ∈ ["fc", "fd", "fe8", "fe9", "fea", "feb"], start.toList <+: text

/-- The hosts whose text does not mislead the filters. -/
def ReadsAsAddressed : UrlHost → Prop
  | .domain name => (UrlHost.domain name).Local ∨ ¬ LocalStart (toLowerCase name.toList)
  | .ipv4 .. => True
  | .ipv6 segments => ipv6Local segments = false ∧ ¬ Lookalike segments.head.toNat

theorem mem_digits {c : Char} (h : c.isDigit = true) : c ∈ "0123456789".toList := by
  simp only [Char.isDigit, Bool.and_eq_true, decide_eq_true_eq] at h
  have hlow : 48 ≤ c.toNat := UInt32.le_iff_toNat_le.mp h.1
  have hhigh : c.toNat ≤ 57 := UInt32.le_iff_toNat_le.mp h.2
  rw [← Char.ofNat_toNat c]
  interval_cases c.toNat <;> decide

theorem privateSecondOctet_iff (text : List Char) : privateSecondOctet text = true ↔
    ∃ n, 16 ≤ n ∧ n ≤ 31 ∧ (toString n).toList ++ ['.'] <+: text := by
  constructor
  · intro h
    -- both digits are fixed by the number they spell
    have hspelled : (['1', '2', '3'].all fun tens => "0123456789".toList.all fun ones =>
        privateSecondOctet [tens, ones, '.'] → ∃ n : Fin 32, 16 ≤ n.val ∧
          (toString n.val).toList ++ ['.'] = [tens, ones, '.']) = true := by decide +kernel
    have hdigits : ∃ tens ∈ ['1', '2', '3'], ∃ ones rest, ones.isDigit = true ∧
        text = [tens, ones, '.'] ++ rest ∧ privateSecondOctet [tens, ones, '.'] = true := by
      unfold privateSecondOctet at h
      split at h
      · rename_i ones rest
        refine ⟨'1', by decide, ones, rest, ?_, rfl, h⟩
        simp only [Bool.and_eq_true, decide_eq_true_eq] at h
        have hlow : '0'.val ≤ '6'.val := by decide
        simp only [Char.isDigit, Bool.and_eq_true, decide_eq_true_eq]
        exact ⟨UInt32.le_trans hlow h.1, h.2⟩
      · rename_i ones rest
        exact ⟨'2', by decide, ones, rest, h, rfl, h⟩
      · rename_i ones rest
        refine ⟨'3', by decide, ones, rest, ?_, rfl, h⟩
        simp only [Bool.or_eq_true, decide_eq_true_eq] at h
        rcases h with rfl | rfl
        · decide
        · decide
      · cases h
    obtain ⟨tens, htens, ones, rest, hones, htext, hsecond⟩ := hdigits
    have hones' := List.all_eq_true.mp (List.all_eq_true.mp hspelled tens htens) ones
      (mem_digits hones)
    obtain ⟨n, hlow, hspell⟩ := of_decide_eq_true hones' hsecond
    refine ⟨n.val, hlow, by omega, ?_⟩
    rw [hspell, htext]
    exact List.prefix_append _ _
  · rintro ⟨n, hlow, hhigh, rest, rfl⟩
    rw [List.append_assoc]
    exact privateSecondOctet_digits ⟨hlow, hhigh⟩ rest

theorem drop_prefix_iff {start text : List Char} (rest : List Char) :
    start ++ rest <+: text ↔ start <+: text ∧ rest <+: text.drop start.length := by
  constructor
  · rintro ⟨tail, rfl⟩
    rw [List.append_assoc, List.drop_left]
    exact ⟨List.prefix_append _ _, List.prefix_append _ _⟩
  · rintro ⟨⟨tail, rfl⟩, h⟩
    rw [List.drop_left] at h
    exact (List.prefix_append_right_inj start).mpr h

/-- The address tests of the filters, on a text without colons. -/
theorem localStart_iff {text : List Char} (hcolon : ':' ∉ text) :
    LocalStart text ↔ privateIpv4 text = true ∨ privateIpv6 text = true := by
  have hwhole : ¬ text = "::".toList ∧ ¬ text = "::1".toList := by
    constructor
    · rintro rfl
      exact hcolon (by decide)
    · rintro rfl
      exact hcolon (by decide)
  have hsecond : (∃ n, 16 ≤ n ∧ n ≤ 31 ∧ "172.".toList ++ ((toString n).toList ++ ['.']) <+: text) ↔
      "172.".toList <+: text ∧ privateSecondOctet (text.drop 4) = true := by
    simp only [privateSecondOctet_iff, drop_prefix_iff]
    constructor
    · rintro ⟨n, hlow, hhigh, hstart, hn⟩
      exact ⟨hstart, n, hlow, hhigh, hn⟩
    · rintro ⟨hstart, n, hlow, hhigh, hn⟩
      exact ⟨n, hlow, hhigh, hstart, hn⟩
  rw [LocalStart, hsecond, privateIpv4, privateIpv6, Bool.or_eq_true, Bool.or_eq_true,
    Bool.or_eq_true, Bool.and_eq_true, decide_eq_true_eq, decide_eq_true_eq,
    or_iff_right (not_or.mpr hwhole), List.any_eq_true, List.any_eq_true]
  simp only [List.isPrefixOf_iff_prefix]
  exact or_assoc.symm

/-- A domain is refused for its name or for the start of its text. -/
theorem privateHost_domain {name : String} (hvalid : ValidHost (.domain name)) :
    privateHost (toLowerCase name.toList) = true ↔
      (UrlHost.domain name).Local ∨ LocalStart (toLowerCase name.toList) := by
  have hcolon : ':' ∉ toLowerCase name.toList := by
    intro h
    obtain ⟨c, hc, hlower⟩ := List.mem_map.mp h
    exact (hvalid c hc).2.2.2 (toLower_eq_delimiter (by decide) hlower)
  rw [privateHost, Bool.or_eq_true, Bool.or_eq_true, privateName_iff, localStart_iff hcolon, or_assoc]

theorem toLowerCase_dottedDecimal (a b c d : UInt8) :
    toLowerCase (dottedDecimal a b c d) = dottedDecimal a b c d := by
  apply toLowerCase_eq_self
  intro x hx
  rcases mem_dottedDecimal hx with hdigit | rfl
  · exact toLower_of_isDigit hdigit
  · decide

theorem toLower_serialize {segments : List.Vector UInt16 8} {c : Char} (h : c ∈ serialize segments) :
    c.toLower = c := toLower_lowerHexDigits (mem_serializeGroups h)

section
variable [WebUrlParser]

/-- Local hosts are refused, other domains are accepted, and the two filters agree. -/
structure ClassifiedByAddress (value flag deployFlag : String) (protocols : List String)
    (host : UrlHost) : Prop where
  local_refused : host.Local → isOk (requireRemoteUrl value flag protocols) = false ∧
    isOk (requireRemoteHttpUrl value deployFlag) = false
  domain_accepted : IsDomain host → ¬ host.Local →
    isOk (requireRemoteUrl value flag protocols) = true ∧
      isOk (requireRemoteHttpUrl value deployFlag) = true
  same_verdict : isOk (requireRemoteUrl value flag protocols) =
    isOk (requireRemoteHttpUrl value deployFlag)

variable {value flag deployFlag : String} {protocols : List String} {url : WebUrl}

theorem isOk_requireRemoteUrl (hparse : WebUrlParser.parse value = some url)
    (hprotocol : url.protocol ∈ protocols) (hcredentials : url.username = "" ∧ url.password = "") :
    isOk (requireRemoteUrl value flag protocols) =
      !privateHost (stripBrackets (toLowerCase url.hostname.toList)) := by
  have hopen : ¬ (url.username ≠ "" ∨ url.password ≠ "") := by
    rw [hcredentials.1, hcredentials.2]
    simp
  rw [requireRemoteUrl, hparse]
  dsimp only
  rw [if_neg (not_not_intro hprotocol), if_neg hopen]
  cases privateHost (stripBrackets (toLowerCase url.hostname.toList)) with
  | false => rfl
  | true => rfl

theorem isOk_requireRemoteHttpUrl (hparse : WebUrlParser.parse value = some url)
    (hhttp : url.protocol = "http:" ∨ url.protocol = "https:") :
    isOk (requireRemoteHttpUrl value deployFlag) =
      !privateHost (toLowerCase url.hostname.toList) := by
  have haccepted : ¬ (url.protocol ≠ "http:" ∧ url.protocol ≠ "https:") := by
    rintro ⟨hplain, hsecure⟩
    exact hhttp.elim hplain hsecure
  rw [requireRemoteHttpUrl, hparse]
  dsimp only
  rw [if_neg haccepted]
  cases privateHost (toLowerCase url.hostname.toList) with
  | false => rfl
  | true => rfl

/-- What both filters read of a domain and an IPv4 address is the address; in an IPv6 address they
read different texts. -/
theorem classifiedByAddress_iff (hparse : WebUrlParser.parse value = some url)
    (hprotocol : url.protocol ∈ protocols) (hhttp : url.protocol = "http:" ∨ url.protocol = "https:")
    (hcredentials : url.username = "" ∧ url.password = "") :
    ClassifiedByAddress value flag deployFlag protocols url.host ↔ ReadsAsAddressed url.host := by
  have hsupervisor : isOk (requireRemoteUrl value flag protocols) =
      !privateHost (stripBrackets (toLowerCase url.hostname.toList)) :=
    isOk_requireRemoteUrl hparse hprotocol hcredentials
  have hdeploy : isOk (requireRemoteHttpUrl value deployFlag) =
      !privateHost (toLowerCase url.hostname.toList) := isOk_requireRemoteHttpUrl hparse hhttp
  have hvalid := url.valid
  rw [WebUrl.hostname] at hsupervisor hdeploy
  cases hhost : url.host with
  | domain name =>
    rw [hhost] at hsupervisor hdeploy hvalid
    rw [stripBrackets_hostname hvalid (by simp), UrlHost.hostStr] at hsupervisor
    rw [UrlHost.hostStr] at hdeploy
    have hprivate := privateHost_domain hvalid
    constructor
    · rintro ⟨-, haccepted, -⟩
      by_cases hlocal : (UrlHost.domain name).Local
      · exact .inl hlocal
      · have hpasses := (haccepted trivial hlocal).2
        rw [hdeploy, Bool.not_eq_true', Bool.eq_false_iff, ne_eq, hprivate, not_or] at hpasses
        exact .inr hpasses.2
    · intro hreads
      refine ⟨?_, ?_, hsupervisor.trans hdeploy.symm⟩
      · intro hlocal
        rw [hsupervisor, hdeploy, hprivate.mpr (.inl hlocal)]
        exact ⟨rfl, rfl⟩
      · intro _ hlocal
        have hpublic := mt hprivate.mp (not_or.mpr ⟨hlocal, hreads.resolve_left hlocal⟩)
        rw [hsupervisor, hdeploy, Bool.eq_false_iff.mpr hpublic]
        exact ⟨rfl, rfl⟩
  | ipv4 a b c d =>
    rw [hhost] at hsupervisor hdeploy hvalid
    rw [stripBrackets_hostname hvalid (by simp)] at hsupervisor
    rw [UrlHost.hostStr, String.toList_ofList, toLowerCase_dottedDecimal] at hsupervisor hdeploy
    refine iff_of_true ⟨?_, fun h => h.elim, hsupervisor.trans hdeploy.symm⟩ trivial
    intro hlocal
    rw [hsupervisor, hdeploy, privateHost, privateIpv4_of_local hlocal, Bool.or_true]
    exact ⟨rfl, rfl⟩
  | ipv6 segments =>
    rw [hhost] at hsupervisor hdeploy
    rw [UrlHost.hostStr, String.toList_ofList, toLowerCase_bracketed fun c => toLower_serialize,
      stripBrackets_bracketed] at hsupervisor
    rw [UrlHost.hostStr, String.toList_ofList, toLowerCase_bracketed fun c => toLower_serialize,
      privateHost_bracketed] at hdeploy
    -- the deployment accepts every one of them, so the supervisor has to
    have hagree : isOk (requireRemoteUrl value flag protocols) =
        isOk (requireRemoteHttpUrl value deployFlag) ↔
          ipv6Local segments = false ∧ ¬ Lookalike segments.head.toNat := by
      rw [hsupervisor, hdeploy, Bool.not_false, Bool.not_eq_true', Bool.eq_false_iff, ne_eq,
        privateHost_serialize, not_or, Bool.not_eq_true]
    constructor
    · intro hclassified
      exact hagree.mp hclassified.same_verdict
    · intro hreads
      refine ⟨fun hlocal => ?_, fun h => h.elim, hagree.mpr hreads⟩
      have hlocal' : ipv6Local segments = true := hlocal
      rw [hreads.1] at hlocal'
      cases hlocal'

end

/-! The loopback address in brackets. -/

/-- The two URLs that are read below. -/
@[reducible] def sampleWebUrls : WebUrlParser where
  parse value :=
    if value = "http://[::1]:8899" then
      some ⟨"http:", "", "", .ipv6 loopbackSegments, "http://[::1]:8899/", trivial⟩
    else if value = "http://10.0.0.8:6379" then
      some ⟨"http:", "", "", .ipv4 10 0 0 8, "http://10.0.0.8:6379/", trivial⟩
    else none

theorem private_url_classified :
    @ClassifiedByAddress sampleWebUrls "http://10.0.0.8:6379" "endpoint" "--rpc-url" ["http:"]
      (.ipv4 10 0 0 8) :=
  (@classifiedByAddress_iff sampleWebUrls "http://10.0.0.8:6379" "endpoint" "--rpc-url" ["http:"]
    ⟨"http:", "", "", .ipv4 10 0 0 8, "http://10.0.0.8:6379/", trivial⟩ rfl (by decide) (.inl rfl)
    ⟨rfl, rfl⟩).mpr trivial

/-- The deployment accepts the local endpoint that the supervisor refuses. -/
theorem deployment_accepts_loopback :
    ∃ url, sampleWebUrls.parse "http://[::1]:8899" = some url ∧ url.protocol = "http:" ∧
      (url.username = "" ∧ url.password = "") ∧ url.host.Local ∧
      isOk (@requireRemoteUrl sampleWebUrls "http://[::1]:8899" "endpoint" ["http:"]) = false ∧
      isOk (@requireRemoteHttpUrl sampleWebUrls "http://[::1]:8899" "--rpc-url") = true :=
  ⟨⟨"http:", "", "", .ipv6 loopbackSegments, "http://[::1]:8899/", trivial⟩, rfl, rfl, ⟨rfl, rfl⟩,
    rfl, by decide +kernel, by decide +kernel⟩

end DogeOperator.HostFilters

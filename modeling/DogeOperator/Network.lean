import DogeOperator.Crypto

/-! Runtime network profiles: endpoint and identity checks, and Dogecoin address encoding. -/
namespace DogeOperator.Network
open Bytes Outcome Crypto

abbrev Pubkey := FixedBytes 32

def officialWormholeCore : String := "3u8hJUVTA4jH1wYAyUur7FFZVQ8H635K3tSHHF4ssjQ5"
def officialWormholeShim : String := "EtZMZM22ViKMo4r5y4Anovs3wKQ2owUmDpjygnMMcdEX"
def localNoopShim : String := "FwDChsHWLwbhTiYQ4Sum5mjVWswECi9cmrA11GUFUuxi"
def localSolanaRpc : String := "http://127.0.0.1:8899"
def devnetSolanaRpc : String := "https://api.devnet.solana.com"
def localElectrsUrl : String := "http://127.0.0.1:3002"
def qedTestnetElectrsUrl : String := "https://doge-electrs-testnet-demo.qed.me"
def localManagerServiceUrl : String := "http://127.0.0.1:7071"

inductive RuntimeNetwork
  | localhost
  | devnet
  deriving DecidableEq, Repr

inductive DogeNetwork
  | regtest
  | testnet
  deriving DecidableEq, Repr

/-- The parts of a parsed `reqwest::Url` that are read. -/
structure Url where
  scheme : String
  hostStr : Option String

/-- URL parsing of the `reqwest` crate, and the standard library's IPv6 text parser. -/
class UrlParser where
  parse : String → Except String Url
  ipv6FromStr : String → Option (List.Vector UInt16 8)

/-- A decimal octet: one to three digits, no leading zero, at most 255. -/
def ipv4Octet (digits : List Char) : Option ℕ :=
  if digits = [] ∨ digits.length > 3 ∨ ¬ digits.all Char.isDigit then none
  else if digits.length > 1 ∧ digits.head? = some '0' then none
  else
    let value := digits.foldl (fun n c => 10 * n + (c.toNat - 48)) 0
    if value ≤ 255 then some value else none

def ipv4FromStr (text : String) : Option (ℕ × ℕ × ℕ × ℕ) :=
  match (text.toList.splitOn '.').map ipv4Octet with
  | [some a, some b, some c, some d] => some (a, b, c, d)
  | _ => none

/-- `is_loopback`, `is_unspecified`, `is_private` or `is_link_local`. -/
def ipv4Local : ℕ × ℕ × ℕ × ℕ → Bool
  | (a, b, c, d) =>
    a = 127 || (a = 0 && b = 0 && c = 0 && d = 0) ||
      (a = 10 || (a = 172 && 16 ≤ b && b ≤ 31) || (a = 192 && b = 168)) ||
      (a = 169 && b = 254)

/-- Loopback, unspecified, unique-local or link-local. -/
def ipv6Local (segments : List.Vector UInt16 8) : Bool :=
  segments.toList = [0, 0, 0, 0, 0, 0, 0, 1] || segments.toList = [0, 0, 0, 0, 0, 0, 0, 0] ||
    segments.head &&& 0xfe00 = 0xfc00 || segments.head &&& 0xffc0 = 0xfe80

def hostIsLocal [UrlParser] (host : String) : Bool :=
  eqIgnoreAsciiCase host "localhost" ||
    ".localhost".toList.isSuffixOf (host.toList.map Char.toLower) ||
    match ipv4FromStr host with
    | some ip => ipv4Local ip
    | none => (UrlParser.ipv6FromStr host).any ipv6Local

/-- What a network fills in where the command line leaves it open. -/
structure NetworkDefaults where
  dogeNetwork : DogeNetwork
  solanaRpcUrl : String
  electrsUrl : String
  managerServiceUrl : Option String
  managerSetIndex : UInt32
  wormholeCoreProgram : String
  wormholeShimProgram : String

namespace RuntimeNetwork

/-- On devnet the operator supplies the Manager endpoint. -/
def defaults : RuntimeNetwork → NetworkDefaults
  | .localhost => {
      dogeNetwork := .regtest
      solanaRpcUrl := localSolanaRpc
      electrsUrl := localElectrsUrl
      managerServiceUrl := some localManagerServiceUrl
      managerSetIndex := 0
      wormholeCoreProgram := localNoopShim
      wormholeShimProgram := localNoopShim }
  | .devnet => {
      dogeNetwork := .testnet
      solanaRpcUrl := devnetSolanaRpc
      electrsUrl := qedTestnetElectrsUrl
      managerServiceUrl := none
      managerSetIndex := 1
      wormholeCoreProgram := officialWormholeCore
      wormholeShimProgram := officialWormholeShim }

def isLocalhost : RuntimeNetwork → Bool
  | .localhost => true
  | .devnet => false

def validateRemoteUrl [UrlParser] (network : RuntimeNetwork) (label value : String) :
    Result Unit := do
  if network.isLocalhost then
    return ()
  let url ← context s!"invalid {label} URL '{value}'" ((UrlParser.parse value).mapError ([·]))
  if url.scheme ≠ "http" ∧ url.scheme ≠ "https" then
    bail s!"{label} must use http or https on --network devnet"
  let host ← orBail url.hostStr s!"{label} URL has no host"
  if hostIsLocal host then
    bail s!"{label} must be externally operated on --network devnet; local endpoint '{host}' is forbidden"

def validateManagerSet (network : RuntimeNetwork) (index : UInt32) : Result Unit :=
  if network = .devnet ∧ index ≠ 1 then
    bail s!"--network devnet requires official Dogecoin Manager set index 1; got {index}"
  else .ok ()

def validateWormholePrograms (network : RuntimeNetwork) (core shim : String) : Result Unit :=
  if network = .devnet ∧ (core ≠ officialWormholeCore ∨ shim ≠ officialWormholeShim) then
    bail s!"--network devnet requires official Wormhole Core {officialWormholeCore} and shim {officialWormholeShim}; got Core {core} and shim {shim}"
  else .ok ()

end RuntimeNetwork

namespace DogeNetwork

def p2pkhVersion : DogeNetwork → UInt8
  | .regtest => 0x6f
  | .testnet => 0x71

def encodeAddress [Base58Check] (network : DogeNetwork) (addressType : UInt32)
    (payload : FixedBytes 20) : Result String :=
  if addressType = 0 then .ok (Base58Check.encodeCheck (network.p2pkhVersion :: payload.toList))
  else if addressType = 1 then .ok (Base58Check.encodeCheck (0xc4 :: payload.toList))
  else bail s!"unsupported Dogecoin address type {addressType}"

/-- Custody addresses carry the P2SH version byte on both networks. -/
def p2shAddress [Base58Check] (payload : FixedBytes 20) : String :=
  Base58Check.encodeCheck (0xc4 :: payload.toList)

@[simp] theorem encodeAddress_p2sh [Base58Check] (network : DogeNetwork) (payload : FixedBytes 20) :
    network.encodeAddress 1 payload = .ok (p2shAddress payload) := rfl

end DogeNetwork

end DogeOperator.Network

import XyApi.Base

/-!
Which targets the server may fetch. A policy filters ports, host names and addresses;
a name is filtered by its text, and its addresses once they are resolved. The text
parsers of the platform are parameters, and so is every answer of the resolver.
-/

namespace XyApi.Fetch

inductive NetIp
  | four (bits : BitVec 32)
  | sixteen (bits : BitVec 128)
  deriving DecidableEq, Repr

namespace NetIp

def unmap : NetIp → NetIp
  | .four bits => .four bits
  | .sixteen bits => if bits >>> 32 = 0xffff#128 then .four (bits.setWidth 32) else .sixteen bits

@[simp] theorem unmap_unmap (ip : NetIp) : ip.unmap.unmap = ip.unmap := by
  cases ip with
  | four => rfl
  | sixteen bits =>
    by_cases hMapped : bits >>> 32 = 0xffff#128
    · simp [unmap, hMapped]
    · simp [unmap, hMapped]

def is4 (ip : NetIp) : Bool :=
  match ip.unmap with
  | .four _ => true
  | .sixteen _ => false

end NetIp

inductive IpNet
  | four (bits : BitVec 32) (length : Nat)
  | sixteen (bits : BitVec 128) (length : Nat)
  deriving DecidableEq, Repr

/-- An IPv4 address is compared in its four-byte form. -/
def IpNet.contains (network : IpNet) (ip : NetIp) : Bool :=
  match network, ip.unmap with
  | .four bits length, .four addr => addr >>> (32 - length) = bits >>> (32 - length)
  | .sixteen bits length, .sixteen addr => addr >>> (128 - length) = bits >>> (128 - length)
  | _, _ => false

def v4 (a b c d : Nat) (length : Nat) : IpNet :=
  .four (BitVec.ofNat 32 (((a * 256 + b) * 256 + c) * 256 + d)) length

def v6 (a b c d : Nat) (length : Nat) : IpNet :=
  .sixteen (BitVec.ofNat 128
    ((((a * 65536 + b) * 65536 + c) * 65536 + d) * 18446744073709551616)) length

def nonPublicIPv4Prefixes : List IpNet :=
  [v4 0 0 0 0 8, v4 10 0 0 0 8, v4 100 64 0 0 10, v4 127 0 0 0 8, v4 169 254 0 0 16,
    v4 172 16 0 0 12, v4 192 0 0 0 24, v4 192 0 2 0 24, v4 192 88 99 0 24, v4 192 168 0 0 16,
    v4 198 18 0 0 15, v4 198 51 100 0 24, v4 203 0 113 0 24, v4 224 0 0 0 4, v4 240 0 0 0 4]

def nonPublicIPv6Prefixes : List IpNet :=
  [v6 0 0 0 0 96, v6 0x64 0xff9b 0 0 96, v6 0x64 0xff9b 1 0 48, v6 0x100 0 0 0 64,
    v6 0x100 0 0 1 64, v6 0x2001 0 0 0 23, v6 0x2001 0xdb8 0 0 32, v6 0x2002 0 0 0 16,
    v6 0x3fff 0 0 0 20, v6 0x5f00 0 0 0 16, v6 0xfc00 0 0 0 7, v6 0xfe80 0 0 0 10,
    v6 0xff00 0 0 0 8]

/-- The classes of the address library: unspecified, loopback, link-local, multicast
and private addresses. -/
def specialClasses : List IpNet :=
  [v4 0 0 0 0 32, v6 0 0 0 0 128, v4 127 0 0 0 8, .sixteen 1 128, v4 169 254 0 0 16,
    v6 0xfe80 0 0 0 10, v4 224 0 0 0 24, v6 0xff02 0 0 0 16, v4 224 0 0 0 4, v6 0xff00 0 0 0 8,
    v4 10 0 0 0 8, v4 172 16 0 0 12, v4 192 168 0 0 16, v6 0xfc00 0 0 0 7]

def isPrivateIP (ip : NetIp) : Bool :=
  if specialClasses.any (·.contains ip) then true
  else if ip.is4 then nonPublicIPv4Prefixes.any (·.contains ip)
  else nonPublicIPv6Prefixes.any (·.contains ip)

structure Url where
  scheme : String
  /-- Host and port, as they stand in the text. -/
  host : String
  deriving DecidableEq, Repr

structure NetLib where
  parseIP : String → Option NetIp
  /-- The text of an address has no white space around it. -/
  parseIP_trimmed : ∀ text ip, parseIP text = some ip → trimSpace text = text
  formatIP : NetIp → String
  parseCIDR : String → Option IpNet
  parseURL : String → Option Url

structure SSRFProtection where
  allowPrivateIp : Bool
  /-- A whitelist when true, a blacklist when false; so is `ipFilterMode`. -/
  domainFilterMode : Bool
  domainList : List String
  ipFilterMode : Bool
  ipList : List String
  allowedPorts : List Int
  applyIPFilterForDomain : Bool
  deriving DecidableEq, Repr

def isDomainListed (domain : String) (list : List String) : Bool :=
  list.any fun item =>
    let domain := toLower domain
    let item := toLower (trimSpace item)
    item ≠ "" ∧ (domain = item ∨
      -- A wildcard also covers the name it is a wildcard of.
      (['*', '.'] <+: item.toList ∧
        ('.' :: item.toList.drop 2 <:+ domain.toList ∨ domain.toList = item.toList.drop 2)))

def isIpInCIDRList (lib : NetLib) (ip : NetIp) (cidrList : List String) : Bool :=
  cidrList.any fun cidr =>
    match lib.parseCIDR cidr with
    | some network => network.contains ip
    | none => (lib.parseIP cidr).any fun listed => ip.unmap = listed.unmap

namespace SSRFProtection

variable (lib : NetLib) (p : SSRFProtection)

def isAllowedPort (port : Int) : Bool := p.allowedPorts = [] ∨ port ∈ p.allowedPorts

def isDomainAllowed (domain : String) : Bool :=
  if p.domainFilterMode then isDomainListed domain p.domainList
  else ¬ isDomainListed domain p.domainList

def isIPAccessAllowed (ip : NetIp) : Bool :=
  if isPrivateIP ip ∧ ¬ p.allowPrivateIp then false
  else if p.ipFilterMode then isIpInCIDRList lib ip p.ipList
  else ¬ isIpInCIDRList lib ip p.ipList

def ipAccessError (host : String) (ip : NetIp) : String :=
  let target := if host ≠ "" then host ++ " resolves to " ++ lib.formatIP ip else lib.formatIP ip
  if isPrivateIP ip ∧ ¬ p.allowPrivateIp then "private IP address not allowed: " ++ target
  else if p.ipFilterMode then "ip not in whitelist: " ++ target
  else "ip in blacklist: " ++ target

def validateNetworkTarget (host : String) (port : Int) : Except String Unit :=
  let host := trimSpace host
  if host = "" then .error "invalid host"
  else if port < 1 ∨ port > 65535 then .error ("invalid port: " ++ toString port)
  else if ¬ p.isAllowedPort port then .error ("port " ++ toString port ++ " is not allowed")
  else
    match lib.parseIP host with
    | some ip => if p.isIPAccessAllowed lib ip then .ok () else .error (p.ipAccessError lib "" ip)
    | none =>
      if p.isDomainAllowed host then .ok ()
      else if p.domainFilterMode then .error ("domain not in whitelist: " ++ host)
      else .error ("domain in blacklist: " ++ host)

def validateResolvedIP (host : String) (ip : NetIp) : Except String Unit :=
  if p.isIPAccessAllowed lib ip then .ok () else .error (p.ipAccessError lib host ip)

end SSRFProtection

/-! ### Hosts and ports -/

def splitLast (c : Char) : List Char → Option (List Char × List Char)
  | [] => none
  | x :: rest =>
    match splitLast c rest with
    | some (before, after) => some (x :: before, after)
    | none => if x = c then some ([], rest) else none

def splitFirst (c : Char) : List Char → Option (List Char × List Char)
  | [] => none
  | x :: rest =>
    if x = c then some ([], rest)
    else (splitFirst c rest).map fun (before, after) => (x :: before, after)

def splitHostPort (hostport : String) : Option (String × String) := do
  let text := hostport.toList
  let (before, port) ← splitLast ':' text
  if text.head? = some '[' then
    let (inside, rest) ← splitFirst ']' text
    -- The bracket has to close right before the last colon.
    if rest ≠ ':' :: port ∨ '[' ∈ text.drop 1 ∨ ']' ∈ rest then none
    else some (String.ofList (inside.drop 1), String.ofList port)
  else if ':' ∈ before ∨ '[' ∈ text ∨ ']' ∈ text then none
  else some (String.ofList before, String.ofList port)

/-- `Hostname` of a URL: the host without a port and without brackets. -/
def Url.hostname (u : Url) : String :=
  let text := u.host.toList
  let host :=
    match splitLast ':' text with
    | some (before, port) => if port.all Char.isDigit then before else text
    | none => text
  if host.head? = some '[' ∧ host.getLast? = some ']' then String.ofList (host.drop 1).dropLast
  else String.ofList host

/-- The host and the port that a URL names; the port is given by the scheme if it is
not in the text. -/
def Url.target (u : Url) : String × String :=
  match splitHostPort u.host with
  | some (host, port) => (host, port)
  | none => (u.hostname, if u.scheme = "https" then "443" else "80")

def validateEach (lib : NetLib) (p : SSRFProtection) (host : String) :
    List NetIp → Except String Unit
  | [] => .ok ()
  | ip :: rest => do
      p.validateResolvedIP lib host ip
      validateEach lib p host rest

/-- The answer of the resolver is missing when the resolution failed. -/
def SSRFProtection.validateURL (lib : NetLib) (p : SSRFProtection) (urlStr : String)
    (answer : Option (List NetIp)) : Except String Unit :=
  match lib.parseURL urlStr with
  | none => .error "invalid URL format"
  | some u =>
    if u.scheme ≠ "http" ∧ u.scheme ≠ "https" then
      .error ("unsupported protocol: " ++ u.scheme ++ " (only http/https allowed)")
    else
      let (host, portStr) := u.target
      match atoi portStr with
      | none => .error ("invalid port: " ++ portStr)
      | some port => do
          p.validateNetworkTarget lib host port
          if (lib.parseIP host).isSome ∨ ¬ p.applyIPFilterForDomain then .ok ()
          else
            match answer with
            | none => .error ("DNS resolution failed for " ++ host)
            | some ips => validateEach lib p host ips

end XyApi.Fetch

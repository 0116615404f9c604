import AgentSecurityPlatform.Library.IpAddress
import AgentSecurityPlatform.Runtime.Request

namespace AgentSecurityPlatform

structure NetworkDestination (u : UnicodeData) where
  host : String
  port : Nat
  host_ne : host ≠ ""
  host_plain : '\x00' ∉ host.toList ∧ ' ' ∉ host.toList
  host_normal : u.normal host = host
  port_range : 1 ≤ port ∧ port ≤ 65535

instance {u : UnicodeData} : DecidableEq (NetworkDestination u) := fun a b =>
  decidable_of_iff (a.host = b.host ∧ a.port = b.port) (by cases a; cases b; simp)

namespace NetworkDestination

variable {u : UnicodeData}

def construct (u : UnicodeData) (host : String) (port : Int) : Option (NetworkDestination u) :=
  let cleaned := u.normal host
  if h : host ≠ "" ∧ cleaned ≠ "" ∧ ('\x00' ∉ cleaned.toList ∧ ' ' ∉ cleaned.toList) ∧
      (1 ≤ port.toNat ∧ port.toNat ≤ 65535) then
    some ⟨cleaned, port.toNat, h.2.1, h.2.2.1, u.normal_normal host, h.2.2.2⟩
  else none

def toText (d : NetworkDestination u) : String := d.host ++ ":" ++ toString d.port

end NetworkDestination

def readGrouped (digit : Char → Option Nat) (base : Nat) : Bool → Nat → List Char → Option Nat
  | ready, acc, [] => if ready then some acc else none
  | ready, acc, '_' :: cs => if ready then readGrouped digit base false acc cs else none
  | _, acc, c :: cs =>
    match digit c with
    | some d => readGrouped digit base true (acc * base + d) cs
    | none => none

def hexDigit (u : UnicodeData) (c : Char) : Option Nat :=
  match u.decimal c with
  | some d => some d
  | none => IpAddress.asciiHexDigit c

def readHex (u : UnicodeData) (cs : List Char) : Option Nat :=
  match Text.stripChars Text.isSpace cs with
  | '0' :: x :: '_' :: cs =>
    if x = 'x' ∨ x = 'X' then readGrouped (hexDigit u) 16 false 0 cs else none
  | '0' :: x :: cs => if x = 'x' ∨ x = 'X' then readGrouped (hexDigit u) 16 false 0 cs else none
  | _ => none

def numericAddress (u : UnicodeData) (cs : List Char) : Option Nat :=
  if cs.all u.isDigit then IpAddress.readDigits u.decimal 10 0 cs
  else if cs.take 2 = ['0', 'x'] ∨ cs.take 2 = ['0', 'X'] then readHex u cs
  else none

def parseAndNormalizeIp (u : UnicodeData) (hostOrIp : String) : Option IpAddress :=
  let cleaned := Text.stripChars (fun c => c = '[' || c = ']')
    (Text.stripChars Text.isSpace hostOrIp.toList)
  if cleaned = [] then none
  else
    match (numericAddress u cleaned).filter (· ≤ 0xFFFFFFFF) with
    | some value => some (.v4 (BitVec.ofNat 32 value))
    | none =>
      match IpAddress.ipAddress cleaned with
      | some (.v6 bits scope) =>
        match IpAddress.ipv4Mapped bits with
        | some mapped => some (.v4 mapped)
        | none => some (.v6 bits scope)
      | parsed => parsed

def isRestrictedOrInternalIp (ip : IpAddress) : Bool :=
  ip.isLoopback || ip.isLinkLocal || ip.isUnspecified || ip.isMulticast || ip.isReserved ||
    ip.text = "169.254.169.254"

-- getaddrinfo: the addresses a name has at a port, none when it raises
structure Resolver (u : UnicodeData) where
  getaddrinfo : String → Int → Option (List String)
  spelling : ∀ host port addresses, getaddrinfo host port = some addresses →
    getaddrinfo (u.normal host) port = some addresses

structure NetworkSandboxGuard (u : UnicodeData) where
  mode : NetworkEgressMode := .disabled
  destinations : List (NetworkDestination u) := []
  allowUnixSockets : Bool := false
  allowBind : Bool := false
  active : Bool := false

namespace NetworkSandboxGuard

variable {u : UnicodeData}

def allowedPorts (g : NetworkSandboxGuard u) : List Nat := g.destinations.map (·.port)

def allowedHosts (g : NetworkSandboxGuard u) : List String :=
  g.destinations.map (fun d => u.lower d.host)

def redacted (reason : String) : String := reason ++ ": [REDACTED_DESTINATION]"

def resolvesTo (r : Resolver u) (host : String) (port : Int) (ip : IpAddress) : Bool :=
  match r.getaddrinfo host port with
  | none => false
  | some addresses => addresses.any (fun address => parseAndNormalizeIp u address = some ip)

def checkDestination (r : Resolver u) (g : NetworkSandboxGuard u) (hostOrIp : String) (port : Int) :
    Except String Unit :=
  if !g.active then .ok ()
  else if g.mode = .disabled then
    .error (redacted "Network egress is disabled by sandbox capability")
  else
    let parsedIp := parseAndNormalizeIp u hostOrIp
    if parsedIp.any isRestrictedOrInternalIp then
      .error (redacted "Network egress to internal or restricted address is forbidden")
    else if !g.allowedPorts.any (fun p => (p : Int) = port) then
      .error (redacted "Network egress port is forbidden by allowlist")
    else
      match parsedIp with
      | some ip =>
        if ip.text ∈ g.allowedHosts then .ok ()
        else if g.allowedHosts.any (fun host => resolvesTo r host port ip) then .ok ()
        else .error (redacted "Network egress to destination IP is forbidden by allowlist")
      | none =>
        let hostLower := u.normal hostOrIp
        if hostLower ∉ g.allowedHosts then
          .error (redacted "Network egress to host is forbidden by allowlist")
        else
          match r.getaddrinfo hostLower port with
          | none => .error (redacted "Failed to resolve destination host")
          | some addresses =>
            if addresses.any (fun address =>
                (parseAndNormalizeIp u address).any isRestrictedOrInternalIp) then
              .error (redacted "DNS resolution to internal or restricted address is forbidden")
            else .ok ()

end NetworkSandboxGuard

end AgentSecurityPlatform

import AgentSecurityPlatform.Sandbox.Network

namespace AgentSecurityPlatform

section FreshAddress

variable (u : UnicodeData)

def scopedText (n : Nat) : List Char :=
  ['2', '6', '2', '0', ':', ':', '1', '%'] ++ List.replicate (n + 1) 'a'

def scopedAddress (n : Nat) : IpAddress :=
  .v6 (BitVec.ofNat 128 (0x2620 * 65536 ^ 7 + 1)) (some (List.replicate (n + 1) 'a'))

theorem scopedText_last (n : Nat) : (scopedText n).getLast? = some 'a' := by
  rw [scopedText, List.replicate_succ', ← List.append_assoc, List.getLast?_concat]

theorem stripChars_scopedText {p : Char → Bool} (hp : p '2' = false)
    (hq : p 'a' = false) (n : Nat) :
    Text.stripChars p (scopedText n) = scopedText n := by
  apply Text.stripChars_eq_self
  · intro c hc
    obtain rfl : '2' = c := by simpa [scopedText] using hc
    exact hp
  · intro c hc
    rw [scopedText_last] at hc
    obtain rfl := Option.some.inj hc
    exact hq

theorem ipAddress_scopedText (n : Nat) :
    IpAddress.ipAddress (scopedText n) = some (scopedAddress n) := by
  have hdot : '.' ∉ scopedText n := by simp [scopedText]
  have hslash : '/' ∉ scopedText n := by simp [scopedText]
  have hoctet : IpAddress.parseOctet (scopedText n) = none := by
    have hlen : 3 < (scopedText n).length := by simp [scopedText]
    simp [IpAddress.parseOctet, hlen]
  have hv4 : IpAddress.parseV4 (scopedText n) = none := by
    simp [IpAddress.parseV4, List.splitOn_eq_singleton hdot, hoctet]
  have haddress : (scopedText n).takeWhile (· ≠ '%') = ['2', '6', '2', '0', ':', ':', '1'] := rfl
  have hscope : (scopedText n).dropWhile (· ≠ '%') = '%' :: List.replicate (n + 1) 'a' := rfl
  have hbits : IpAddress.parseV6Bits ['2', '6', '2', '0', ':', ':', '1'] =
      some (BitVec.ofNat 128 (0x2620 * 65536 ^ 7 + 1)) := by
    decide +kernel
  have hscoped : ¬ ('/' ∈ scopedText n ∨ List.replicate (n + 1) 'a' = [] ∨
      '%' ∈ List.replicate (n + 1) 'a') := by
    simp [hslash]
  simp only [IpAddress.ipAddress, hv4, IpAddress.parseV6, haddress, hscope, hbits, if_neg hscoped,
    Option.map_some, scopedAddress]

theorem text_scopedAddress (n : Nat) :
    (scopedAddress n).text = String.ofList (scopedText n) := by
  have htext : IpAddress.textV6 (IpAddress.hextets (BitVec.ofNat 128 (0x2620 * 65536 ^ 7 + 1))) =
      ['2', '6', '2', '0', ':', ':', '1'] := by
    decide +kernel
  simp only [scopedAddress, IpAddress.text, htext, scopedText, List.cons_append, List.nil_append]

theorem scopedAddress_unrestricted (n : Nat) :
    isRestrictedOrInternalIp (scopedAddress n) = false := by
  have htext : (scopedAddress n).text ≠ "169.254.169.254" := by
    rw [text_scopedAddress]
    intro h
    have hlist := congrArg (fun s => s.toList.head?) h
    revert hlist
    simp [scopedText]
  have hbits : (scopedAddress n).isLoopback = false ∧ (scopedAddress n).isLinkLocal = false ∧
      (scopedAddress n).isUnspecified = false ∧ (scopedAddress n).isMulticast = false ∧
      (scopedAddress n).isReserved = false := by
    simp only [scopedAddress, IpAddress.isLoopback, IpAddress.isLinkLocal, IpAddress.isUnspecified,
      IpAddress.isMulticast, IpAddress.isReserved]
    decide +kernel
  obtain ⟨h₁, h₂, h₃, h₄, h₅⟩ := hbits
  simp [isRestrictedOrInternalIp, h₁, h₂, h₃, h₄, h₅, htext]

theorem normal_scopedText (n : Nat) :
    u.normal (String.ofList (scopedText n)) = String.ofList (scopedText n) := by
  have hascii : ∀ c ∈ (String.ofList (scopedText n)).toList, c.toNat < 128 := by
    rw [String.toList_ofList]
    intro c hc
    simp only [scopedText, List.mem_append, List.mem_replicate] at hc
    rcases hc with hc | ⟨-, rfl⟩
    · simp only [List.mem_cons, List.not_mem_nil, or_false] at hc
      rcases hc with rfl | rfl | rfl | rfl | rfl | rfl | rfl | rfl <;> decide
    · decide
  have hlower : (scopedText n).map Char.toLower = scopedText n := by
    simp [scopedText]
  have hstrip : Text.strip (String.ofList (scopedText n)) = String.ofList (scopedText n) := by
    rw [Text.strip_eq, String.toList_ofList, stripChars_scopedText (by decide) (by decide)]
  rw [UnicodeData.normal, hstrip, u.lower_ascii _ hascii, ← String.toList_inj, String.toList_map,
    String.toList_ofList, hlower]

theorem exists_scopedText_notMem (hosts : List String) :
    ∃ n, String.ofList (scopedText n) ∉ hosts := by
  refine ⟨(hosts.map String.length).sum, fun hmem => ?_⟩
  have hle := List.single_le_sum (by simp) _ (List.mem_map_of_mem (f := String.length) hmem)
  have hlen (m : Nat) : (String.ofList (scopedText m)).length = m + 9 := by
    rw [String.length_ofList]
    simp [scopedText]
  rw [hlen] at hle
  omega

theorem parse_scopedText (n : Nat) :
    parseAndNormalizeIp u (String.ofList (scopedText n)) = some (scopedAddress n) := by
  have hspace := stripChars_scopedText (p := Text.isSpace) (by decide) (by decide) n
  have hbracket := stripChars_scopedText (p := fun c => c = '[' || c = ']')
    (by decide) (by decide) n
  have hdigits : (scopedText n).all u.isDigit = false := by
    rw [List.all_eq_false]
    refine ⟨':', by simp [scopedText], ?_⟩
    rw [u.isDigit_ascii ':' (by decide)]
    decide
  have hnumeric : numericAddress u (scopedText n) = none := by
    simp only [numericAddress, hdigits]
    rfl
  have hmapped : IpAddress.ipv4Mapped (BitVec.ofNat 128 (0x2620 * 65536 ^ 7 + 1)) = none := by
    decide +kernel
  simp only [parseAndNormalizeIp, String.toList_ofList, hspace, hbracket, hnumeric,
    Option.filter_none, ipAddress_scopedText, scopedAddress, hmapped]
  rfl

end FreshAddress

namespace NetworkDestination

variable {u : UnicodeData} {d : NetworkDestination u}

theorem lower_host (d : NetworkDestination u) : u.lower d.host = d.host := by
  rw [← d.host_normal, u.lower_normal]

def Names (d : NetworkDestination u) (hostOrIp : String) : Prop :=
  u.normal hostOrIp = d.host

def HasAddress (r : Resolver u) (d : NetworkDestination u) (hostOrIp : String)
    (port : Int) : Prop :=
  ∃ ip, parseAndNormalizeIp u hostOrIp = some ip ∧
    (ip.text = d.host ∨ ∃ addresses, r.getaddrinfo d.host port = some addresses ∧
      ∃ address ∈ addresses, parseAndNormalizeIp u address = some ip)

def Admits (r : Resolver u) (d : NetworkDestination u) (hostOrIp : String) (port : Int) : Prop :=
  (d.port : Int) = port ∧ (d.Names hostOrIp ∨ d.HasAddress r hostOrIp port)

end NetworkDestination

def Unrestricted {u : UnicodeData} (r : Resolver u) (hostOrIp : String) (port : Int) : Prop :=
  (∀ ip, parseAndNormalizeIp u hostOrIp = some ip → isRestrictedOrInternalIp ip = false) ∧
    (parseAndNormalizeIp u hostOrIp = none → ∀ addresses, r.getaddrinfo hostOrIp port =
      some addresses →
      ∀ address ∈ addresses, ∀ ip, parseAndNormalizeIp u address = some ip →
        isRestrictedOrInternalIp ip = false)

namespace NetworkSandboxGuard

variable {u : UnicodeData} {r : Resolver u} {g : NetworkSandboxGuard u} {hostOrIp : String}
  {port : Int} {ip : IpAddress}

theorem mem_allowedHosts {host : String} :
    host ∈ g.allowedHosts ↔ ∃ d ∈ g.destinations, d.host = host := by
  simp only [allowedHosts, List.mem_map, NetworkDestination.lower_host]

theorem any_allowedPorts :
    g.allowedPorts.any (fun p => (p : Int) = port) = true ↔
      ∃ e ∈ g.destinations, (e.port : Int) = port := by
  simp [allowedPorts]

theorem resolvesTo_iff {host : String} :
    resolvesTo r host port ip = true ↔ ∃ addresses, r.getaddrinfo host port = some addresses ∧
      ∃ address ∈ addresses, parseAndNormalizeIp u address = some ip := by
  simp only [resolvesTo]
  cases r.getaddrinfo host port with
  | none => simp
  | some addresses => simp

-- what an admitted request has been checked against
theorem checkDestination_ok_iff (hactive : g.active = true) (hmode : g.mode = .allowlist) :
    checkDestination r g hostOrIp port = .ok () ↔
      (∃ e ∈ g.destinations, (e.port : Int) = port) ∧
        ((∃ ip, parseAndNormalizeIp u hostOrIp = some ip ∧ isRestrictedOrInternalIp ip = false ∧
            ∃ d ∈ g.destinations, d.HasAddress r hostOrIp port) ∨
          parseAndNormalizeIp u hostOrIp = none ∧ (∃ d ∈ g.destinations, d.Names hostOrIp) ∧
            ∃ addresses, r.getaddrinfo (u.normal hostOrIp) port = some addresses ∧
              ∀ address ∈ addresses, ∀ ip, parseAndNormalizeIp u address = some ip →
                isRestrictedOrInternalIp ip = false) := by
  have hports : g.allowedPorts.any (fun p => (p : Int) = port) = true ↔
      ∃ e ∈ g.destinations, (e.port : Int) = port := any_allowedPorts
  simp only [checkDestination, hactive, hmode, Bool.not_true, Bool.false_eq_true, if_false,
    reduceCtorEq]
  rw [← hports]
  cases g.allowedPorts.any (fun p => (p : Int) = port) with
  | false =>
    simp only [Bool.not_false, if_true, Bool.false_eq_true, false_and, iff_false]
    split <;> simp
  | true =>
    simp only [Bool.not_true, Bool.false_eq_true, if_false, true_and]
    cases hp : parseAndNormalizeIp u hostOrIp with
    | some ip =>
      have hliteral : (∃ d ∈ g.destinations, d.HasAddress r hostOrIp port) ↔
          ip.text ∈ g.allowedHosts ∨
            g.allowedHosts.any (fun h => resolvesTo r h port ip) = true := by
        rw [List.any_eq_true]
        simp only [NetworkDestination.HasAddress, hp, Option.some.injEq, exists_eq_left',
          mem_allowedHosts, resolvesTo_iff]
        constructor
        · rintro ⟨d, hd, htext | hres⟩
          · exact .inl ⟨d, hd, htext.symm⟩
          · exact .inr ⟨d.host, ⟨d, hd, rfl⟩, hres⟩
        · rintro (⟨d, hd, htext⟩ | ⟨_, ⟨d, hd, rfl⟩, hres⟩)
          · exact ⟨d, hd, .inl htext.symm⟩
          · exact ⟨d, hd, .inr hres⟩
      cases hr : isRestrictedOrInternalIp ip with
      | true => simp [hr]
      | false =>
        simp only [Option.any_some, hr, Bool.false_eq_true, if_false, Option.some.injEq,
          exists_eq_left', true_and, reduceCtorEq, false_and, or_false, hliteral]
        split
        · rename_i htext
          simp [htext]
        · rename_i htext
          split
          · rename_i hany
            simp [hany]
          · rename_i hany
            simp [htext, hany]
    | none =>
      have hnamed : (∃ d ∈ g.destinations, d.Names hostOrIp) ↔
        u.normal hostOrIp ∈ g.allowedHosts := by
        rw [mem_allowedHosts]
        simp only [NetworkDestination.Names, eq_comm]
      simp only [Option.any_none, Bool.false_eq_true, if_false, reduceCtorEq,
        false_and, exists_false, false_or, true_and, hnamed]
      by_cases hmem : u.normal hostOrIp ∈ g.allowedHosts
      · simp only [hmem, not_true_eq_false, if_false, true_and]
        cases r.getaddrinfo (u.normal hostOrIp) port with
        | none => simp
        | some addresses =>
          simp only [Option.some.injEq, exists_eq_left']
          split
          · rename_i hany
            simp only [List.any_eq_true, Option.any_eq_true] at hany
            obtain ⟨address, ha, ip, hip, hr⟩ := hany
            simp only [reduceCtorEq, false_iff]
            intro hall
            rw [hall address ha ip hip] at hr
            cases hr
          · rename_i hany
            simp only [true_iff]
            intro address ha ip hip
            by_contra hr
            apply hany
            simp only [List.any_eq_true, Option.any_eq_true]
            exact ⟨address, ha, ip, hip, by simpa using hr⟩
      · simp [hmem]

def Exact (r : Resolver u) (g : NetworkSandboxGuard u) (hostOrIp : String) (port : Int) : Prop :=
  checkDestination r g hostOrIp port = .ok () →
    (∃ d ∈ g.destinations, d.Admits r hostOrIp port) ∧ Unrestricted r hostOrIp port

def PairsDeclared (g : NetworkSandboxGuard u) : Prop :=
  ∀ d ∈ g.destinations, ∀ e ∈ g.destinations, ∃ f ∈ g.destinations,
    f.host = d.host ∧ f.port = e.port

theorem exact_of_pairsDeclared (hactive : g.active = true) (hmode : g.mode = .allowlist)
    (hpairs : g.PairsDeclared) (r : Resolver u) (hostOrIp : String) (port : Int) :
    Exact r g hostOrIp port := by
  intro hok
  obtain ⟨⟨e, he, hport⟩, hhost⟩ := (checkDestination_ok_iff hactive hmode).mp hok
  rcases hhost with ⟨ip, hip, hfree, d, hd, hhas⟩ | ⟨hnone, ⟨d, hd, hnames⟩, addresses, hres, hfree⟩
  · obtain ⟨f, hf, hfh, hfp⟩ := hpairs d hd e he
    refine ⟨⟨f, hf, hfp ▸ hport, .inr ?_⟩, ?_, ?_⟩
    · simpa only [NetworkDestination.HasAddress, hfh] using hhas
    · intro ip' hip'
      rw [hip] at hip'
      cases hip'
      exact hfree
    · intro hnone
      rw [hip] at hnone
      cases hnone
  · obtain ⟨f, hf, hfh, hfp⟩ := hpairs d hd e he
    refine ⟨⟨f, hf, hfp ▸ hport, .inl ?_⟩, ?_, ?_⟩
    · simpa only [NetworkDestination.Names, hfh] using hnames
    · intro ip' hip'
      rw [hnone] at hip'
      cases hip'
    · intro _ raw hraw
      have hsame := r.spelling hostOrIp port raw hraw
      rw [hres] at hsame
      cases hsame
      exact hfree

-- a resolver under which one name alone has addresses
def aloneResolver (d : NetworkDestination u) (addresses : List String) : Resolver u where
  getaddrinfo host _ := if u.normal host = d.host then some addresses else none
  spelling := by
    intro host port found hfound
    rw [u.normal_normal]
    exact hfound

theorem aloneResolver_of_ne {d f : NetworkDestination u} {addresses : List String}
    (h : f.host ≠ d.host) (port : Int) :
    (aloneResolver d addresses).getaddrinfo f.host port = none := by
  simp only [aloneResolver, f.host_normal, if_neg h]

theorem aloneResolver_self (d : NetworkDestination u) (addresses : List String) (port : Int) :
    (aloneResolver d addresses).getaddrinfo d.host port = some addresses := by
  simp only [aloneResolver, d.host_normal, if_true]

-- a request that reaches d's host at e's port and, among the given hosts, no other
theorem exists_request (hactive : g.active = true) (hmode : g.mode = .allowlist)
    {d e : NetworkDestination u} (hd : d ∈ g.destinations) (he : e ∈ g.destinations)
    (hosts : List String) :
    ∃ r hostOrIp, checkDestination r g hostOrIp e.port = .ok () ∧
      ∀ f : NetworkDestination u, f.host ∈ hosts →
        f.Names hostOrIp ∨ f.HasAddress r hostOrIp e.port → f.host = d.host := by
  cases hp : parseAndNormalizeIp u d.host with
  | none =>
    refine ⟨aloneResolver d [], d.host, ?_, ?_⟩
    · rw [checkDestination_ok_iff hactive hmode]
      refine ⟨⟨e, he, rfl⟩, .inr ⟨hp, ⟨d, hd, d.host_normal⟩, [], ?_, by simp⟩⟩
      rw [d.host_normal, aloneResolver_self]
    · rintro f - (hnames | ⟨ip, hip, -⟩)
      · exact hnames.symm.trans d.host_normal
      · rw [hp] at hip
        cases hip
  | some _ =>
    -- an address none of the hosts spells, reached through d alone
    obtain ⟨n, hn⟩ := exists_scopedText_notMem hosts
    have hhas : d.HasAddress (aloneResolver d [String.ofList (scopedText n)])
        (String.ofList (scopedText n)) e.port :=
      ⟨scopedAddress n, parse_scopedText u n, .inr ⟨_, aloneResolver_self d _ _, _,
        List.mem_singleton_self _, parse_scopedText u n⟩⟩
    refine ⟨aloneResolver d [String.ofList (scopedText n)], String.ofList (scopedText n), ?_, ?_⟩
    · rw [checkDestination_ok_iff hactive hmode]
      exact ⟨⟨e, he, rfl⟩, .inl ⟨scopedAddress n, parse_scopedText u n,
        scopedAddress_unrestricted n, d, hd, hhas⟩⟩
    · rintro f hf (hnames | ⟨ip, hip, htext | ⟨addresses, hres, -⟩⟩)
      · rw [NetworkDestination.Names, normal_scopedText] at hnames
        exact absurd (hnames ▸ hf) hn
      · rw [parse_scopedText] at hip
        cases hip
        rw [text_scopedAddress] at htext
        exact absurd (htext ▸ hf) hn
      · by_contra hne
        rw [aloneResolver_of_ne hne] at hres
        cases hres

theorem pairsDeclared_of_exact (hactive : g.active = true) (hmode : g.mode = .allowlist)
    (hexact : ∀ (r : Resolver u) hostOrIp port, Exact r g hostOrIp port) : g.PairsDeclared := by
  intro d hd e he
  obtain ⟨r, hostOrIp, hok, honly⟩ := exists_request hactive hmode hd he
    (g.destinations.map (·.host))
  obtain ⟨⟨f, hf, hport, hcovers⟩, -⟩ := hexact r hostOrIp e.port hok
  have hmem : f.host ∈ g.destinations.map (·.host) := List.mem_map_of_mem hf
  exact ⟨f, hf, honly f hmem hcovers, Int.ofNat_inj.mp hport⟩

theorem allowlist_exact_iff (g : NetworkSandboxGuard u) (hactive : g.active = true)
    (hmode : g.mode = .allowlist) :
    (∀ (r : Resolver u) hostOrIp port, Exact r g hostOrIp port) ↔ g.PairsDeclared :=
  ⟨pairsDeclared_of_exact hactive hmode, exact_of_pairsDeclared hactive hmode⟩

def sampleApi (port : Nat) (hport : 1 ≤ port ∧ port ≤ 65535) : NetworkDestination .ascii :=
  ⟨"api.example.com", port, by decide, by decide, by decide +kernel, hport⟩

def sampleDatabase : NetworkDestination .ascii :=
  ⟨"db.example.org", 5432, by decide, by decide, by decide +kernel, by decide⟩

def samplePaired : NetworkSandboxGuard .ascii :=
  { mode := .allowlist, destinations := [sampleApi 80 (by decide), sampleApi 443 (by decide)],
    active := true }

theorem allowlist_exact_paired :
    samplePaired.active = true ∧ samplePaired.mode = .allowlist ∧
      ∀ (r : Resolver .ascii) hostOrIp port, Exact r samplePaired hostOrIp port := by
  have hpairs : samplePaired.PairsDeclared := by
    intro d hd e he
    refine ⟨e, he, ?_, rfl⟩
    simp only [samplePaired, List.mem_cons, List.not_mem_nil, or_false] at hd he
    rcases hd with rfl | rfl <;> rcases he with rfl | rfl <;> rfl
  exact ⟨rfl, rfl, (allowlist_exact_iff samplePaired rfl rfl).mpr hpairs⟩

def sampleMixed : NetworkSandboxGuard .ascii :=
  { mode := .allowlist, destinations := [sampleApi 443 (by decide), sampleDatabase],
      active := true }

def sampleResolver : Resolver .ascii where
  getaddrinfo host _ :=
    if UnicodeData.ascii.normal host = "api.example.com" then some ["93.184.216.34"]
    else if UnicodeData.ascii.normal host = "db.example.org" then some ["93.184.216.35"]
    else none
  spelling := by
    intro host port found hfound
    rw [UnicodeData.normal_normal]
    exact hfound

theorem allowlist_mixes_pairs :
    checkDestination sampleResolver sampleMixed "api.example.com" 5432 = .ok () ∧
      ¬ Exact sampleResolver sampleMixed "api.example.com" 5432 := by
  have hrun : checkDestination sampleResolver sampleMixed "api.example.com" 5432 = .ok () ∧
      UnicodeData.ascii.normal "api.example.com" ≠ sampleDatabase.host ∧
      parseAndNormalizeIp .ascii "api.example.com" = none := by
    decide +kernel
  obtain ⟨hok, hname, hparse⟩ := hrun
  refine ⟨hok, fun hexact => ?_⟩
  obtain ⟨⟨d, hd, hport, hcovers⟩, -⟩ := hexact hok
  simp only [sampleMixed, List.mem_cons, List.not_mem_nil, or_false] at hd
  rcases hd with rfl | rfl
  · cases hport
  · rcases hcovers with hnames | ⟨ip, hip, -⟩
    · exact hname hnames
    · rw [hparse] at hip
      cases hip

end NetworkSandboxGuard

end AgentSecurityPlatform

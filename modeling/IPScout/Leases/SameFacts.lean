import IPScout.Leases.Values

/-!
# One lease in both stores

From the list of lines systemd-networkd writes, the server and the name servers are read back
as from the block of the ISC client.  The domain is, if it is one line without white space at
its ends, and the router, if it is the only one: the value is taken whole, as one address,
where the parser of the blocks takes the first of a list (`sameFacts_iff`).
-/

namespace IPScout.Leases

open Base Base.Text Block LeaseValues

/-! ### Lines -/

theorem readLine_key {key : Text} (hkey : '=' ∉ key) (values : Dict Text Text) (value : Text) :
    readLine values (key ++ '=' :: value) = values.set (upper (strip key)) (strip value) := by
  rw [readLine, partition_append hkey]
  rfl

theorem splitLines_keyLine {key value : Text} (hkey : ∀ c ∈ key, isLineBreak c = false)
    (hvalue : ∀ c ∈ value, isLineBreak c = false) (t : Text) :
    splitLines (keyLine key value ++ t) = (key ++ '=' :: value) :: splitLines t := by
  have hline : ∀ c ∈ key ++ '=' :: value, isLineBreak c = false := by
    intro c hc
    rcases List.mem_append.mp hc with hc | hc
    · exact hkey c hc
    · rcases List.mem_cons.mp hc with rfl | hc
      · rfl
      · exact hvalue c hc
  have htext : keyLine key value ++ t = (key ++ '=' :: value) ++ '\n' :: t := by
    simp only [keyLine, List.append_assoc, List.cons_append, List.nil_append]
  rw [htext, splitLines_append hline]

theorem foldl_keyLine {key value : Text} (hkey : ∀ c ∈ key, isLineBreak c = false)
    (heq : '=' ∉ key) (hupper : upper (strip key) = key)
    (hvalue : ∀ c ∈ value, isLineBreak c = false) (t : Text) (values : Dict Text Text) :
    (splitLines (keyLine key value ++ t)).foldl readLine values =
      (splitLines t).foldl readLine (values.set key (strip value)) := by
  rw [splitLines_keyLine hkey hvalue, List.foldl_cons, readLine_key heq, hupper]

/-! ### What the lines say -/

def beforeDomain (v : LeaseValues) : Dict Text Text :=
  let values := (Dict.empty.set "SERVER_ADDRESS".toList v.server.text).set "ROUTER".toList
    (joined ' ' v.routers)
  if v.dnsServers = [] then values else values.set "DNS".toList (joined ' ' v.dnsServers)

theorem foldl_networkdText (v : LeaseValues) :
    (splitLines v.networkdText).foldl readLine Dict.empty =
      (splitLines (keyLine "DOMAINNAME".toList v.domain)).foldl readLine (beforeDomain v) := by
  have hserver : ∀ c ∈ v.server.text, isLineBreak c = false := by
    have hjoined := @not_isLineBreak_joined ' ' (by decide) [v.server]
    rwa [joined, List.map_singleton, List.intercalate_singleton] at hjoined
  have hjoined := @not_isLineBreak_joined ' ' (by decide)
  show (splitLines (keyLine "SERVER_ADDRESS".toList v.server.text ++ (keyLine "ROUTER".toList
    (joined ' ' v.routers) ++ (_ ++ _)))).foldl readLine Dict.empty = _
  rw [foldl_keyLine (by decide) (by decide) (by decide) hserver,
    foldl_keyLine (by decide) (by decide) (by decide) (hjoined v.routers), strip_text,
    strip_joined]
  by_cases h : v.dnsServers = []
  · rw [if_pos h, beforeDomain, if_pos h]
    rfl
  · rw [if_neg h, foldl_keyLine (by decide) (by decide) (by decide) (hjoined v.dnsServers),
      strip_joined, beforeDomain, if_neg h]

theorem values_networkdText {v : LeaseValues} (h : ∀ c ∈ v.domain, isLineBreak c = false) :
    (splitLines v.networkdText).foldl readLine Dict.empty =
      (beforeDomain v).set "DOMAINNAME".toList (strip v.domain) := by
  have hdomain := @foldl_keyLine "DOMAINNAME".toList v.domain (by decide) (by decide)
    (by decide) h [] (beforeDomain v)
  rw [List.append_nil] at hdomain
  rw [foldl_networkdText, hdomain]
  rfl

theorem get?_beforeDomain_server (v : LeaseValues) :
    (beforeDomain v).get? "SERVER_ADDRESS".toList = some v.server.text := by
  rw [beforeDomain]
  split
  · rw [Dict.get?_set_of_ne _ _ (by decide), Dict.get?_set_self]
  · rw [Dict.get?_set_of_ne _ _ (by decide), Dict.get?_set_of_ne _ _ (by decide),
      Dict.get?_set_self]

theorem get?_beforeDomain_router (v : LeaseValues) :
    (beforeDomain v).get? "ROUTER".toList = some (joined ' ' v.routers) := by
  rw [beforeDomain]
  split
  · rw [Dict.get?_set_self]
  · rw [Dict.get?_set_of_ne _ _ (by decide), Dict.get?_set_self]

theorem addresses_beforeDomain (v : LeaseValues) :
    addresses (((beforeDomain v).get? "DNS".toList).getD []) =
      v.dnsServers.map ListedLiteral.toLiteral := by
  rw [beforeDomain]
  split
  · next h =>
    rw [Dict.get?_set_of_ne _ _ (by decide), Dict.get?_set_of_ne _ _ (by decide), h]
    rfl
  · rw [Dict.get?_set_self, Option.getD_some, addresses_joined (Or.inl rfl)]

/-- **What is read of a file whose domain is one line.** -/
theorem parseNetworkdLease_networkdText {v : LeaseValues}
    (h : ∀ c ∈ v.domain, isLineBreak c = false) :
    (parseNetworkdLease v.networkdText).dhcpServer = some v.server.toLiteral ∧
      (parseNetworkdLease v.networkdText).router = address (some (joined ' ' v.routers)) ∧
      (parseNetworkdLease v.networkdText).dnsServers =
        v.dnsServers.map ListedLiteral.toLiteral ∧
      (parseNetworkdLease v.networkdText).domain = orNone (some (strip v.domain)) := by
  rw [parseNetworkdLease, values_networkdText h]
  dsimp only
  refine ⟨?_, ?_, ?_, ?_⟩
  · rw [Dict.get?_set_of_ne _ _ (by decide), get?_beforeDomain_server, address_text]
  · rw [Dict.get?_set_of_ne _ _ (by decide), get?_beforeDomain_router]
  · rw [Dict.get?_set_of_ne _ _ (by decide), addresses_beforeDomain]
  · rw [Dict.get?_set_self]

theorem address_joined {first : ListedLiteral} {routers : List ListedLiteral} :
    address (some (joined ' ' (first :: routers))) = some first.toLiteral ↔ routers = [] := by
  constructor
  · intro h
    cases routers with
    | nil => rfl
    | cons next routers =>
      have hlength := congrArg List.length (text_of_address h)
      rw [joined_cons_cons, List.length_append, List.length_cons] at hlength
      omega
  · rintro rfl
    rw [joined, List.map_singleton, List.intercalate_singleton, address_text]

/-! ### A domain of several lines -/

theorem readLine_cases (values : Dict Text Text) (line : Text) :
    readLine values line = values ∨ ∃ key value, readLine values line = values.set key value ∧
      value.length < line.length := by
  rw [readLine]
  obtain ⟨key, separator, value, hparts⟩ : ∃ key separator value,
      partition '=' line = (key, separator, value) := ⟨_, _, _, rfl⟩
  rw [hparts]
  by_cases hsep : separator = []
  · left
    simp [hsep]
  · right
    refine ⟨upper (strip key), strip value, by simp [hsep], ?_⟩
    have hrest : (line.dropWhile (· ≠ '=')).length ≤ line.length :=
      (List.dropWhile_sublist _).length_le
    obtain ⟨-, hseparator, hvalue⟩ := by simpa only [partition, Prod.mk.injEq] using hparts
    have hpos : 0 < (line.dropWhile (· ≠ '=')).length := by
      rw [List.length_pos_iff]
      intro hnil
      rw [hnil] at hseparator
      exact hsep hseparator.symm
    have hlength := length_strip_le value
    rw [← hvalue, List.length_drop] at hlength
    rw [← hvalue]
    omega

theorem length_lt_of_get?_foldl {key : Text} {n : ℕ} {lines : List Text}
    (hlines : ∀ line ∈ lines, line.length ≤ n) {values : Dict Text Text}
    (hvalues : ∀ value, values.get? key = some value → value.length < n) :
    ∀ value, (lines.foldl readLine values).get? key = some value → value.length < n := by
  induction lines generalizing values with
  | nil => exact hvalues
  | cons line lines ih =>
    obtain ⟨hline, hlines⟩ := List.forall_mem_cons.mp hlines
    apply ih hlines
    intro value hget
    rcases readLine_cases values line with hsame | ⟨k, x, hset, hshort⟩
    · rw [hsame] at hget
      exact hvalues value hget
    · rw [hset] at hget
      by_cases hk : key = k
      · subst hk
        rw [Dict.get?_set_self] at hget
        rw [← Option.some.inj hget]
        omega
      · rw [Dict.get?_set_of_ne _ _ hk] at hget
        exact hvalues value hget

/-- **No value is a domain that is not on one line.** -/
theorem domain_ne_of_isLineBreak {v : LeaseValues} {c : Char} (hc : c ∈ v.domain)
    (hbreak : isLineBreak c = true) :
    (parseNetworkdLease v.networkdText).domain ≠ some v.domain := by
  obtain ⟨d, hfirst⟩ := Option.isSome_iff_exists.mp (List.find?_isSome.mpr ⟨c, hc, hbreak⟩)
  obtain ⟨hd, line, rest, hdomain, hline⟩ := List.find?_eq_some_iff_append.mp hfirst
  have hplain : ∀ c ∈ line, isLineBreak c = false := by
    intro c hc
    simpa using hline c hc
  have hkey : ∀ c ∈ "DOMAINNAME".toList ++ '=' :: line, isLineBreak c = false := by
    intro c hc
    rcases List.mem_append.mp hc with hc | hc
    · exact (show ∀ c ∈ "DOMAINNAME".toList, isLineBreak c = false by decide) c hc
    · rcases List.mem_cons.mp hc with rfl | hc
      · rfl
      · exact hplain c hc
  obtain ⟨tail, htail, hlines⟩ := splitLines_append_break hkey hd (rest ++ ['\n'])
  have htext : keyLine "DOMAINNAME".toList v.domain =
      ("DOMAINNAME".toList ++ '=' :: line) ++ d :: (rest ++ ['\n']) := by
    rw [hdomain]
    simp only [keyLine, List.append_assoc, List.cons_append]
  have hlength : v.domain.length = line.length + 1 + rest.length := by
    rw [hdomain, List.length_append, List.length_cons]
    omega
  rw [List.length_append, List.length_singleton] at htail
  intro hsame
  have hvalue : ((splitLines v.networkdText).foldl readLine Dict.empty).get? "DOMAINNAME".toList =
      some v.domain := by
    have hor : orNone (((splitLines v.networkdText).foldl readLine Dict.empty).get?
      "DOMAINNAME".toList) = some v.domain := hsame
    exact (Option.filter_eq_some_iff.mp hor).1
  rw [foldl_networkdText, htext, hlines, List.foldl_cons, readLine_key (by decide)] at hvalue
  have hlong : ∀ x ∈ splitLines tail, x.length ≤ v.domain.length := by
    intro x hx
    have hle := length_le_of_mem_splitLines hx
    omega
  have hfirst : ∀ x, ((beforeDomain v).set (upper (strip "DOMAINNAME".toList)) (strip line)).get?
      "DOMAINNAME".toList = some x → x.length < v.domain.length := by
    intro x hx
    rw [show upper (strip "DOMAINNAME".toList) = "DOMAINNAME".toList by decide,
      Dict.get?_set_self] at hx
    have hle := length_strip_le line
    rw [← Option.some.inj hx]
    omega
  exact absurd (length_lt_of_get?_foldl hlong hfirst _ hvalue) (Nat.lt_irrefl _)

/-! ### Both stores -/

/-- Both parsers report the first router, and the same of everything else. -/
structure SameFacts (networkd dhclient : LeaseInfo) (v : LeaseValues) : Prop where
  networkd_router : networkd.router = v.routers.head?.map ListedLiteral.toLiteral
  dhclient_router : dhclient.router = v.routers.head?.map ListedLiteral.toLiteral
  dhcpServer : networkd.dhcpServer = dhclient.dhcpServer
  dnsServers : networkd.dnsServers = dhclient.dnsServers
  domain : networkd.domain = dhclient.domain

theorem domain_same_iff (v : LeaseValues) :
    (parseNetworkdLease v.networkdText).domain = orNone (some v.domain) ↔
      (∀ c ∈ v.domain, isLineBreak c = false) ∧ strip v.domain = v.domain := by
  constructor
  · intro hsame
    have hline : ∀ c ∈ v.domain, isLineBreak c = false := by
      intro c hc
      by_contra hbreak
      have hne : v.domain ≠ [] := List.ne_nil_of_mem hc
      have hsome : orNone (some v.domain) = some v.domain := by
        rw [orNone, Option.filter_some, if_pos (by simpa using hne)]
      rw [hsome] at hsame
      exact domain_ne_of_isLineBreak hc (Bool.not_eq_false _ ▸ hbreak) hsame
    refine ⟨hline, ?_⟩
    rw [(parseNetworkdLease_networkdText hline).2.2.2] at hsame
    by_cases hne : v.domain = []
    · rw [hne]
      rfl
    · have hsome : orNone (some v.domain) = some v.domain := by
        rw [orNone, Option.filter_some, if_pos (by simpa using hne)]
      rw [hsome] at hsame
      exact Option.some.inj (Option.filter_eq_some_iff.mp hsame).1
  · rintro ⟨hline, hstrip⟩
    rw [(parseNetworkdLease_networkdText hline).2.2.2, hstrip]

/-- **Both parsers read the same facts of one lease** if it has one router and its domain is
one line without white space at its ends, and not otherwise. -/
theorem sameFacts_iff (table : DigitTable) (v : LeaseValues) (history : List Block) :
    SameFacts (parseNetworkdLease v.networkdText)
        (parseDhclientLease table (file (history ++ [v.newestBlock])) (some v.interface)) v ↔
      v.routers.length = 1 ∧ (∀ c ∈ v.domain, isLineBreak c = false) ∧
        strip v.domain = v.domain := by
  rw [parseDhclientLease_newest]
  obtain ⟨first, routers, hrouters⟩ := List.exists_cons_of_ne_nil v.routers_ne
  constructor
  · intro h
    have hdomain := (domain_same_iff v).mp (h.domain.trans (domain_leaseOf v))
    refine ⟨?_, hdomain⟩
    have hrouter := h.networkd_router
    rw [(parseNetworkdLease_networkdText hdomain.1).2.1, hrouters] at hrouter
    rw [hrouters, address_joined.mp hrouter, List.length_singleton]
  · rintro ⟨hone, hdomain⟩
    obtain ⟨hserver, hrouter, hdns, -⟩ := parseNetworkdLease_networkdText hdomain.1
    have hrest : routers = [] := by
      rw [hrouters, List.length_cons] at hone
      exact List.eq_nil_of_length_eq_zero (by omega)
    refine ⟨?_, router_leaseOf v, ?_, ?_, ?_⟩
    · rw [hrouter, hrouters, address_joined.mpr hrest]
      rfl
    · rw [hserver, dhcpServer_leaseOf]
    · rw [hdns, dnsServers_leaseOf]
    · rw [(domain_same_iff v).mpr hdomain, domain_leaseOf]

def twoRouters : LeaseValues where
  interface := "eth0".toList
  server := ⟨⟨"192.0.2.1".toList, .v4 0xc0000201#32, by decide⟩, by decide⟩
  routers := [⟨⟨"192.0.2.1".toList, .v4 0xc0000201#32, by decide⟩, by decide⟩,
    ⟨⟨"198.51.100.1".toList, .v4 0xc6336401#32, by decide⟩, by decide⟩]
  dnsServers := [⟨⟨"198.51.100.53".toList, .v4 0xc6336435#32, by decide⟩, by decide⟩]
  domain := "lan".toList
  interface_ne := by decide
  interface_plain := by decide
  routers_ne := by decide
  domain_plain := by decide

/-- Of two routers one parser reports the first, and the other none. -/
theorem second_router_hides_first :
    (parseNetworkdLease twoRouters.networkdText).router = none ∧
      ((parseDhclientLease .unicode15 (file [twoRouters.newestBlock])
        (some "eth0".toList)).router.map Literal.text) = some "192.0.2.1".toList ∧
      ¬SameFacts (parseNetworkdLease twoRouters.networkdText)
        (parseDhclientLease .unicode15 (file [twoRouters.newestBlock]) (some "eth0".toList))
        twoRouters := by
  have hnone : (parseNetworkdLease twoRouters.networkdText).router = none := by
    rw [(parseNetworkdLease_networkdText (by decide)).2.1]
    decide
  have hfirst : (parseDhclientLease .unicode15 (file [twoRouters.newestBlock])
      (some "eth0".toList)).router =
      twoRouters.routers.head?.map ListedLiteral.toLiteral := by
    rw [← router_leaseOf]
    exact congrArg LeaseInfo.router (parseDhclientLease_newest twoRouters [])
  refine ⟨hnone, by rw [hfirst]; rfl, ?_⟩
  intro h
  have hrouter := h.networkd_router
  rw [hnone] at hrouter
  exact absurd hrouter (by decide)

end IPScout.Leases

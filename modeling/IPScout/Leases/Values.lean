import IPScout.Leases.BlockOptions

/-!
# The values of a lease

The values of a lease as systemd-networkd writes them, and as the ISC client appends them to
its file.  From the newest block of a file every value is read back: the server, the first
router, the name servers and the domain.
-/

namespace IPScout.Leases

open Base Base.Text Block

/-! ### Values and how they are written -/

/-- An address literal that can stand in either file's lists. -/
structure ListedLiteral extends Literal where
  plain : ∀ c ∈ text, isSpace c = false ∧ c ≠ ',' ∧ c ≠ ';' ∧ c ≠ '\x7b' ∧ c ≠ '\x7d'

/-- The values of a lease. -/
structure LeaseValues where
  interface : Text
  server : ListedLiteral
  routers : List ListedLiteral
  dnsServers : List ListedLiteral
  domain : Text
  interface_ne : interface ≠ []
  interface_plain : ∀ c ∈ interface, isSpace c = false ∧ c ≠ '"' ∧ c ≠ '\x7b' ∧ c ≠ '\x7d'
  routers_ne : routers ≠ []
  domain_plain : ∀ c ∈ domain, c ≠ '"' ∧ c ≠ ';' ∧ c ≠ '\x7b' ∧ c ≠ '\x7d'

def joined (sep : Char) (literals : List ListedLiteral) : Text :=
  [sep].intercalate (literals.map fun l => l.text)

/-- `KEY=value` on a line. -/
def keyLine (key value : Text) : Text := key ++ '=' :: (value ++ ['\n'])

namespace LeaseValues

def networkdText (v : LeaseValues) : Text :=
  keyLine "SERVER_ADDRESS".toList v.server.text ++
    (keyLine "ROUTER".toList (joined ' ' v.routers) ++
      ((if v.dnsServers = [] then [] else keyLine "DNS".toList (joined ' ' v.dnsServers)) ++
        keyLine "DOMAINNAME".toList v.domain))

end LeaseValues

/-! ### Lists -/

theorem ListedLiteral.text_ne (l : ListedLiteral) : l.text ≠ [] := by
  obtain ⟨⟨text, a, ha⟩, hplain⟩ := l
  rintro rfl
  have hnone : ipAddress [] = none := by decide
  rw [parseAddress, hnone] at ha
  simp at ha

theorem ListedLiteral.not_space (l : ListedLiteral) : ∀ c ∈ l.text, isSpace c = false :=
  fun c hc => (l.plain c hc).1

theorem strip_text (l : ListedLiteral) : strip l.text = l.text := strip_of_forall l.not_space

theorem isSpace_of_isLineBreak {c : Char} (h : isLineBreak c = true) : isSpace c = true := by
  simp only [isLineBreak, isSpace, Bool.or_eq_true, Bool.and_eq_true, decide_eq_true_eq,
    beq_iff_eq] at h ⊢
  omega

theorem not_isLineBreak_joined {sep : Char} (hsep : isLineBreak sep = false)
    (literals : List ListedLiteral) : ∀ c ∈ joined sep literals, isLineBreak c = false := by
  intro c hc
  rcases mem_intercalate_of_mem hc with rfl | ⟨piece, hpiece, hmem⟩
  · exact hsep
  · obtain ⟨l, -, rfl⟩ := List.mem_map.mp hpiece
    by_contra hbreak
    have hspace := isSpace_of_isLineBreak (Bool.not_eq_false _ ▸ hbreak)
    rw [l.not_space c hmem] at hspace
    exact absurd hspace (by decide)

theorem joined_cons_cons (sep : Char) (l next : ListedLiteral) (literals : List ListedLiteral) :
    joined sep (l :: next :: literals) = l.text ++ sep :: joined sep (next :: literals) := by
  rw [joined, List.map_cons, List.map_cons, List.intercalate_cons_cons, List.append_assoc,
    List.singleton_append, joined, List.map_cons]

theorem joined_ne_nil (sep : Char) {literals : List ListedLiteral} (h : literals ≠ []) :
    joined sep literals ≠ [] := by
  obtain ⟨l, literals, rfl⟩ := List.exists_cons_of_ne_nil h
  cases literals with
  | nil =>
    rw [joined, List.map_singleton, List.intercalate_singleton]
    exact l.text_ne
  | cons next literals =>
    rw [joined_cons_cons]
    simp

theorem ends_joined (sep : Char) (literals : List ListedLiteral) :
    (∀ c ∈ (joined sep literals).head?, isSpace c = false) ∧
      ∀ c ∈ (joined sep literals).getLast?, isSpace c = false := by
  induction literals with
  | nil =>
    exact ⟨fun c hc => absurd hc (by simp [joined]), fun c hc => absurd hc (by simp [joined])⟩
  | cons l literals ih =>
    cases literals with
    | nil =>
      rw [joined, List.map_singleton, List.intercalate_singleton]
      exact ⟨fun c hc => l.not_space c (List.mem_of_head? hc),
        fun c hc => l.not_space c (List.mem_of_getLast? hc)⟩
    | cons next literals =>
      rw [joined_cons_cons]
      constructor
      · intro c hc
        rw [List.head?_append_of_ne_nil _ l.text_ne] at hc
        exact l.not_space c (List.mem_of_head? hc)
      · intro c hc
        rw [List.getLast?_append_of_ne_nil _ (List.cons_ne_nil _ _), ← List.singleton_append,
          List.getLast?_append_of_ne_nil _ (joined_ne_nil sep (List.cons_ne_nil next literals))]
          at hc
        exact ih.2 c hc

theorem strip_joined (sep : Char) (literals : List ListedLiteral) :
    strip (joined sep literals) = joined sep literals :=
  strip_of_ends (ends_joined sep literals).1 (ends_joined sep literals).2

/-- **A list is read as the literals it was written of**, whichever separator it has. -/
theorem addresses_joined {sep : Char} (hsep : sep = ' ' ∨ sep = ',')
    (literals : List ListedLiteral) :
    addresses (joined sep literals) = literals.map ListedLiteral.toLiteral := by
  have hblank : (joined sep literals).map (fun c => if c = ',' then ' ' else c) =
      [' '].intercalate (literals.map fun l => l.text) := by
    have hnone : ∀ piece ∈ literals.map (fun l => l.text), ',' ∉ piece := by
      intro piece hpiece hmem
      obtain ⟨l, -, rfl⟩ := List.mem_map.mp hpiece
      exact (l.plain ',' hmem).2.1 rfl
    rcases hsep with rfl | rfl
    · conv_rhs => rw [← List.map_id ([' '].intercalate (literals.map fun l => l.text))]
      apply List.map_congr_left
      intro c hc
      have hne : c ≠ ',' := by
        rintro rfl
        rcases mem_intercalate_of_mem hc with h | ⟨piece, hpiece, hmem⟩
        · exact absurd h (by decide)
        · exact hnone piece hpiece hmem
      rw [if_neg hne]
      rfl
    · exact map_intercalate hnone
  have hpieces : ∀ piece ∈ literals.map (fun l => l.text),
      piece ≠ [] ∧ ∀ c ∈ piece, isSpace c = false := by
    intro piece hpiece
    obtain ⟨l, -, rfl⟩ := List.mem_map.mp hpiece
    exact ⟨l.text_ne, l.not_space⟩
  rw [addresses, hblank, words_intercalate (by decide) hpieces, List.filterMap_map]
  have hread : ((fun piece => address (some piece)) ∘ fun l : ListedLiteral => l.text) =
      fun l => some l.toLiteral := funext fun l => address_text l.toLiteral
  rw [hread, List.filterMap_eq_map']

/-! ### The newest block -/

/-- A statement with a list for a value. -/
def listOption (key : Text) (hne : key ≠ []) (hkey : ∀ c ∈ key, isOptionLetter c = true)
    (literals : List ListedLiteral) (h : literals ≠ []) : BlockOption where
  key := key
  value := joined ',' literals
  key_ne := hne
  key_letters := hkey
  value_ne := joined_ne_nil ',' h
  value_head := (ends_joined ',' literals).1
  value_plain := by
    intro hmem
    rcases mem_intercalate_of_mem hmem with hc | ⟨piece, hpiece, hc⟩
    · exact absurd hc (by decide)
    · obtain ⟨l, -, rfl⟩ := List.mem_map.mp hpiece
      exact (l.plain ';' hc).2.2.1 rfl

namespace LeaseValues

def domainOption (v : LeaseValues) : BlockOption where
  key := "domain-name".toList
  value := '"' :: (v.domain ++ ['"'])
  key_ne := by decide
  key_letters := by decide
  value_ne := List.cons_ne_nil _ _
  value_head := by
    intro c hc
    rw [← Option.some.inj hc]
    rfl
  value_plain := by
    intro hmem
    rw [List.mem_cons, List.mem_append, List.mem_singleton] at hmem
    rcases hmem with hc | hc | hc
    · exact absurd hc (by decide)
    · exact (v.domain_plain ';' hc).2.1 rfl
    · exact absurd hc (by decide)

def options (v : LeaseValues) : List BlockOption :=
  listOption "dhcp-server-identifier".toList (by decide) (by decide) [v.server]
      (List.cons_ne_nil _ _) ::
    listOption "routers".toList (by decide) (by decide) v.routers v.routers_ne ::
    ((if h : v.dnsServers = [] then []
      else [listOption "domain-name-servers".toList (by decide) (by decide) v.dnsServers h]) ++
      [v.domainOption])

def interfaceLine (v : LeaseValues) : Text :=
  "\n  interface \"".toList ++ (v.interface ++ ['"', ';'])

/-- The body of the block the ISC client appends. -/
def dhclientBody (v : LeaseValues) : Text := v.interfaceLine ++ (optionLines v.options ++ ['\n'])

end LeaseValues

open LeaseValues

theorem quiet_append {a b : Text} (ha : Quiet a) (hb : Quiet b)
    (hhead : ∀ c ∈ b.head?, isSpace c = false) : Quiet (a ++ b) := by
  apply List.isChain_append.mpr ⟨ha, hb, ?_⟩
  intro x _ y hy _
  exact hhead y hy

theorem quiet_of_forall {t : Text} (h : ∀ c ∈ t, isSpace c = false) : Quiet t := by
  induction t with
  | nil => exact List.isChain_nil
  | cons c t ih =>
    rw [List.forall_mem_cons] at h
    rw [← List.singleton_append]
    exact quiet_append (List.isChain_singleton c) (ih h.2) fun d hd => h.2 d (List.mem_of_head? hd)

theorem quiet_interfaceLine (v : LeaseValues) : Quiet (v.interfaceLine ++ "\n  ".toList) := by
  have hend : Quiet (['"', ';'] ++ "\n  ".toList) := by
    rw [Quiet]
    decide
  have hname : Quiet (v.interface ++ (['"', ';'] ++ "\n  ".toList)) := by
    apply quiet_append (quiet_of_forall fun c hc => (v.interface_plain c hc).1) hend
    intro c hc
    rw [← Option.some.inj hc]
    rfl
  have hfront : Quiet "\n  interface \"".toList := by
    rw [Quiet]
    decide
  show Quiet (("\n  interface \"".toList ++ (v.interface ++ ['"', ';'])) ++ "\n  ".toList)
  rw [List.append_assoc, List.append_assoc]
  apply quiet_append hfront hname
  intro c hc
  obtain ⟨d, name, hd⟩ := List.exists_cons_of_ne_nil v.interface_ne
  rw [hd] at hc
  obtain rfl := Option.some.inj hc
  exact (v.interface_plain d (hd ▸ List.mem_cons_self)).1

theorem optionsOf_dhclientBody (v : LeaseValues) :
    optionsOf v.dhclientBody = Dict.ofPairs (v.options.map fun o => (o.key, strip o.value)) :=
  optionsOf_optionLines v.options (quiet_interfaceLine v)

theorem isFor_dhclientBody (v : LeaseValues) : isFor (some v.interface) v.dhclientBody = true := by
  have hbody : v.dhclientBody = ['\n', ' ', ' '] ++ ("interface".toList ++
      ([' '] ++ '"' :: (v.interface ++ '"' :: (';' :: (optionLines v.options ++ ['\n']))))) := by
    have hword : "\n  interface \"".toList =
        ['\n', ' ', ' '] ++ ("interface".toList ++ [' ', '"']) := by decide
    show ("\n  interface \"".toList ++ (v.interface ++ ['"', ';'])) ++ _ = _
    rw [hword]
    simp only [List.append_assoc, List.cons_append, List.nil_append]
  rw [hbody]
  exact isFor_of_interface (by decide) v.interface_ne
    (fun hmem => (v.interface_plain '"' hmem).2.1 rfl) _

/-- A brace is in none of the words and letters a body is written with. -/
structure Brace (c : Char) : Prop where
  front : c ∉ "\n  interface \"".toList
  indent : c ∉ "\n  ".toList
  word : c ∉ "option".toList
  punctuation : c ∉ [' ', ';', '"', ',', '\n']
  letter : isOptionLetter c = false

theorem notMem_joined {c : Char} (hc : Brace c) {literals : List ListedLiteral}
    (h : ∀ l ∈ literals, c ∉ l.text) : c ∉ joined ',' literals := by
  intro hmem
  rcases mem_intercalate_of_mem hmem with rfl | ⟨piece, hpiece, hin⟩
  · exact hc.punctuation (by simp)
  · obtain ⟨l, hl, rfl⟩ := List.mem_map.mp hpiece
    exact h l hl hin

theorem notMem_optionLines {c : Char} (hc : Brace c) {options : List BlockOption}
    (h : ∀ o ∈ options, c ∉ o.value) : c ∉ optionLines options := by
  intro hmem
  obtain ⟨o, ho, hin⟩ := List.mem_flatMap.mp hmem
  rcases List.mem_append.mp hin with hin | hin
  · exact hc.indent hin
  rcases List.mem_append.mp hin with hin | hin
  · exact hc.word hin
  rcases List.mem_cons.mp hin with rfl | hin
  · exact hc.punctuation (by simp)
  rcases List.mem_append.mp hin with hin | hin
  · have hletter := o.key_letters c hin
    rw [hc.letter] at hletter
    exact absurd hletter (by decide)
  rcases List.mem_cons.mp hin with rfl | hin
  · exact hc.punctuation (by simp)
  rcases List.mem_append.mp hin with hin | hin
  · exact h o ho hin
  · rw [List.mem_singleton.mp hin] at hc
    exact hc.punctuation (by simp)

theorem forall_mem_options {v : LeaseValues} {P : BlockOption → Prop}
    (hlist : ∀ key hne hkey literals h, P (listOption key hne hkey literals h))
    (hdomain : P v.domainOption) : ∀ o ∈ v.options, P o := by
  intro o ho
  rw [options, List.mem_cons, List.mem_cons, List.mem_append, List.mem_singleton] at ho
  rcases ho with rfl | rfl | ho | rfl
  · exact hlist _ _ _ _ _
  · exact hlist _ _ _ _ _
  · split at ho
    · exact absurd ho List.not_mem_nil
    · rw [List.mem_singleton.mp ho]
      exact hlist _ _ _ _ _
  · exact hdomain

theorem notMem_dhclientBody (v : LeaseValues) {c : Char} (hc : Brace c)
    (hinterface : c ∉ v.interface) (hliteral : ∀ l : ListedLiteral, c ∉ l.text)
    (hdomain : c ∉ v.domain) : c ∉ v.dhclientBody := by
  have hvalue : ∀ o ∈ v.options, c ∉ o.value := by
    apply forall_mem_options
    · intro key hne hkey literals h
      exact notMem_joined hc fun l _ => hliteral l
    · intro hmem
      rcases List.mem_cons.mp hmem with rfl | hmem
      · exact hc.punctuation (by simp)
      rcases List.mem_append.mp hmem with hmem | hmem
      · exact hdomain hmem
      · rw [List.mem_singleton.mp hmem] at hc
        exact hc.punctuation (by simp)
  intro hmem
  rcases List.mem_append.mp hmem with hmem | hmem
  · rcases List.mem_append.mp hmem with hmem | hmem
    · exact hc.front hmem
    rcases List.mem_append.mp hmem with hmem | hmem
    · exact hinterface hmem
    · apply hc.punctuation
      rcases List.mem_cons.mp hmem with rfl | hmem
      · simp
      · rw [List.mem_singleton.mp hmem]
        simp
  rcases List.mem_append.mp hmem with hmem | hmem
  · exact notMem_optionLines hc hvalue hmem
  · rw [List.mem_singleton.mp hmem] at hc
    exact hc.punctuation (by simp)

namespace LeaseValues

/-- The block the ISC client appends to its file. -/
def newestBlock (v : LeaseValues) : Block where
  gap := [' ']
  body := v.dhclientBody
  after := ['\n']
  gap_isSpace := by decide
  body_braceless := by
    constructor
    · have hbrace : Brace '\x7b' := ⟨by decide, by decide, by decide, by decide, by decide⟩
      exact notMem_dhclientBody v hbrace (fun h => (v.interface_plain _ h).2.2.1 rfl)
        (fun l h => (l.plain _ h).2.2.2.1 rfl) fun h => (v.domain_plain _ h).2.2.1 rfl
    · have hbrace : Brace '\x7d' := ⟨by decide, by decide, by decide, by decide, by decide⟩
      exact notMem_dhclientBody v hbrace (fun h => (v.interface_plain _ h).2.2.2 rfl)
        (fun l h => (l.plain _ h).2.2.2.2 rfl) fun h => (v.domain_plain _ h).2.2.2 rfl
  after_isSpace := by decide

end LeaseValues

/-! ### Reading the block -/

theorem keys_options (v : LeaseValues) : v.options.map BlockOption.key =
    ["dhcp-server-identifier".toList, "routers".toList] ++
      ((if v.dnsServers = [] then [] else ["domain-name-servers".toList]) ++
        ["domain-name".toList]) := by
  show _ :: _ :: (List.map BlockOption.key (_ ++ _)) = _
  rw [List.map_append]
  split <;> rfl

theorem nodup_keys_options (v : LeaseValues) : (v.options.map BlockOption.key).Nodup := by
  rw [keys_options]
  split <;> decide

theorem get?_options {v : LeaseValues} {o : BlockOption} (h : o ∈ v.options) :
    (optionsOf v.dhclientBody).get? o.key = some (strip o.value) := by
  rw [optionsOf_dhclientBody]
  apply Dict.get?_ofPairs_of_mem
  · rw [List.map_map]
    exact nodup_keys_options v
  · exact List.mem_map.mpr ⟨o, h, rfl⟩

variable {table : DigitTable}

theorem dhcpServer_leaseOf (v : LeaseValues) :
    (leaseOf table v.dhclientBody).dhcpServer = some v.server.toLiteral := by
  have hget : (optionsOf v.dhclientBody).get? "dhcp-server-identifier".toList =
      some (strip (joined ',' [v.server])) := get?_options List.mem_cons_self
  show address ((optionsOf v.dhclientBody).get? "dhcp-server-identifier".toList) = _
  rw [hget, strip_joined, joined, List.map_singleton, List.intercalate_singleton, address_text]

theorem router_leaseOf (v : LeaseValues) :
    (leaseOf table v.dhclientBody).router = v.routers.head?.map ListedLiteral.toLiteral := by
  have hget : (optionsOf v.dhclientBody).get? "routers".toList =
      some (strip (joined ',' v.routers)) :=
    get?_options (List.mem_cons_of_mem _ List.mem_cons_self)
  show (addresses (((optionsOf v.dhclientBody).get? "routers".toList).getD [])).head? = _
  rw [hget, Option.getD_some, strip_joined, addresses_joined (Or.inr rfl), List.head?_map]

theorem dnsServers_leaseOf (v : LeaseValues) :
    (leaseOf table v.dhclientBody).dnsServers = v.dnsServers.map ListedLiteral.toLiteral := by
  show addresses (((optionsOf v.dhclientBody).get? "domain-name-servers".toList).getD []) = _
  by_cases h : v.dnsServers = []
  · have hget : (optionsOf v.dhclientBody).get? "domain-name-servers".toList = none := by
      rw [optionsOf_dhclientBody]
      apply Dict.get?_ofPairs_of_notMem
      have hkeys := keys_options v
      rw [if_pos h] at hkeys
      rw [List.map_map]
      show _ ∉ v.options.map BlockOption.key
      rw [hkeys]
      decide
    rw [hget, h]
    rfl
  · have hmem : listOption "domain-name-servers".toList (by decide) (by decide) v.dnsServers h ∈
        v.options := by
      apply List.mem_cons_of_mem
      apply List.mem_cons_of_mem
      rw [dif_neg h]
      exact List.mem_cons_self
    have hget : (optionsOf v.dhclientBody).get? "domain-name-servers".toList =
        some (strip (joined ',' v.dnsServers)) := get?_options hmem
    rw [hget, Option.getD_some, strip_joined, addresses_joined (Or.inr rfl)]

theorem stripQuotes_quoted {t : Text} (ht : '"' ∉ t) : stripQuotes ('"' :: (t ++ ['"'])) = t := by
  have hkeep : ∀ {l : Text}, '"' ∉ l → l.dropWhile (· == '"') = l := by
    intro l hl
    cases l with
    | nil => rfl
    | cons c l =>
      rw [List.dropWhile_cons_of_neg]
      rw [beq_iff_eq]
      rintro rfl
      exact hl List.mem_cons_self
  rw [stripQuotes, List.dropWhile_cons_of_pos (by decide)]
  cases t with
  | nil => rfl
  | cons c t =>
    have hstart : (c :: (t ++ ['"'])).dropWhile (· == '"') = c :: (t ++ ['"']) := by
      apply List.dropWhile_cons_of_neg
      rw [beq_iff_eq]
      rintro rfl
      exact ht List.mem_cons_self
    rw [List.cons_append, hstart, ← List.cons_append, List.reverse_append,
      List.reverse_singleton, List.singleton_append, List.dropWhile_cons_of_pos (by decide),
      hkeep (fun h => ht (List.mem_reverse.mp h)), List.reverse_reverse]

theorem domain_leaseOf (v : LeaseValues) :
    (leaseOf table v.dhclientBody).domain = orNone (some v.domain) := by
  have hget : (optionsOf v.dhclientBody).get? "domain-name".toList =
      some (strip ('"' :: (v.domain ++ ['"']))) := by
    apply get?_options (o := v.domainOption)
    apply List.mem_cons_of_mem
    apply List.mem_cons_of_mem
    exact List.mem_append_right _ List.mem_cons_self
  have hstrip : strip ('"' :: (v.domain ++ ['"'])) = '"' :: (v.domain ++ ['"']) := by
    apply strip_of_ends
    · intro c hc
      rw [← Option.some.inj hc]
      rfl
    · intro c hc
      rw [← List.cons_append, List.getLast?_concat] at hc
      rw [← Option.some.inj hc]
      rfl
  have hquotes : '"' ∉ v.domain := fun hmem => (v.domain_plain _ hmem).1 rfl
  show orNone (some (stripQuotes (((optionsOf v.dhclientBody).get? "domain-name".toList).getD [])))
    = _
  rw [hget, Option.getD_some, hstrip, stripQuotes_quoted hquotes]

/-- **What the parser reads from a file that ends with the block**, whatever is before it. -/
theorem parseDhclientLease_newest (v : LeaseValues) (history : List Block) :
    parseDhclientLease table (file (history ++ [v.newestBlock])) (some v.interface) =
      leaseOf table v.dhclientBody := by
  rw [parseDhclientLease_file, List.map_append, List.map_singleton]
  exact foldl_newer (isFor_dhclientBody v) (fun x hx => absurd hx List.not_mem_nil) _ _

end IPScout.Leases

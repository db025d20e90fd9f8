import TransferRelay.Config.Load
import TransferRelay.Proofs.Net.SocketAddress
import TransferRelay.Proofs.Node.Starting
import TransferRelay.Proofs.Results
import TransferRelay.Proofs.Text.Unsigned

/-!
# Configurations that can be used

A configuration is loaded first and used later, when a client of the node is made and the service
begins to listen. Three of its texts are loaded as they stand and judged when they are used only:
the URL of the node, the private key and the address to listen at. What is loaded can be used
exactly if these three can (`usable_iff_of_load`): the rest has been judged before.
-/

namespace TransferRelay

/-! ## Environments -/

theorem Variable.name_injective : Function.Injective name := by
  intro v w
  cases v <;> cases w <;> decide

namespace Environment

theorem text?_set (e : Environment) (name value : String) :
    (e.set name value.toUTF8).text? name = some value := by
  rw [text?, set]
  simp only [if_pos, Option.bind_some, Hex.fromUTF8?_toUTF8]

theorem text?_set_of_ne (e : Environment) {name other : String} (value : ByteArray)
    (h : other ≠ name) : (e.set name value).text? other = e.text? other := by
  rw [text?, text?, set]
  simp only [if_neg h]

end Environment

namespace Config

/-- What is loaded is below the limit, if the default is. -/
theorem lt_of_loadNumber {e : Environment} {v : Variable} {limit default n : Nat}
    (h : loadNumber e v limit default = .ok n) (fits : default < limit) : n < limit := by
  unfold loadNumber at h
  split at h
  · cases h
    exact fits
  · split at h
    · cases h
      exact ((Text.readUnsigned_eq_ok_iff (Nat.zero_lt_of_lt fits)).mp ‹_›).2
    · cases h

/-! ## Loading -/

section Same

variable {e e' : Environment}

theorem loadUrl_congr (same : e'.text? Variable.rpcUrl.name = e.text? Variable.rpcUrl.name) :
    loadUrl e' = loadUrl e := by
  rw [loadUrl, loadUrl, notBlank?, notBlank?, same]

theorem loadBridge_congr
    (same : e'.text? Variable.bridgeAddress.name = e.text? Variable.bridgeAddress.name) :
    loadBridge e' = loadBridge e := by
  rw [loadBridge, loadBridge, same]

theorem loadNumber_congr {v : Variable} (same : e'.text? v.name = e.text? v.name)
    (limit default : Nat) : loadNumber e' v limit default = loadNumber e v limit default := by
  rw [loadNumber, loadNumber, same]

end Same

theorem positive_eq_ok_iff {fault : Fault} {n m : Nat} :
    positive fault n = .ok m ↔ n = m ∧ m ≠ 0 := by
  unfold positive
  split
  · rename_i hzero
    exact ⟨nofun, fun h => absurd (h.1 ▸ hzero) h.2⟩
  · rename_i hne
    constructor
    · intro h
      cases h
      exact ⟨rfl, hne⟩
    · rintro ⟨rfl, -⟩
      rfl

theorem loadUrl_eq_ok_iff {e : Environment} {url : String} :
    loadUrl e = .ok url ↔ notBlank? e .rpcUrl = some url := by
  unfold loadUrl
  cases notBlank? e .rpcUrl with
  | none => exact ⟨nofun, nofun⟩
  | some text => rw [Except.ok.injEq, Option.some.injEq]

/-- What is loaded, part by part. -/
structure Loads (e : Environment) (c : Config) : Prop where
  url : notBlank? e .rpcUrl = some c.rpcUrl
  bridge : loadBridge e = .ok c.bridgeAddress
  queries : loadNumber e .maxConcurrentQueries (Nat.pow 2 64) Deployment.defaultWindow =
    .ok c.maxConcurrentQueries
  queries_ne : c.maxConcurrentQueries ≠ 0
  timeout : loadNumber e .rpcTimeout (Nat.pow 2 64) defaultTimeoutMs = .ok c.rpcTimeoutMs
  timeout_ne : c.rpcTimeoutMs ≠ 0
  port : loadNumber e .port (Nat.pow 2 16) defaultPort = .ok c.port
  key : c.privateKey = notBlank? e .privateKey
  address : c.bindAddress = (e.text? Variable.bindAddress.name).getD defaultBindAddress

theorem load_eq_ok_iff {e : Environment} {c : Config} : load e = .ok c ↔ Loads e c := by
  constructor
  · intro h
    obtain ⟨url, hurl, h⟩ := exists_of_bind_eq_ok h
    obtain ⟨bridge, hbridge, h⟩ := exists_of_bind_eq_ok h
    obtain ⟨_, hqueries, h⟩ := exists_of_bind_eq_ok h
    obtain ⟨queries, hsome, h⟩ := exists_of_bind_eq_ok h
    obtain ⟨_, htimeout, h⟩ := exists_of_bind_eq_ok h
    obtain ⟨timeout, htime, h⟩ := exists_of_bind_eq_ok h
    obtain ⟨port, hport, h⟩ := exists_of_bind_eq_ok h
    obtain ⟨rfl, hqueries_ne⟩ := positive_eq_ok_iff.mp hsome
    obtain ⟨rfl, htimeout_ne⟩ := positive_eq_ok_iff.mp htime
    cases h
    exact ⟨loadUrl_eq_ok_iff.mp hurl, hbridge, hqueries, hqueries_ne, htimeout, htimeout_ne, hport,
      rfl, rfl⟩
  · intro h
    have hqueries : positive .noQueries c.maxConcurrentQueries = .ok c.maxConcurrentQueries :=
      positive_eq_ok_iff.mpr ⟨rfl, h.queries_ne⟩
    have htimeout : positive .noTimeout c.rpcTimeoutMs = .ok c.rpcTimeoutMs :=
      positive_eq_ok_iff.mpr ⟨rfl, h.timeout_ne⟩
    rw [load, loadUrl_eq_ok_iff.mpr h.url, ok_bind, h.bridge, ok_bind, h.queries, ok_bind, hqueries,
      ok_bind, h.timeout, ok_bind, htimeout, ok_bind, h.port, ok_bind, ← h.key, ← h.address]
    rfl

/-- A variable whose text is loaded as it stands. -/
def IsVerbatim (v : Variable) : Prop :=
  v = .rpcUrl ∨ v = .privateKey ∨ v = .bindAddress

/-- A configuration with the three texts that an environment has, as they stand. -/
def withTexts (c : Config) (e : Environment) (url : String) : Config :=
  { c with
    rpcUrl := url
    privateKey := notBlank? e .privateKey
    bindAddress := (e.text? Variable.bindAddress.name).getD defaultBindAddress }

/-- Loading does not judge the three texts. -/
theorem load_of_same {e e' : Environment} {c : Config} {url : String} (loaded : load e = .ok c)
    (hurl : notBlank? e' .rpcUrl = some url)
    (same : ∀ v, ¬IsVerbatim v → e'.text? v.name = e.text? v.name) :
    load e' = .ok (c.withTexts e' url) := by
  have hloads := load_eq_ok_iff.mp loaded
  have hbridge : loadBridge e' = loadBridge e := loadBridge_congr (same _ (by simp [IsVerbatim]))
  have hnumber : ∀ v limit default, ¬IsVerbatim v →
      loadNumber e' v limit default = loadNumber e v limit default :=
    fun v limit default hv => loadNumber_congr (same v hv) limit default
  exact load_eq_ok_iff.mpr {
    url := hurl
    bridge := hbridge.trans hloads.bridge
    queries := (hnumber _ _ _ (by simp [IsVerbatim])).trans hloads.queries
    queries_ne := hloads.queries_ne
    timeout := (hnumber _ _ _ (by simp [IsVerbatim])).trans hloads.timeout
    timeout_ne := hloads.timeout_ne
    port := (hnumber _ _ _ (by simp [IsVerbatim])).trans hloads.port
    key := rfl
    address := rfl }

/-- The configuration of an environment in which nothing but a URL is set. -/
def ofUrl (url : String) : Config where
  rpcUrl := url
  bridgeAddress := defaultBridge
  privateKey := none
  bindAddress := defaultBindAddress
  port := defaultPort
  rpcTimeoutMs := defaultTimeoutMs
  maxConcurrentQueries := Deployment.defaultWindow

/-- Setting one of the three texts changes none of the others. -/
theorem text?_set_verbatim (e : Environment) {v w : Variable} (hv : ¬IsVerbatim v)
    (hw : IsVerbatim w) (value : ByteArray) : (e.set w.name value).text? v.name = e.text? v.name :=
  e.text?_set_of_ne value fun hname => hv (Variable.name_injective hname ▸ hw)

/-- An environment in which nothing but a URL is set. -/
def urlAlone (url : String) : Environment :=
  Environment.empty.set Variable.rpcUrl.name url.toUTF8

theorem notBlank?_of_text {e : Environment} {v : Variable} {text : String}
    (h : e.text? v.name = some text) (shown : Text.isAllBlank text = false) :
    notBlank? e v = some text := by
  rw [notBlank?, h, Option.filter_some, shown]
  rfl

theorem text?_urlAlone_of_ne (url : String) {v : Variable} (h : v ≠ .rpcUrl) :
    (urlAlone url).text? v.name = none :=
  Environment.text?_set_of_ne _ _ fun hname => h (Variable.name_injective hname)

/-- Every default passes what is judged of its variable. -/
theorem load_urlAlone {url : String} (shown : Text.isAllBlank url = false) :
    load (urlAlone url) = .ok (ofUrl url) := by
  have hunset : ∀ v : Variable, v ≠ .rpcUrl → (urlAlone url).text? v.name = none :=
    fun v hv => text?_urlAlone_of_ne url hv
  have hnumber : ∀ v limit default, v ≠ .rpcUrl →
      loadNumber (urlAlone url) v limit default = .ok default := by
    intro v limit default hv
    rw [loadNumber, hunset v hv]
  exact load_eq_ok_iff.mpr {
    url := notBlank?_of_text (Environment.text?_set _ _ url) shown
    bridge := by rw [loadBridge, hunset .bridgeAddress (by decide)]; rfl
    queries := hnumber _ _ _ (by decide)
    queries_ne := (by decide : Deployment.defaultWindow ≠ 0)
    timeout := hnumber _ _ _ (by decide)
    timeout_ne := (by decide : defaultTimeoutMs ≠ 0)
    port := hnumber _ _ _ (by decide)
    key := by rw [notBlank?, hunset .privateKey (by decide)]; rfl
    address := by rw [hunset .bindAddress (by decide)]; rfl }

/-! ## Using -/

/-- A configuration can be used: there is a client of its node, which is given the contract as it is
written with its checksum, and its address to listen at is one. -/
structure Usable (c : Config) : Prop where
  client : ∃ client,
    Node.Client.start c.rpcUrl c.bridgeAddress.checksummed c.privateKey = .ok client
  address : ∃ a, SocketAddress.parse? (c.bindAddress ++ ":" ++ toString c.port) = some a

theorem not_usable_of_start {c : Config} {fault : Node.Client.StartFault}
    (h : Node.Client.start c.rpcUrl c.bridgeAddress.checksummed c.privateKey = .error fault) :
    ¬c.Usable := by
  rintro ⟨⟨client, hclient⟩, -⟩
  cases h.symm.trans hclient

/-- A configuration with a port can be used exactly if each of its three texts can. -/
theorem usable_iff {c : Config} (port : c.port < 65536) :
    c.Usable ↔ Url.isValid c.rpcUrl = true ∧ (∀ key ∈ c.privateKey, Signer.IsKey key) ∧
      ∃ ip, SocketAddress.IsLiteral c.bindAddress ip := by
  constructor
  · rintro ⟨⟨client, hstart⟩, a, ha⟩
    obtain ⟨-, hkey, hurl⟩ := Node.Client.start_eq_ok_iff.mp hstart
    exact ⟨hurl, Node.Client.exists_readKey_iff.mp ⟨_, hkey⟩, a.ip,
      ((SocketAddress.parse?_port port).mp ha).1⟩
  · rintro ⟨hurl, hkey, ip, hip⟩
    obtain ⟨signer, hsigner⟩ := Node.Client.exists_readKey_iff.mpr hkey
    refine ⟨⟨⟨c.bridgeAddress, signer⟩, ?_⟩, ⟨ip, c.port⟩, ?_⟩
    · exact Node.Client.start_eq_ok_iff.mpr ⟨c.bridgeAddress.parse_checksummed, hsigner, hurl⟩
    · exact (SocketAddress.parse?_port port).mpr ⟨hip, rfl⟩

theorem listen_eq_badAddress_iff {owned : IpAddress → Bool} {host : String} {port : Nat}
    (hport : port < 65536) :
    Http.listen owned host port = .error (.badAddress host port) ↔
      ∀ ip, ¬SocketAddress.IsLiteral host ip := by
  unfold Http.listen
  cases hparse : SocketAddress.parse? (host ++ ":" ++ toString port) with
  | none =>
    refine ⟨fun _ ip hip => ?_, fun _ => rfl⟩
    have hread := (SocketAddress.parse?_port (a := ⟨ip, port⟩) hport).mpr ⟨hip, rfl⟩
    cases hparse.symm.trans hread
  | some a =>
    have hip := ((SocketAddress.parse?_port hport).mp hparse).1
    refine ⟨fun h => ?_, fun h => absurd hip (h a.ip)⟩
    simp only at h
    split at h <;> cases h

/-- **What loading judges, and what it leaves to use.** A configuration that has been loaded can be
used exactly if its URL is one, its private key is one, if it has any, and its address to listen at
is a literal address. Where it cannot be used, the client fails to start by the key or else by the
URL, and the service fails to listen by the address. Loading does not look at those three: whatever
texts they are given, if only there is a URL at all, the same configuration is loaded with these
texts in it. -/
theorem usable_iff_of_load {e : Environment} {c : Config} (loaded : load e = .ok c) :
    (c.Usable ↔ Url.isValid c.rpcUrl = true ∧ (∀ key ∈ c.privateKey, Signer.IsKey key) ∧
      ∃ ip, SocketAddress.IsLiteral c.bindAddress ip) ∧
    (∀ fault, Node.Client.start c.rpcUrl c.bridgeAddress.checksummed c.privateKey = .error fault ↔
      (fault = .badKey ∧ ¬∀ key ∈ c.privateKey, Signer.IsKey key) ∨
      (fault = .badUrl ∧ (∀ key ∈ c.privateKey, Signer.IsKey key) ∧ Url.isValid c.rpcUrl = false)) ∧
    (∀ owned, Http.listen owned c.bindAddress c.port = .error (.badAddress c.bindAddress c.port) ↔
      ∀ ip, ¬SocketAddress.IsLiteral c.bindAddress ip) ∧
    ∀ (e' : Environment) (url : String), notBlank? e' .rpcUrl = some url →
      (∀ v, ¬IsVerbatim v → e'.text? v.name = e.text? v.name) →
      load e' = .ok (c.withTexts e' url) := by
  have hport : c.port < 65536 := lt_of_loadNumber (load_eq_ok_iff.mp loaded).port (by decide)
  exact ⟨usable_iff hport,
    fun fault => Node.Client.start_eq_error_iff c.bridgeAddress.parse_checksummed,
    fun owned => listen_eq_badAddress_iff hport,
    fun e' url hurl same => load_of_same loaded hurl same⟩

/-- The defaults behind a URL, and the same environment with texts that are none of what they
should be. -/
theorem usable_iff_of_load_of_defaults :
    let url := "http://[::1]:8545"
    let e := urlAlone url
    let e' := (((e.set Variable.bindAddress.name "localhost".toUTF8).set Variable.privateKey.name
      "0x1234".toUTF8)).set Variable.rpcUrl.name "not a url".toUTF8
    load e = .ok (ofUrl url) ∧ (ofUrl url).Usable ∧
      load e' = .ok ((ofUrl url).withTexts e' "not a url") := by
  intro url e e'
  have loaded : load e = .ok (ofUrl url) := load_urlAlone (by decide)
  obtain ⟨husable, -, -, hloads⟩ := usable_iff_of_load loaded
  have hliteral : SocketAddress.IsLiteral defaultBindAddress (.v4 [0, 0, 0, 0]) := by
    unfold SocketAddress.IsLiteral
    decide
  refine ⟨loaded, husable.mpr ⟨by decide +kernel, nofun, _, hliteral⟩,
    hloads e' _ (notBlank?_of_text (Environment.text?_set _ _ _) (by decide)) fun v hv => ?_⟩
  exact (text?_set_verbatim _ hv (.inl rfl) _).trans
    ((text?_set_verbatim _ hv (.inr (.inl rfl)) _).trans
      (text?_set_verbatim _ hv (.inr (.inr rfl)) _))

/-- Configurations that are loaded and cannot be used: with a URL, with a private key and with an
address to listen at that is none. -/
theorem loads_unusable :
    let url := "http://[::1]:8545"
    let keyed := (urlAlone url).set Variable.privateKey.name "0x1234".toUTF8
    let bound := (urlAlone url).set Variable.bindAddress.name "localhost".toUTF8
    (∃ c, load (urlAlone "not a url") = .ok c ∧ ¬c.Usable ∧
      Node.Client.start c.rpcUrl c.bridgeAddress.checksummed c.privateKey = .error .badUrl) ∧
    (∃ c, load keyed = .ok c ∧ ¬c.Usable ∧
      Node.Client.start c.rpcUrl c.bridgeAddress.checksummed c.privateKey = .error .badKey) ∧
    ∃ c, load bound = .ok c ∧ ¬c.Usable ∧
      Http.listen (fun _ => true) c.bindAddress c.port =
        .error (.badAddress c.bindAddress c.port) := by
  intro url keyed bound
  have hport : defaultPort < 65536 := by decide
  have hload : ∀ (w : Variable) (value : ByteArray), w ≠ .rpcUrl → IsVerbatim w →
      load ((urlAlone url).set w.name value) =
        .ok ((ofUrl url).withTexts ((urlAlone url).set w.name value) url) := by
    intro w value hw hverbatim
    have hurl : ((urlAlone url).set w.name value).text? Variable.rpcUrl.name = some url := by
      rw [Environment.text?_set_of_ne _ _ fun hname => hw (Variable.name_injective hname).symm]
      exact Environment.text?_set _ _ _
    exact load_of_same (load_urlAlone (by decide)) (notBlank?_of_text hurl (by decide))
      fun v hv => text?_set_verbatim _ hv hverbatim value
  refine ⟨⟨_, load_urlAlone (by decide), ?_⟩,
    ⟨_, hload .privateKey _ (by decide) (.inr (.inl rfl)), ?_⟩,
    ⟨_, hload .bindAddress _ (by decide) (.inr (.inr rfl)), ?_⟩⟩
  · have hfault : Node.Client.start "not a url" defaultBridge.checksummed none = .error .badUrl :=
      (Node.Client.start_eq_error_iff defaultBridge.parse_checksummed).mpr
        (.inr ⟨rfl, nofun, by decide +kernel⟩)
    exact ⟨not_usable_of_start hfault, hfault⟩
  · have hkey : notBlank? keyed .privateKey = some "0x1234" :=
      notBlank?_of_text (Environment.text?_set _ _ _) (by decide)
    have noKey : ¬Signer.IsKey "0x1234" := by
      rw [← Signer.isSome_parse?_iff]
      decide
    have hfault :
        Node.Client.start url defaultBridge.checksummed (some "0x1234") = .error .badKey :=
      (Node.Client.start_eq_error_iff defaultBridge.parse_checksummed).mpr
        (.inl ⟨rfl, fun h => noKey (h _ rfl)⟩)
    rw [← hkey] at hfault
    exact ⟨not_usable_of_start hfault, hfault⟩
  · have hbind : bound.text? Variable.bindAddress.name = some "localhost" :=
      Environment.text?_set _ _ _
    have hliteral : ∀ ip, ¬SocketAddress.IsLiteral "localhost" ip := by
      intro ip hip
      have hnone : SocketAddress.host "localhost".toList = none := by decide
      cases hnone.symm.trans hip
    have haddress : ((ofUrl url).withTexts bound url).bindAddress = "localhost" := by
      rw [withTexts, hbind]
      rfl
    rw [← haddress] at hliteral
    refine ⟨fun husable => ?_, (listen_eq_badAddress_iff hport).mpr hliteral⟩
    obtain ⟨-, -, ip, hip⟩ := (usable_iff hport).mp husable
    exact hliteral ip hip

end Config

end TransferRelay

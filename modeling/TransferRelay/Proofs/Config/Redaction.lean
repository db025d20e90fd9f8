import TransferRelay.Proofs.Config.Loading

/-!
# What becomes of the private key

Loading takes the private key over as it stands and judges nothing by it (`load_of_sameButKey`), and
of a configuration with one, diagnostics show no more than that there is one (`debugText_withKey`).
So whoever sees the faults of loading and what diagnostics show cannot tell one private key from
another, by its length or by any part of it (`load_alike_of_keys`).
-/

namespace TransferRelay.Config

variable {e e' : Environment}

/-- Two environments have the same text for every variable but the private key. -/
def SameButKey (e e' : Environment) : Prop :=
  ∀ v : Variable, v ≠ .privateKey → e'.text? v.name = e.text? v.name

/-- A configuration with another private key. -/
def withKey (c : Config) (key : Option String) : Config :=
  { c with privateKey := key }

/-- Loading judges nothing by the private key, and the key is the only part that is made of it. -/
theorem load_of_sameButKey (same : SameButKey e e') :
    load e' = (load e).map fun c => c.withKey (notBlank? e' .privateKey) := by
  have hurl : loadUrl e' = loadUrl e := loadUrl_congr (same _ (by decide))
  have hbridge : loadBridge e' = loadBridge e := loadBridge_congr (same _ (by decide))
  have hnumber : ∀ v limit default, v ≠ .privateKey →
      loadNumber e' v limit default = loadNumber e v limit default :=
    fun v limit default hv => loadNumber_congr (same v hv) limit default
  rw [load, load, hurl, hbridge, hnumber .maxConcurrentQueries _ _ (by decide),
    hnumber .rpcTimeout _ _ (by decide), hnumber .port _ _ (by decide),
    same .bindAddress (by decide)]
  show _ = _ <$> _
  simp only [map_bind]
  rfl

/-- Of two private keys, diagnostics show the same. -/
theorem debugText_withKey (c : Config) (key key' : String) :
    (c.withKey (some key)).debugText = (c.withKey (some key')).debugText := rfl

/-- **A private key is seen in nothing but itself.** Two environments that differ in their private
keys only are loaded alike: with the same fault, and so with the same message, or as configurations
that differ in their private keys only and of which diagnostics show the same. -/
theorem load_alike_of_keys {key key' : String} (same : SameButKey e e')
    (set : e.text? Variable.privateKey.name = some key) (shown : Shown key)
    (set' : e'.text? Variable.privateKey.name = some key') (shown' : Shown key') :
    (∃ fault, load e = .error fault ∧ load e' = .error fault) ∨
      ∃ c c', load e = .ok c ∧ load e' = .ok c' ∧ c.privateKey = some key ∧
        c'.privateKey = some key' ∧ c' = { c with privateKey := some key' } ∧
        c.debugText = c'.debugText := by
  have hload' := load_of_sameButKey same
  rw [notBlank?_eq_some_iff.mpr ⟨set', shown'⟩] at hload'
  cases hload : load e with
  | error fault =>
    rw [hload] at hload'
    exact .inl ⟨fault, rfl, hload'⟩
  | ok c =>
    rw [hload] at hload'
    have hkey : c.privateKey = some key := by
      rw [(load_eq_ok_iff.mp hload).key, notBlank?_eq_some_iff]
      exact ⟨set, shown⟩
    have hc : c.withKey (some key) = c := by rw [withKey, ← hkey]
    refine .inr ⟨c, c.withKey (some key'), rfl, hload', hkey, rfl, rfl, ?_⟩
    rw [← debugText_withKey c key key', hc]

/-- A short private key and a long one. -/
theorem load_alike_of_keys_of_two_lengths :
    let e := (urlAlone "http://[::1]:8545").set Variable.privateKey.name "0x1234".toUTF8
    let e' := (urlAlone "http://[::1]:8545").set Variable.privateKey.name
      "correct horse battery".toUTF8
    SameButKey e e' ∧ ∃ c c', load e = .ok c ∧ load e' = .ok c' ∧ c.privateKey = some "0x1234" ∧
      c'.privateKey = some "correct horse battery" ∧ c.debugText = c'.debugText := by
  intro e e'
  have same : SameButKey e e' := by
    intro v hv
    have hname : v.name ≠ Variable.privateKey.name := fun h => hv (Variable.name_injective h)
    exact (Environment.text?_set_of_ne _ _ hname).trans (Environment.text?_set_of_ne _ _ hname).symm
  have hshown : Shown "http://[::1]:8545" := ⟨'h', by decide, by decide⟩
  obtain ⟨c, hc⟩ : ∃ c, load e = .ok c :=
    exists_load_iff.mpr ((sound_set_urlAlone_iff hshown (by decide)).mpr trivial)
  refine ⟨same, ?_⟩
  rcases load_alike_of_keys same (Environment.text?_set _ _ _) ⟨'0', by decide, by decide⟩
    (Environment.text?_set _ _ _) ⟨'c', by decide, by decide⟩ with
    ⟨fault, hfault, -⟩ | ⟨c, c', hload, hload', hkey, hkey', -, hshown⟩
  · cases hc.symm.trans hfault
  · exact ⟨c, c', hload, hload', hkey, hkey', hshown⟩

end TransferRelay.Config

import SmbBrowser.Credentials.VaultMap

/-!
# The vault when writing fails

`writePayload` truncates the file in place, does not look at what `QFile::write` answers,
and fails only if the flush does.  What the file holds from then on is a beginning of the
new text, and a text that breaks off is no vault.

Results:
* `Run.content`: what a run leaves in the file, whatever fails in it, is such a beginning;
* `keeps_secrets_iff`: exactly when a call that changes the vault fails and leaves every
  stored secret loadable;
* `keeps_secrets_fails`: a write that fails loses all secrets, and the call succeeds.
-/

namespace SmbBrowser.Credentials.EncryptedVaultCredentialStore

open SmbBrowser.Base SmbBrowser.Qt SmbBrowser.Core SmbBrowser.Crypto

/-! ## What the file can hold -/

/-- The file does not exist, or holds the beginning of a vault under some password. -/
def Content (codec : Codec) (sodium : Sodium) (valid : QString → Prop)
    (file : Option QByteArray) : Prop :=
  ∀ bytes, file = some bytes → ∃ password credentials whole,
    IsCredentials codec valid credentials ∧ Sealed codec sodium password credentials whole ∧
      bytes <+: whole

section

variable {codec : Codec} {sodium : Sodium} {valid : QString → Prop} {file owner : Option QByteArray}
  {secrets : QString → Option QByteArray} {password masterPassword : QByteArray} {call : Call}
  {d : Disk} {credentials : JsonObject} {bytes whole : QByteArray}

/-- A vault that breaks off does not open. -/
theorem readVault_part (hparts : codec.RejectsParts (IsVault codec))
    (hsealed : Sealed codec sodium password credentials whole) (hpart : bytes <+: whole)
    (hproper : bytes ≠ whole) :
    (readVault codec sodium masterPassword bytes).ok = false := by
  obtain ⟨salt, nonce, key, -, -, -, rfl⟩ := hsealed
  have hreject := hparts _ ⟨salt, nonce, _, rfl⟩ bytes hpart hproper
  unfold readVault
  split
  · next object hread => exact absurd hread (hreject object)
  · rfl

theorem Content.partsFail (hparts : codec.RejectsParts (IsVault codec))
    (h : Content codec sodium valid file) (masterPassword : QByteArray) :
    PartsFail codec sodium masterPassword file := by
  intro content hfile bytes hpart hproper
  obtain ⟨password, credentials, whole, -, hsealed, hcontent⟩ := h content hfile
  refine readVault_part hparts hsealed (hpart.trans hcontent) ?_
  rintro rfl
  exact hproper (hpart.eq_of_length_le hcontent.length_le)

/-- A file holds a map, or a vault that broke off. -/
theorem Content.holds_or_fails (hparts : codec.RejectsParts (IsVault codec))
    (h : Content codec sodium valid file) :
    (∃ owner secrets, Holds codec sodium valid file owner secrets) ∨
      ∀ masterPassword, (payloadIn codec sodium masterPassword file).ok = false := by
  cases file with
  | none => exact Or.inl ⟨_, _, .absent⟩
  | some bytes =>
    obtain ⟨password, credentials, whole, hcredentials, hsealed, hpart⟩ := h bytes rfl
    by_cases hwhole : bytes = whole
    · subst hwhole
      exact Or.inl ⟨_, _, .vault password credentials bytes hcredentials hsealed⟩
    · exact Or.inr fun _ => readVault_part hparts hsealed hpart hwhole

theorem Holds.content (h : Holds codec sodium valid file owner secrets) :
    Content codec sodium valid file := by
  intro bytes hfile
  cases h with
  | absent => cases hfile
  | vault password credentials bytes' hcredentials hsealed =>
    obtain rfl := Option.some.inj hfile
    exact ⟨password, credentials, _, hcredentials, hsealed, List.prefix_refl _⟩

/-- Nothing is loaded from a file that does not open. -/
theorem not_loads (hsodium : sodium.Correct)
    (h : (payloadIn codec sodium masterPassword file).ok = false) (ref : QString)
    (secret : QByteArray) : ¬Loads codec sodium masterPassword file ref secret := by
  rw [loads_iff hsodium, loadIn_of_refused h]
  intro hsuccess
  have hok : (payloadIn codec sodium masterPassword file).ok = true :=
    congrArg Result.ok hsuccess
  exact absurd (h.symm.trans hok) Bool.noConfusion

/-- The payload that an instance reads. -/
theorem Content.payload (hsodium : sodium.Correct) (hcodec : codec.Faithful (Written codec valid))
    (hparts : codec.RejectsParts (IsVault codec)) (h : Content codec sodium valid file)
    (hok : (payloadIn codec sodium password file).ok = true) :
    ∃ owner secrets, Holds codec sodium valid file owner secrets ∧
      ∀ p, owner = some p → p = password := by
  rcases h.holds_or_fails hparts with ⟨owner, secrets, hholds⟩ | hfails
  · refine ⟨owner, secrets, hholds, ?_⟩
    rcases owner_cases owner password with howner | ⟨p, howner, hother⟩
    · exact howner
    · rw [hholds.denied hsodium hcodec howner hother] at hok
      cases hok
  · exact absurd ((hfails password).symm.trans hok) Bool.noConfusion

/-! ## Calls that fail -/

/-- The call fails, and every secret stored before it can still be loaded. -/
def KeepsSecrets (codec : Codec) (sodium : Sodium) (call : Call) (file : Option QByteArray)
    (d : Disk) : Prop :=
  call.ok = false ∧ ∀ password ref secret, Loads codec sodium password file ref secret →
    Loads codec sodium password d.file ref secret

/-- No instance can load anything from the file. -/
def NothingStored (codec : Codec) (sodium : Sodium) (file : Option QByteArray) : Prop :=
  ∀ password ref secret, ¬Loads codec sodium password file ref secret

/-- The change neither replaces a stored secret by another one nor removes one. -/
def OnlyAdds (codec : Codec) (sodium : Sodium) (change : FiniteMap.Change QString QByteArray)
    (file : Option QByteArray) : Prop :=
  ∀ password secret, Loads codec sodium password file change.key secret →
    change.value = some secret

/-- How a call ends on a file that can be left by the store, whatever fails. -/
theorem Content.ended (hsodium : sodium.Correct) (hcodec : codec.Faithful (Written codec valid))
    (hparts : codec.RejectsParts (IsVault codec)) (hfile : Content codec sodium valid file)
    {faults : Prop} {change : FiniteMap.Change QString QByteArray}
    (htarget : call.target = some change)
    (hcall : call.Performed codec sodium password faults file d) :
    call.Ended codec sodium password faults change { file } d := by
  refine hcall.ended hsodium (fun _ => hfile.partsFail hparts password) ?_ htarget
  intro hok
  obtain ⟨owner, secrets, hholds, howner⟩ := hfile.payload hsodium hcodec hparts hok
  obtain ⟨credentials, -, -, hpayload⟩ := hholds.payload hsodium hcodec howner
  exact ⟨credentials, hpayload⟩

/-- Whatever fails in a call, it leaves the beginning of a vault. -/
theorem Content.kept (hsodium : sodium.Correct) (hcodec : codec.Faithful (Written codec valid))
    (hparts : codec.RejectsParts (IsVault codec)) (hfile : Content codec sodium valid file)
    {faults : Prop} (hvalid : valid call.credentialRef)
    (hcall : call.Performed codec sodium password faults file d) :
    Content codec sodium valid d.file := by
  cases htarget : call.target with
  | none =>
    cases call with
    | load =>
      obtain ⟨rfl, -⟩ := hcall.loaded hsodium fun _ => hfile.partsFail hparts password
      exact hfile
    | save | update | remove => cases htarget
  | some change =>
    have hkey : valid change.key := Call.key_eq_credentialRef htarget ▸ hvalid
    cases hfile.ended hsodium hcodec hparts htarget hcall with
    | refused => exact hfile
    | failed => exact hfile
    | rewritten d credentials bytes hpayload hbytes hdisk =>
      obtain ⟨stored, hstored, hwhole⟩ := hdisk.file
      obtain ⟨owner, secrets, hholds, howner⟩ :=
        hfile.payload hsodium hcodec hparts (by rw [hpayload]; rfl)
      obtain ⟨credentials', hcredentials, -, hpayload'⟩ := hholds.payload hsodium hcodec howner
      obtain rfl := payloadOf_injective (congrArg Result.value (hpayload.symm.trans hpayload'))
      intro content hcontent
      obtain rfl := Option.some.inj (hstored.symm.trans hcontent)
      exact ⟨password, _, bytes, hcredentials.edit change hkey, hbytes, d.lost, hwhole.symm⟩

/-- What a run leaves in the file, whatever fails in it. -/
theorem Run.content (hsodium : sodium.Correct) (hcodec : codec.Faithful (Written codec valid))
    (hparts : codec.RejectsParts (IsVault codec)) {faults : Prop}
    {calls : List (QByteArray × Call)} (h : Run codec sodium faults calls file)
    (hvalid : ∀ made ∈ calls, valid made.2.credentialRef) : Content codec sodium valid file := by
  induction h with
  | nil => exact Holds.absent.content
  | call password call d hrun hcall ih =>
    obtain ⟨hbefore, hlast⟩ := List.forall_mem_append.1 hvalid
    exact (ih hbefore).kept hsodium hcodec hparts (hlast _ List.mem_cons_self) hcall

/-- A call that has truncated the file and whose flush failed keeps the secrets only if
    there are none, or if everything reached the disk and the call adds to them. -/
theorem keepsSecrets_rewritten_iff (hsodium : sodium.Correct)
    (hcodec : codec.Faithful (Written codec valid)) (hparts : codec.RejectsParts (IsVault codec))
    (hholds : Holds codec sodium valid file owner (secretsOf codec credentials))
    (howner : ∀ p, owner = some p → p = password)
    (hcredentials : IsCredentials codec valid credentials)
    {change : FiniteMap.Change QString QByteArray} (hvalid : valid change.key)
    (hbytes : Sealed codec sodium password (edit codec change credentials) bytes)
    (hdisk : d.Rewritten True bytes) (hok : call.ok = false) :
    KeepsSecrets codec sodium call file d ↔
      NothingStored codec sodium file ∨ d.lost = [] ∧ OnlyAdds codec sodium change file := by
  obtain ⟨stored, hfile, hstored⟩ := hdisk.file
  have hstill : KeepsSecrets codec sodium call file d ↔ ∀ password ref secret,
      Loads codec sodium password file ref secret →
        Loads codec sodium password d.file ref secret := and_iff_right hok
  rw [hstill]
  by_cases hlost : d.lost = []
  · rw [hlost, List.append_nil] at hstored
    subst hstored
    have hafter : Holds codec sodium valid d.file (some password)
        (FiniteMap.apply (secretsOf codec credentials) change) := by
      rw [hfile, ← secretsOf_edit hcodec.fromBase64]
      exact .vault password _ bytes (hcredentials.edit change hvalid) hbytes
    constructor
    · intro hkeeps
      refine Or.inr ⟨hlost, ?_⟩
      intro p secret hloads
      obtain ⟨-, hsecret⟩ := (hafter.loads_iff hsodium hcodec).1 (hkeeps p _ secret hloads)
      rwa [FiniteMap.apply_self] at hsecret
    · rintro (hnothing | ⟨-, hadds⟩) p ref secret hloads
      · exact absurd hloads (hnothing p ref secret)
      · obtain ⟨howned, hsecret⟩ := (hholds.loads_iff hsodium hcodec).1 hloads
        obtain rfl := howner p howned
        refine (hafter.loads_iff hsodium hcodec).2 ⟨rfl, ?_⟩
        by_cases hkey : ref = change.key
        · subst hkey
          rw [FiniteMap.apply_self]
          exact hadds p secret hloads
        · rw [FiniteMap.apply_of_ne hkey]
          exact hsecret
  · have hproper : stored ≠ bytes := by
      rintro rfl
      exact hlost (List.self_eq_append_right.1 hstored)
    have hgone : NothingStored codec sodium d.file := by
      intro p ref secret
      refine not_loads hsodium ?_ ref secret
      rw [hfile]
      exact readVault_part hparts hbytes ⟨d.lost, hstored.symm⟩ hproper
    constructor
    · intro hkeeps
      exact Or.inl fun p ref secret hloads => hgone p ref secret (hkeeps p ref secret hloads)
    · rintro (hnothing | ⟨hall, -⟩) p ref secret hloads
      · exact absurd hloads (hnothing p ref secret)
      · exact absurd hall hlost

/-- A call that changes the vault fails and leaves every stored secret loadable exactly if
    the file was not opened for writing, or the flush failed and there was nothing to lose,
    or everything reached the disk and the call only adds. -/
theorem keeps_secrets_iff (hsodium : sodium.Correct)
    (hcodec : codec.Faithful (Written codec valid)) (hparts : codec.RejectsParts (IsVault codec))
    (hfile : Content codec sodium valid file) {change : FiniteMap.Change QString QByteArray}
    (htarget : call.target = some change) (hvalid : valid call.credentialRef)
    (hcall : call.Performed codec sodium password True file d) :
    KeepsSecrets codec sodium call file d ↔
      d.truncated = false ∨ d.flushFailed = true ∧
        (NothingStored codec sodium file ∨ d.lost = [] ∧ OnlyAdds codec sodium change file) := by
  have hkey : valid change.key := Call.key_eq_credentialRef htarget ▸ hvalid
  have hsame (hok : call.ok = false) : KeepsSecrets codec sodium call file { file } :=
    ⟨hok, fun _ _ _ hloads => hloads⟩
  cases hfile.ended hsodium hcodec hparts htarget hcall with
  | refused hpayload hfailed =>
    have herror : (payloadIn codec sodium password file).error.hasError = true := by
      simpa [Result.ok] using hpayload
    exact iff_of_true (hsame (hfailed.ok herror)) (Or.inl rfl)
  | failed hok => exact iff_of_true (hsame hok) (Or.inl rfl)
  | rewritten d credentials bytes hpayload hbytes hdisk hanswered =>
    have htruncated : ¬d.truncated = false := by rw [hdisk.truncated]; exact Bool.noConfusion
    rw [or_iff_right htruncated]
    by_cases hflush : d.flushFailed = true
    · rw [if_pos hflush] at hanswered
      rw [and_iff_right hflush]
      obtain ⟨owner, secrets, hholds, howner⟩ :=
        hfile.payload hsodium hcodec hparts (by rw [hpayload]; rfl)
      obtain ⟨credentials', hcredentials, rfl, hpayload'⟩ := hholds.payload hsodium hcodec howner
      obtain rfl := payloadOf_injective (congrArg Result.value (hpayload.symm.trans hpayload'))
      exact keepsSecrets_rewritten_iff hsodium hcodec hparts hholds howner hcredentials hkey hbytes
        hdisk hanswered
    · rw [if_neg hflush] at hanswered
      refine iff_of_false ?_ fun h => hflush h.1
      rintro ⟨hok, -⟩
      exact absurd (hok.symm.trans (hanswered.ok htarget)) Bool.noConfusion

end

/-! ### A write that fails -/

/-- The credentials of the saved secret. -/
def savedCredentials : JsonObject :=
  edit VaultText.vaultCodec ⟨credentialRefOf [] (qStringLiteral "0"), some [115]⟩ []

/-- The secret `t`, under another reference. -/
def lostCall : Call := .update (qStringLiteral "vault:1") [116] (.success true)

/-- The vault that is not written. -/
def lostText : QByteArray :=
  vaultText VaultText.vaultCodec .labelled (List.replicate 16 0) (List.replicate 24 0) [1]
    (payloadOf (savedCredentials.insert (qStringLiteral "vault:1")
      (.string (VaultText.vaultCodec.toBase64 [116]))))

theorem savedCredentials_isCredentials :
    IsCredentials VaultText.vaultCodec VaultText.Plain savedCredentials :=
  IsCredentials.edit isCredentials_nil _ (by decide)

theorem savedText_sealed :
    Sealed VaultText.vaultCodec .labelled [1] savedCredentials savedText :=
  ⟨List.replicate 16 0, List.replicate 24 0, [1], rfl, rfl, rfl, rfl⟩

theorem savedText_holds :
    Holds VaultText.vaultCodec .labelled VaultText.Plain (some savedText) (some [1])
      (secretsOf VaultText.vaultCodec savedCredentials) :=
  .vault [1] savedCredentials savedText savedCredentials_isCredentials savedText_sealed

/-- What is on the disk when nothing of it is written. -/
def lostDisk : Disk := { file := some [], lost := lostText, truncated := true }

theorem lostCall_performed :
    lostCall.Performed VaultText.vaultCodec .labelled [1] True (some savedText) lostDisk := by
  let events : List (Event disk) := [⟨.fileExists, true⟩, ⟨.readAll, some savedText⟩]
  let events' : List (Event disk) := [⟨.randomBytes 16, List.replicate 16 (0 : UInt8)⟩,
    ⟨.randomBytes 24, List.replicate 24 (0 : UInt8)⟩, ⟨.makePath, true⟩, ⟨.truncate, true⟩,
    ⟨.write lostText, (-1 : ℤ)⟩, ⟨.flush, true⟩]
  refine ⟨events ++ events', ?_, ?_⟩
  · have hread : readVault VaultText.vaultCodec .labelled [1] savedText =
        .success (payloadOf savedCredentials) :=
      readVault_sealed Sodium.labelled_correct VaultText.vaultCodec_faithful
        savedCredentials_isCredentials savedText_sealed
    have hdecrypt : (decryptPayload VaultText.vaultCodec .labelled [1]).Runs events
        (.success (payloadOf savedCredentials)) := by
      rw [← hread]
      exact .ask _ (.ask _ (.pure _))
    refine Program.runs_bind.2 ⟨events, _, events', rfl, hdecrypt, ?_⟩
    unfold Result.success
    dsimp only
    rw [credentialsObject_payloadOf, payloadOf_insert]
    exact .ask _ (.ask _ (.ask _ (.ask _ (.ask _ (.ask _ (.pure _))))))
  · refine ⟨_, ⟨rfl, rfl⟩, _, ⟨Or.inl rfl, rfl⟩, _, ⟨rfl, rfl⟩, _, ⟨rfl, rfl⟩, _, ⟨Or.inl rfl, rfl⟩,
      _, rfl, _, ⟨[], [], lostText, rfl, Or.inr ⟨trivial, ?_⟩, rfl⟩, _,
      ⟨[], [], rfl, Or.inl ⟨rfl, rfl⟩, rfl⟩, rfl⟩
    show (-1 : ℤ) < (lostText.length : ℤ)
    omega

theorem savedText_loads :
    Loads VaultText.vaultCodec .labelled [1] (some savedText) (credentialRefOf [] (qStringLiteral "0"))
      [115] :=
  (savedText_holds.loads_iff Sodium.labelled_correct VaultText.vaultCodec_faithful).2
    ⟨rfl, by
      unfold savedCredentials
      rw [secretsOf_edit Base64.fromBase64_toBase64]
      exact FiniteMap.apply_self⟩

theorem lostText_ne_nil : lostText ≠ [] := by
  intro hnil
  have hread : VaultText.vaultCodec.fromJson lostText = .ok (.object _) :=
    VaultText.vaultCodec_faithful.fromJson _ (.vault _ _ _)
  rw [hnil] at hread
  cases hread

/-- The write of an update fails, the update succeeds, and the secret that was stored is
    lost. -/
theorem keeps_secrets_fails :
    lostCall.Performed VaultText.vaultCodec .labelled [1] True (some savedText) lostDisk ∧
      lostDisk.lost ≠ [] ∧ lostCall.ok = true ∧
      Loads VaultText.vaultCodec .labelled [1] (some savedText)
        (credentialRefOf [] (qStringLiteral "0")) [115] ∧
      NothingStored VaultText.vaultCodec .labelled lostDisk.file ∧
      ¬KeepsSecrets VaultText.vaultCodec .labelled lostCall (some savedText) lostDisk := by
  have hgone : NothingStored VaultText.vaultCodec .labelled lostDisk.file := by
    intro password ref secret
    exact not_loads Sodium.labelled_correct rfl ref secret
  refine ⟨lostCall_performed, lostText_ne_nil, rfl, savedText_loads, hgone, ?_⟩
  rintro ⟨hok, -⟩
  cases hok

/-- The theorem says the same of it. -/
theorem keeps_secrets_iff_lost :
    ¬KeepsSecrets VaultText.vaultCodec .labelled lostCall (some savedText) lostDisk := by
  have hvalid : VaultText.Plain lostCall.credentialRef := by decide
  have hiff := keeps_secrets_iff Sodium.labelled_correct VaultText.vaultCodec_faithful
    VaultText.vaultCodec_rejectsParts savedText_holds.content rfl hvalid lostCall_performed
  rw [hiff]
  rintro (htruncated | ⟨hflush, -⟩)
  · cases htruncated
  · cases hflush

end SmbBrowser.Credentials.EncryptedVaultCredentialStore

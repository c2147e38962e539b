import SmbBrowser.Credentials.VaultText

/-!
# The vault as a finite map

Instances of the store, each with a password, call one after the other on one file.  The
first change makes the vault; from then on it is a map from references to secrets for the
instances with its password, and closed to all others.

Results:
* `Holds.performed`: what a call does to the file is what it does to the map;
* `vault_refines_map`: the same over a whole run, with what each call answers.
-/

namespace SmbBrowser.Credentials.EncryptedVaultCredentialStore

open SmbBrowser.Base SmbBrowser.Qt SmbBrowser.Core SmbBrowser.Crypto

/-! ## Runs -/

/-- The change that a call made. -/
def Call.change (call : Call) : Option (FiniteMap.Change QString QByteArray) :=
  if call.ok then call.target else none

/-- The secrets last stored in a run of calls, each by the instance with a password, and
    not removed since. -/
def lastStored (calls : List (QByteArray × Call)) : QString → Option QByteArray :=
  FiniteMap.after (fun _ => none) (calls.filterMap fun made => made.2.change)

/-- The password of the instance that made the vault. -/
def vaultPassword (calls : List (QByteArray × Call)) : Option QByteArray :=
  (calls.find? fun made => made.2.change.isSome).map (·.1)

/-- The calls have been made in this order, with no file at the start, and have left
    `file`; file operations fail only if there are `faults`. -/
inductive Run (codec : Codec) (sodium : Sodium) (faults : Prop) :
    List (QByteArray × Call) → Option QByteArray → Prop
  | nil : Run codec sodium faults [] none
  | call {calls : List (QByteArray × Call)} {file : Option QByteArray} (password : QByteArray)
    (call : Call) (d : Disk) (hrun : Run codec sodium faults calls file)
    (hcall : call.Performed codec sodium password faults file d) :
    Run codec sodium faults (calls ++ [(password, call)]) d.file

section

variable {calls : List (QByteArray × Call)} {password : QByteArray} {call : Call}

theorem lastStored_append :
    lastStored (calls ++ [(password, call)]) =
      FiniteMap.after (lastStored calls) call.change.toList := by
  unfold lastStored
  rw [List.filterMap_append, FiniteMap.after_append, List.filterMap_cons, List.filterMap_nil]
  cases call.change with
  | none => rfl
  | some change => rfl

/-- A secret is the one last stored if a call stored it and no later call changed anything
    under its reference. -/
theorem lastStored_eq_some_iff {ref : QString} {secret : QByteArray} :
    lastStored calls ref = some secret ↔
      ∃ before made rest, calls = before ++ made :: rest ∧
        made.2.change = some ⟨ref, some secret⟩ ∧
        ∀ later ∈ rest, ∀ change, later.2.change = some change → change.key ≠ ref := by
  unfold lastStored
  rw [FiniteMap.after_eq_some_iff]
  constructor
  · rintro ⟨before, rest, hchanges, hrest⟩
    obtain ⟨first, second, rfl, -, hsecond⟩ := List.filterMap_eq_append_iff.1 hchanges
    obtain ⟨skipped, made, last, rfl, -, hmade, rfl⟩ := List.filterMap_eq_cons_iff.1 hsecond
    refine ⟨first ++ skipped, made, last, by rw [List.append_assoc], hmade, ?_⟩
    intro later hmem change hchange
    exact hrest change (List.mem_filterMap.2 ⟨later, hmem, hchange⟩)
  · rintro ⟨before, made, rest, rfl, hmade, hrest⟩
    refine ⟨before.filterMap fun made => made.2.change, rest.filterMap fun made => made.2.change,
      ?_, ?_⟩
    · rw [List.filterMap_append, List.filterMap_cons, hmade]
    · intro change hmem
      obtain ⟨later, hlater, hchange⟩ := List.mem_filterMap.1 hmem
      exact hrest later hlater change hchange

theorem vaultPassword_append :
    vaultPassword (calls ++ [(password, call)]) =
      (vaultPassword calls).or (call.change.map fun _ => password) := by
  unfold vaultPassword
  rw [List.find?_append]
  cases calls.find? fun made => made.2.change.isSome with
  | some made => rfl
  | none =>
    cases hchange : call.change with
    | none => simp [hchange]
    | some change => simp [hchange]

end

/-! ## What a file holds -/

/-- The file holds a map from references to secrets, under a password if there is a
    vault. -/
inductive Holds (codec : Codec) (sodium : Sodium) (valid : QString → Prop) :
    Option QByteArray → Option QByteArray → (QString → Option QByteArray) → Prop
  | absent : Holds codec sodium valid none none fun _ => none
  | vault (password : QByteArray) (credentials : JsonObject) (bytes : QByteArray)
    (hcredentials : IsCredentials codec valid credentials)
    (hsealed : Sealed codec sodium password credentials bytes) :
    Holds codec sodium valid (some bytes) (some password) (secretsOf codec credentials)

section

variable {codec : Codec} {sodium : Sodium} {valid : QString → Prop} {file owner : Option QByteArray}
  {secrets : QString → Option QByteArray} {password : QByteArray} {call : Call} {d : Disk}

/-- What an instance with the password of the vault reads. -/
theorem Holds.payload (hsodium : sodium.Correct) (hcodec : codec.Faithful (Written codec valid))
    (h : Holds codec sodium valid file owner secrets) (howner : ∀ p, owner = some p → p = password) :
    ∃ credentials, IsCredentials codec valid credentials ∧ secrets = secretsOf codec credentials ∧
      payloadIn codec sodium password file = .success (payloadOf credentials) := by
  cases h with
  | absent => exact ⟨[], isCredentials_nil, rfl, rfl⟩
  | vault password' credentials bytes hcredentials hsealed =>
    obtain rfl := howner password' rfl
    exact ⟨credentials, hcredentials, rfl, readVault_sealed hsodium hcodec hcredentials hsealed⟩

/-- What an instance with another password reads. -/
theorem Holds.denied (hsodium : sodium.Correct) (hcodec : codec.Faithful (Written codec valid))
    (h : Holds codec sodium valid file owner secrets) {p : QByteArray} (howner : owner = some p)
    (hother : p ≠ password) :
    payloadIn codec sodium password file = .failure deniedError := by
  cases h with
  | absent => cases howner
  | vault password' credentials bytes hcredentials hsealed =>
    obtain rfl := Option.some.inj howner
    exact readVault_sealed_other hsodium hcodec hsealed hother

theorem Call.FailedWith.ok {error : AppError} (h : call.FailedWith error)
    (herror : error.hasError = true) : call.ok = false := by
  cases call with
  | save | load | update | remove =>
    unfold Call.FailedWith at h
    rw [h]
    show (!error.hasError) = false
    rw [herror]
    rfl

theorem Call.Answered.ok (h : call.Answered secrets)
    {change : FiniteMap.Change QString QByteArray} (htarget : call.target = some change) :
    call.ok = true := by
  cases call with
  | load => cases htarget
  | save | update | remove =>
    unfold Call.Answered at h
    rw [h]
    rfl

theorem Call.FailedWith.change (h : call.FailedWith deniedError) : call.change = none := by
  unfold Call.change
  rw [h.ok rfl]
  rfl

theorem Call.Answered.change (h : call.Answered secrets)
    {change : FiniteMap.Change QString QByteArray} (htarget : call.target = some change) :
    call.change = some change := by
  unfold Call.change
  rw [if_pos (h.ok htarget), htarget]

/-- A call of an instance with another password fails, and leaves the file. -/
theorem Holds.performed_other (hsodium : sodium.Correct)
    (hcodec : codec.Faithful (Written codec valid))
    (h : Holds codec sodium valid file owner secrets) {p : QByteArray} (howner : owner = some p)
    (hother : p ≠ password) (hcall : call.Performed codec sodium password False file d) :
    call.FailedWith deniedError ∧ d.file = file := by
  have hpayload := h.denied hsodium hcodec howner hother
  have hrefused : (payloadIn codec sodium password file).ok = false := by rw [hpayload]; rfl
  cases htarget : call.target with
  | none =>
    cases call with
    | load credentialRef result =>
      obtain ⟨rfl, hresult | ⟨hfaults, -⟩⟩ := hcall.loaded hsodium (fun hfaults => hfaults.elim)
      · refine ⟨?_, rfl⟩
        show result = _
        rw [hresult, loadIn_of_refused hrefused, hpayload]
        rfl
      · exact hfaults.elim
    | save | update | remove => cases htarget
  | some change =>
    have hnotok (hok : (payloadIn codec sodium password file).ok = true) :
        ∃ credentials, payloadIn codec sodium password file = .success (payloadOf credentials) :=
      absurd (hrefused.symm.trans hok) Bool.noConfusion
    cases hcall.ended hsodium (fun hfaults => hfaults.elim) hnotok htarget with
    | refused _ hfailed =>
      rw [hpayload] at hfailed
      exact ⟨hfailed, rfl⟩
    | failed _ hfaults => exact hfaults.elim
    | rewritten d credentials bytes hsuccess =>
      rw [hsuccess] at hrefused
      cases hrefused

/-- A call of an instance with the password of the vault is a call of the map. -/
theorem Holds.performed (hsodium : sodium.Correct) (hcodec : codec.Faithful (Written codec valid))
    (h : Holds codec sodium valid file owner secrets) (howner : ∀ p, owner = some p → p = password)
    (hvalid : valid call.credentialRef)
    (hcall : call.Performed codec sodium password False file d) :
    call.Answered secrets ∧
      Holds codec sodium valid d.file (owner.or (call.change.map fun _ => password))
        (FiniteMap.after secrets call.change.toList) := by
  obtain ⟨credentials, hcredentials, rfl, hpayload⟩ := h.payload hsodium hcodec howner
  have hopened : (payloadIn codec sodium password file).ok = true := by rw [hpayload]; rfl
  cases htarget : call.target with
  | none =>
    have hchange : call.change = none := by
      unfold Call.change
      rw [htarget, ite_self]
    rw [hchange, Option.map_none, Option.or_none, Option.toList_none, FiniteMap.after_nil]
    cases call with
    | load credentialRef result =>
      obtain ⟨rfl, rfl | ⟨hfaults, -⟩⟩ := hcall.loaded hsodium (fun hfaults => hfaults.elim)
      · exact ⟨loadIn_of_payloadIn hpayload credentialRef, h⟩
      · exact hfaults.elim
    | save | update | remove => cases htarget
  | some change =>
    cases hcall.ended hsodium (fun hfaults => hfaults.elim) (fun _ => ⟨_, hpayload⟩) htarget with
    | refused hrefused => exact absurd (hrefused.symm.trans hopened) Bool.noConfusion
    | failed _ hfaults => exact hfaults.elim
    | rewritten d credentials' bytes hpayload' hbytes hdisk hanswered =>
      obtain rfl := payloadOf_injective (congrArg Result.value (hpayload'.symm.trans hpayload))
      obtain ⟨hflushed, hlost⟩ := hdisk.flushed not_false
      obtain ⟨stored, hfile, hstored⟩ := hdisk.file
      rw [hlost, List.append_nil] at hstored
      subst hstored
      rw [if_neg (by rw [hflushed]; exact Bool.false_ne_true)] at hanswered
      refine ⟨hanswered, ?_⟩
      rw [hanswered.change htarget, hfile]
      have hkey : valid change.key := Call.key_eq_credentialRef htarget ▸ hvalid
      have hpassword : (owner.or (some password)) = some password := by
        cases howner' : owner with
        | none => rfl
        | some p => rw [Option.some_or, howner p howner']
      have hholds : Holds codec sodium valid (some bytes) (some password) _ :=
        .vault password _ bytes (hcredentials.edit change hkey) hbytes
      rw [secretsOf_edit hcodec.fromBase64] at hholds
      rw [Option.map_some, hpassword]
      exact hholds

/-- An instance has the password of the vault, or another one. -/
theorem owner_cases (owner : Option QByteArray) (password : QByteArray) :
    (∀ p, owner = some p → p = password) ∨ ∃ p, owner = some p ∧ p ≠ password := by
  cases owner with
  | none => exact Or.inl fun p h => absurd h.symm (Option.some_ne_none p)
  | some p =>
    by_cases h : p = password
    · exact Or.inl fun p' hp => (Option.some.inj hp).symm.trans h
    · exact Or.inr ⟨p, rfl, h⟩

/-- What a run leaves in the file. -/
theorem Run.holds (hsodium : sodium.Correct) (hcodec : codec.Faithful (Written codec valid))
    {calls : List (QByteArray × Call)} (h : Run codec sodium False calls file)
    (hvalid : ∀ made ∈ calls, valid made.2.credentialRef) :
    Holds codec sodium valid file (vaultPassword calls) (lastStored calls) := by
  induction h with
  | nil => exact .absent
  | @call calls file password call d hrun hcall ih =>
    obtain ⟨hbefore, hlast⟩ := List.forall_mem_append.1 hvalid
    have hholds := ih hbefore
    rw [vaultPassword_append, lastStored_append]
    rcases owner_cases (vaultPassword calls) password with howner | ⟨p, howner, hother⟩
    · have hvalid : valid call.credentialRef := hlast _ List.mem_cons_self
      exact (hholds.performed hsodium hcodec howner hvalid hcall).2
    · obtain ⟨hfailed, hfile⟩ := hholds.performed_other hsodium hcodec howner hother hcall
      rw [hfailed.change, hfile, Option.map_none, Option.or_none, Option.toList_none,
        FiniteMap.after_nil]
      exact hholds

/-- What can be loaded from a file, and by whom. -/
theorem Holds.loads_iff (hsodium : sodium.Correct) (hcodec : codec.Faithful (Written codec valid))
    (h : Holds codec sodium valid file owner secrets) {ref : QString} {secret : QByteArray} :
    Loads codec sodium password file ref secret ↔
      owner = some password ∧ secrets ref = some secret := by
  rw [EncryptedVaultCredentialStore.loads_iff hsodium]
  rcases owner_cases owner password with howner | ⟨p, howner, hother⟩
  · obtain ⟨credentials, -, hsecrets, hpayload⟩ := h.payload hsodium hcodec howner
    have hload : loadIn codec sodium password file ref = _ := loadIn_of_payloadIn hpayload ref
    rw [hload, ← hsecrets]
    cases hsecret : secrets ref with
    | none =>
      refine iff_of_false (fun hsuccess => ?_) (fun hboth => Option.some_ne_none _ hboth.2.symm)
      cases congrArg Result.ok hsuccess
    | some secret' =>
      have hpassword : owner = some password := by
        cases h with
        | absent => cases hsecret
        | vault p => rw [howner p rfl]
      constructor
      · intro hsuccess
        exact ⟨hpassword, congrArg some (congrArg Result.value hsuccess)⟩
      · rintro ⟨-, hboth⟩
        rw [Option.some.inj hboth]
  · have hpayload := h.denied hsodium hcodec howner hother
    have hrefused : (payloadIn codec sodium password file).ok = false := by rw [hpayload]; rfl
    rw [loadIn_of_refused hrefused, hpayload]
    refine iff_of_false (fun hsuccess => ?_) (fun hboth => ?_)
    · cases congrArg Result.ok hsuccess
    · exact hother (Option.some.inj (howner.symm.trans hboth.1))

/-- What is stored, is stored in a vault. -/
theorem Holds.or_eq (h : Holds codec sodium valid file owner secrets) {ref : QString}
    {secret : QByteArray} (hsecret : secrets ref = some secret) (other : Option QByteArray) :
    owner.or other = owner := by
  cases h with
  | absent => cases hsecret
  | vault => rfl

/-- Loads under other references see nothing of a call. -/
theorem Holds.loads_of_ne (hsodium : sodium.Correct) (hcodec : codec.Faithful (Written codec valid))
    (h : Holds codec sodium valid file owner secrets) {file' : Option QByteArray}
    {made : Option (FiniteMap.Change QString QByteArray)} {ref : QString}
    (hother : ∀ change ∈ made.toList, change.key ≠ ref)
    (h' : Holds codec sodium valid file' (owner.or (made.map fun _ => password))
      (FiniteMap.after secrets made.toList))
    (password' secret : QByteArray) :
    Loads codec sodium password' file' ref secret ↔
      Loads codec sodium password' file ref secret := by
  rw [h'.loads_iff hsodium hcodec, h.loads_iff hsodium hcodec,
    FiniteMap.after_of_forall_ne hother]
  constructor
  · rintro ⟨howner, hsecret⟩
    rw [h.or_eq hsecret] at howner
    exact ⟨howner, hsecret⟩
  · rintro ⟨howner, hsecret⟩
    rw [h.or_eq hsecret]
    exact ⟨howner, hsecret⟩

/-- In a run whose file operations succeed, every call of an instance with the password of
    the vault answers as a call of the map of the secrets last stored does, every other call
    fails and leaves the file, and what is loaded under other references stays. -/
theorem vault_refines_map (hsodium : sodium.Correct)
    (hcodec : codec.Faithful (Written codec valid)) {calls : List (QByteArray × Call)}
    (hrun : Run codec sodium False calls file) (hcalls : ∀ made ∈ calls, valid made.2.credentialRef)
    (hcall : call.Performed codec sodium password False file d) (hvalid : valid call.credentialRef) :
    ((∀ p, vaultPassword calls = some p → p = password) → call.Answered (lastStored calls)) ∧
      (∀ p, vaultPassword calls = some p → p ≠ password →
        call.FailedWith deniedError ∧ d.file = file) ∧
      ∀ ref, ref ≠ call.credentialRef → ∀ password' secret,
        Loads codec sodium password' d.file ref secret ↔
          Loads codec sodium password' file ref secret := by
  have hholds := hrun.holds hsodium hcodec hcalls
  refine ⟨fun howner => (hholds.performed hsodium hcodec howner hvalid hcall).1,
    fun p howner hother => hholds.performed_other hsodium hcodec howner hother hcall, ?_⟩
  intro ref hother password' secret
  rcases owner_cases (vaultPassword calls) password with howner | ⟨p, howner, hdenied⟩
  · have hafter := (hholds.performed hsodium hcodec howner hvalid hcall).2
    refine hholds.loads_of_ne hsodium hcodec ?_ hafter password' secret
    intro change hmem
    have hchange : call.change = some change := Option.mem_toList.1 hmem
    have htarget : call.target = some change := by
      unfold Call.change at hchange
      split at hchange
      · exact hchange
      · cases hchange
    rw [Call.key_eq_credentialRef htarget]
    exact hother.symm
  · rw [(hholds.performed_other hsodium hcodec howner hdenied hcall).2]

end

/-! ### A saved secret -/

/-- The secret `s`, saved under the password 1. -/
def savedCall : QByteArray × Call :=
  ([1], .save [] (qStringLiteral "0") [115] (.success (credentialRefOf [] (qStringLiteral "0"))))

/-- The vault that holds it. -/
def savedText : QByteArray :=
  vaultText VaultText.vaultCodec .labelled (List.replicate 16 0) (List.replicate 24 0) [1]
    (payloadOf (edit VaultText.vaultCodec ⟨credentialRefOf [] (qStringLiteral "0"), some [115]⟩ []))

theorem savedCall_performed :
    savedCall.2.Performed VaultText.vaultCodec .labelled savedCall.1 False none
      { file := some savedText, truncated := true } := by
  let events : List (Event disk) := [⟨.createUuid, qStringLiteral "0"⟩, ⟨.fileExists, false⟩,
    ⟨.randomBytes 16, List.replicate 16 (0 : UInt8)⟩,
    ⟨.randomBytes 24, List.replicate 24 (0 : UInt8)⟩, ⟨.makePath, true⟩, ⟨.truncate, true⟩,
    ⟨.write savedText, (savedText.length : ℤ)⟩, ⟨.flush, true⟩]
  refine ⟨events, ⟨⟨_, rfl⟩, ?_⟩, ?_⟩
  · exact .ask _ (.ask _ (.ask _ (.ask _ (.ask _ (.ask _ (.ask _ (.ask _ (.pure _))))))))
  · refine ⟨_, rfl, _, ⟨rfl, rfl⟩, _, ⟨rfl, rfl⟩, _, ⟨rfl, rfl⟩, _, ⟨Or.inl rfl, rfl⟩, _, rfl, _,
      ⟨savedText, [], [], ?_, Or.inl ⟨rfl, rfl⟩, rfl⟩, _, ⟨[], [], rfl, Or.inl ⟨rfl, rfl⟩, rfl⟩, ?_⟩
    · exact (List.append_nil savedText).symm
    · show ({ file := some savedText, truncated := true } : Disk) =
        { file := some (savedText ++ []), truncated := true }
      rw [List.append_nil]

theorem savedCall_run : Run VaultText.vaultCodec .labelled False [savedCall] (some savedText) :=
  .call _ _ _ .nil savedCall_performed

/-- The instance that saved the secret loads it; an instance with another password does
    not. -/
theorem vault_refines_map_saved :
    (∀ result d, (Call.load (credentialRefOf [] (qStringLiteral "0")) result).Performed
      VaultText.vaultCodec .labelled [1] False (some savedText) d → result = .success [115]) ∧
    ∀ result d, (Call.load (credentialRefOf [] (qStringLiteral "0")) result).Performed
      VaultText.vaultCodec .labelled [2] False (some savedText) d →
        result = .failure deniedError ∧ d.file = some savedText := by
  have hvalid : VaultText.Plain (credentialRefOf [] (qStringLiteral "0")) := by decide
  have hcalls : ∀ made ∈ [savedCall], VaultText.Plain made.2.credentialRef :=
    List.forall_mem_singleton.2 hvalid
  constructor
  · intro result d hcall
    obtain ⟨hanswered, -⟩ := vault_refines_map Sodium.labelled_correct
      VaultText.vaultCodec_faithful savedCall_run hcalls hcall hvalid
    exact hanswered fun p hp => (Option.some.inj hp).symm
  · intro result d hcall
    obtain ⟨-, hother, -⟩ := vault_refines_map Sodium.labelled_correct
      VaultText.vaultCodec_faithful savedCall_run hcalls hcall hvalid
    exact hother [1] rfl (by decide)

end SmbBrowser.Credentials.EncryptedVaultCredentialStore

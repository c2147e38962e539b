import SmbBrowser.Core.PathNormalizer

/-!
# User name and domain

`PathNormalizer::normalizeIdentity` (core/PathNormalizer.cpp:98) takes a domain from the
user name, from `DOMAIN\user` or from `user@domain`.  Only the first separator of a user
name is looked at, so a second one is left for the next call.

Results:
* `normalizeIdentity_cases`: the separator an accepted identity was parsed at;
* `length_separated`: a user name that held a separator is shorter without its domain;
* `normalizeIdentity_idempotent_iff`: when an accepted identity is accepted again as it is.
-/

namespace SmbBrowser.Core

open SmbBrowser.Qt

/-- `@`. -/
abbrev atSign : QChar := 0x40

/-- `QString::indexOf(QChar)`. -/
def indexOf (text : QString) (c : QChar) : ℤ := if c ∈ text then (text.idxOf c : ℤ) else -1

/-- `ParsedIdentity` (PathNormalizer.h:18). -/
structure ParsedIdentity where
  authType : AuthType := .password
  domain : QString := []
  username : QString := []
  deriving DecidableEq

instance : Inhabited ParsedIdentity := ⟨{}⟩

namespace PathNormalizer

/-- `invalidIdentity` (PathNormalizer.cpp:21). -/
def invalidIdentity (details : QString) : Result ParsedIdentity :=
  .failure (.fromCode .invalidPath .validation details)

/-- The text before a separator, `text.left(index).trimmed()`. -/
def leftOf (text : QString) (index : ℤ) : QString := QString.trimmed (text.take index.toNat)

/-- The text behind a separator, `text.mid(index + 1).trimmed()`. -/
def rightOf (text : QString) (index : ℤ) : QString := QString.trimmed (text.drop (index + 1).toNat)

/-- `!domain.isEmpty() && domain.compare(parsedDomain, Qt::CaseInsensitive) != 0`. -/
def conflicts (tables : CaseTables) (domain parsedDomain : QString) : Bool :=
  !domain.isEmpty && !tables.sameIgnoringCase domain parsedDomain

/-- `PathNormalizer::normalizeIdentity` (PathNormalizer.cpp:98). -/
def normalizeIdentity (tables : CaseTables) (authType : AuthType)
    (usernameInput domainInput : QString) : Result ParsedIdentity :=
  if authType = .guest ∨ authType = .anonymous ∨ authType = .currentUser then
    .success { authType, domain := domainInput.trimmed, username := usernameInput.trimmed }
  else
    let username := usernameInput.trimmed
    let domain := domainInput.trimmed
    if username.isEmpty then
      invalidIdentity (qStringLiteral "Username is required for password authentication.")
    else
      let slashIndex := indexOf username backslash
      let atIndex := indexOf username atSign
      if 0 < slashIndex then
        let parsedDomain := leftOf username slashIndex
        let parsedUsername := rightOf username slashIndex
        if parsedUsername.isEmpty then
          invalidIdentity (qStringLiteral "Username part is empty.")
        else if conflicts tables domain parsedDomain then
          invalidIdentity (qStringLiteral "Explicit domain conflicts with username domain.")
        else
          .success { authType, domain := parsedDomain, username := parsedUsername }
      else if 0 < atIndex then
        let parsedUsername := leftOf username atIndex
        let parsedDomain := rightOf username atIndex
        if parsedUsername.isEmpty || parsedDomain.isEmpty then
          invalidIdentity (qStringLiteral "User principal name is incomplete.")
        else if conflicts tables domain parsedDomain then
          invalidIdentity (qStringLiteral "Explicit domain conflicts with username domain.")
        else
          .success { authType, domain := parsedDomain, username := parsedUsername }
      else
        .success { authType, domain, username }

/-! ## Trimmed texts -/

section

variable {s text : QString} {c : QChar} {n : ℕ} {index : ℤ}

/-- The text before a separator of a trimmed text starts as that text does. -/
theorem leftOf_starts (h : text.trimmed = text) : leftOf text index <+: text := by
  have htake : (text.take index.toNat).dropWhile QChar.isSpace = text.take index.toNat := by
    cases text with
    | nil => simp
    | cons c rest =>
      have hc : QChar.isSpace c = false := by
        have hhead := head_trimmed (s := c :: rest) (by rw [h]; exact List.cons_ne_nil _ _)
        simpa only [h, List.head_cons] using hhead
      cases index.toNat with
      | zero => rfl
      | succ n => exact List.dropWhile_cons_of_neg (by rw [hc]; exact Bool.false_ne_true)
  have hstarts : leftOf text index <+: (text.take index.toNat).dropWhile QChar.isSpace :=
    List.rdropWhile_prefix _ _
  rw [htake] at hstarts
  exact hstarts.trans (List.take_prefix _ _)

theorem length_leftOf_le : (leftOf text index).length ≤ index.toNat :=
  (length_trimmed_le _).trans (List.length_take_le _ _)

theorem length_rightOf_lt (hne : text ≠ []) (h : 0 < index) :
    (rightOf text index).length < text.length := by
  have hle := length_trimmed_le (text.drop (index + 1).toNat)
  have hpos := List.length_pos_iff.2 hne
  rw [List.length_drop] at hle
  rw [rightOf]
  omega

theorem mem_of_indexOf_pos (h : 0 < indexOf text c) : c ∈ text := by
  unfold indexOf at h
  split at h
  · assumption
  · omega

theorem indexOf_lt (h : 0 < indexOf text c) : (indexOf text c).toNat < text.length := by
  have hmem := mem_of_indexOf_pos h
  rw [indexOf, if_pos hmem, Int.toNat_natCast]
  exact List.idxOf_lt_length_of_mem hmem

/-- The first occurrence in a front part is the first occurrence. -/
theorem indexOf_of_starts (h : s <+: text) (hpos : 0 < indexOf s c) :
    indexOf text c = indexOf s c := by
  have hmem := mem_of_indexOf_pos hpos
  rw [indexOf, indexOf, if_pos hmem, if_pos (h.subset hmem)]
  obtain ⟨rest, rfl⟩ := h
  rw [List.idxOf_append_of_mem hmem]

/-- Before the first occurrence there is none. -/
theorem not_mem_leftOf : c ∉ leftOf text (indexOf text c) := by
  intro h
  have hmem : c ∈ text.take (indexOf text c).toNat := mem_of_mem_trimmed h
  have htext : c ∈ text := List.mem_of_mem_take hmem
  rw [indexOf, if_pos htext, Int.toNat_natCast] at hmem
  obtain ⟨i, hi, hget⟩ := List.mem_iff_getElem.1 hmem
  rw [List.length_take] at hi
  rw [List.getElem_take] at hget
  have hlt : i < text.findIdx (· == c) := lt_of_lt_of_le hi (min_le_left _ _)
  have hother : (text[i] == c) = false := List.not_of_lt_findIdx hlt
  rw [hget, beq_self_eq_true] at hother
  cases hother

end

/-! ## What is accepted -/

section

variable {tables : CaseTables} {authType : AuthType} {usernameInput domainInput : QString}
  {identity : ParsedIdentity}

theorem not_ok_invalidIdentity {details : QString} :
    ¬ ((invalidIdentity details).ok = true ∧ (invalidIdentity details).value = identity) :=
  fun h => Bool.false_ne_true h.1

/-- The separator an accepted identity was parsed at, and the identity. -/
theorem normalizeIdentity_cases
    (h : (normalizeIdentity tables authType usernameInput domainInput).ok = true ∧
      (normalizeIdentity tables authType usernameInput domainInput).value = identity) :
    (authType ≠ .password ∧ identity = ⟨authType, domainInput.trimmed, usernameInput.trimmed⟩) ∨
    (authType = .password ∧ usernameInput.trimmed ≠ [] ∧
      ((0 < indexOf usernameInput.trimmed backslash ∧
          rightOf usernameInput.trimmed (indexOf usernameInput.trimmed backslash) ≠ [] ∧
          identity = ⟨authType,
            leftOf usernameInput.trimmed (indexOf usernameInput.trimmed backslash),
            rightOf usernameInput.trimmed (indexOf usernameInput.trimmed backslash)⟩) ∨
        (¬ 0 < indexOf usernameInput.trimmed backslash ∧
          0 < indexOf usernameInput.trimmed atSign ∧
          leftOf usernameInput.trimmed (indexOf usernameInput.trimmed atSign) ≠ [] ∧
          identity = ⟨authType,
            rightOf usernameInput.trimmed (indexOf usernameInput.trimmed atSign),
            leftOf usernameInput.trimmed (indexOf usernameInput.trimmed atSign)⟩) ∨
        (¬ 0 < indexOf usernameInput.trimmed backslash ∧
          ¬ 0 < indexOf usernameInput.trimmed atSign ∧
          identity = ⟨authType, domainInput.trimmed, usernameInput.trimmed⟩))) := by
  unfold normalizeIdentity at h
  dsimp only at h
  split at h
  · next hother =>
    refine .inl ⟨?_, h.2.symm⟩
    rintro rfl
    simp at hother
  next hpassword =>
  have hauth : authType = .password := by
    cases authType <;> simp_all
  split at h
  · exact absurd h not_ok_invalidIdentity
  next hne =>
  refine .inr ⟨hauth, fun hnil => hne (List.isEmpty_iff.2 hnil), ?_⟩
  split at h
  · next hslash =>
    split at h
    · exact absurd h not_ok_invalidIdentity
    next hright =>
    split at h
    · exact absurd h not_ok_invalidIdentity
    exact .inl ⟨hslash, fun hnil => hright (List.isEmpty_iff.2 hnil), h.2.symm⟩
  next hslash =>
  split at h
  · next hat =>
    split at h
    · exact absurd h not_ok_invalidIdentity
    next hparts =>
    split at h
    · exact absurd h not_ok_invalidIdentity
    refine .inr (.inl ⟨hslash, hat, fun hnil => hparts ?_, h.2.symm⟩)
    rw [hnil]
    rfl
  next hat =>
  exact .inr (.inr ⟨hslash, hat, h.2.symm⟩)

/-- A user name without separators is taken as it is. -/
theorem normalizeIdentity_plain (husername : usernameInput.trimmed = usernameInput)
    (hdomain : domainInput.trimmed = domainInput)
    (hplain : authType = .password → usernameInput ≠ [] ∧
      ¬ 0 < indexOf usernameInput backslash ∧ ¬ 0 < indexOf usernameInput atSign) :
    normalizeIdentity tables authType usernameInput domainInput =
      .success ⟨authType, domainInput, usernameInput⟩ := by
  unfold normalizeIdentity
  rw [husername, hdomain]
  split
  · rfl
  next hpassword =>
  have hauth : authType = .password := by
    cases authType <;> simp_all
  obtain ⟨hne, hslash, hat⟩ := hplain hauth
  dsimp only
  rw [if_neg (fun hnil => hne (List.isEmpty_iff.1 hnil)), if_neg hslash, if_neg hat]

/-- A user name that held a separator is shorter without its domain. -/
theorem length_separated
    (h : (normalizeIdentity tables .password usernameInput domainInput).ok = true ∧
      (normalizeIdentity tables .password usernameInput domainInput).value = identity)
    (hseparated : 0 < indexOf usernameInput.trimmed backslash ∨
      0 < indexOf usernameInput.trimmed atSign) :
    identity.username.length < usernameInput.trimmed.length := by
  obtain ⟨hother, -⟩ | ⟨-, hne, hparsed⟩ := normalizeIdentity_cases h
  · exact absurd rfl hother
  obtain ⟨hslash, -, rfl⟩ | ⟨-, hat, -, rfl⟩ | ⟨hslash, hat, -⟩ := hparsed
  · exact length_rightOf_lt hne hslash
  · exact lt_of_le_of_lt length_leftOf_le (indexOf_lt hat)
  · exact absurd hseparated (not_or.2 ⟨hslash, hat⟩)

end

/-! ## Idempotence -/

/-- Behind the first backslash of a user name there is a second separator. -/
def TwiceSeparated (username : QString) : Prop :=
  0 < indexOf username backslash ∧
    (0 < indexOf (rightOf username (indexOf username backslash)) backslash ∨
      0 < indexOf (rightOf username (indexOf username backslash)) atSign)

instance : DecidablePred TwiceSeparated := fun _ => inferInstanceAs (Decidable (_ ∧ _))

section

variable {tables : CaseTables} {authType : AuthType} {usernameInput domainInput : QString}

/-- An identity is accepted again as it is. -/
def Settled (tables : CaseTables) (identity : ParsedIdentity) : Prop :=
  (normalizeIdentity tables identity.authType identity.username identity.domain).ok = true ∧
    (normalizeIdentity tables identity.authType identity.username identity.domain).value = identity

theorem settled_plain {identity : ParsedIdentity}
    (husername : identity.username.trimmed = identity.username)
    (hdomain : identity.domain.trimmed = identity.domain)
    (hplain : identity.authType = .password → identity.username ≠ [] ∧
      ¬ 0 < indexOf identity.username backslash ∧ ¬ 0 < indexOf identity.username atSign) :
    Settled tables identity := by
  unfold Settled
  rw [normalizeIdentity_plain husername hdomain hplain]
  exact ⟨rfl, rfl⟩

/-- An accepted identity is accepted again as it is, unless its user name was taken from
    behind a backslash and holds another separator. -/
theorem normalizeIdentity_idempotent_iff
    (h : (normalizeIdentity tables authType usernameInput domainInput).ok = true) :
    Settled tables (normalizeIdentity tables authType usernameInput domainInput).value ↔
      ¬ (authType = .password ∧ TwiceSeparated usernameInput.trimmed) := by
  generalize hidentity :
    (normalizeIdentity tables authType usernameInput domainInput).value = identity
  obtain ⟨hother, rfl⟩ | ⟨rfl, hne, hparsed⟩ := normalizeIdentity_cases ⟨h, hidentity⟩
  · refine iff_of_true (settled_plain ?_ ?_ fun hauth => absurd hauth hother) fun hboth =>
      hother hboth.1
    · exact trimmed_trimmed _
    · exact trimmed_trimmed _
  obtain ⟨hslash, hright, rfl⟩ | ⟨hslash, hat, hleft, rfl⟩ | ⟨hslash, hat, rfl⟩ := hparsed
  · -- DOMAIN\user: the user name is parsed once more.
    have htrimmed : ∀ index, (rightOf usernameInput.trimmed index).trimmed =
        rightOf usernameInput.trimmed index := fun index => trimmed_trimmed _
    constructor
    · rintro hsettled ⟨-, -, hseparated⟩
      have hlt := length_separated hsettled (by rwa [htrimmed])
      rw [htrimmed] at hlt
      exact lt_irrefl _ hlt
    · intro honce
      refine settled_plain (htrimmed _) (trimmed_trimmed _) fun _ => ⟨hright, ?_, ?_⟩
      · exact fun hsecond => honce ⟨rfl, hslash, .inl hsecond⟩
      · exact fun hsecond => honce ⟨rfl, hslash, .inr hsecond⟩
  · -- user@domain: there is no separator before the first @.
    refine iff_of_true (settled_plain (trimmed_trimmed _) (trimmed_trimmed _) fun _ =>
      ⟨hleft, fun hsecond => hslash ?_, fun hsecond => ?_⟩) fun hboth => hslash hboth.2.1
    · rwa [indexOf_of_starts (leftOf_starts (trimmed_trimmed _)) hsecond]
    · exact not_mem_leftOf (mem_of_indexOf_pos hsecond)
  · exact iff_of_true (settled_plain (trimmed_trimmed _) (trimmed_trimmed _) fun _ =>
      ⟨hne, hslash, hat⟩) fun hboth => hslash hboth.2.1

end

/-- `CORP\alice` is accepted again. -/
theorem normalizeIdentity_idempotent_alice :
    Settled .ascii
      (normalizeIdentity .ascii .password (qStringLiteral "CORP\\alice") []).value :=
  (normalizeIdentity_idempotent_iff (by decide)).2 (by decide)

/-- The domain of `CORP\alice@corp.example` is `CORP`, and the next call takes it for a
    conflict with `corp.example`. -/
theorem not_normalizeIdentity_idempotent :
    ¬ ∀ (tables : CaseTables) (authType : AuthType) (usernameInput domainInput : QString),
      (normalizeIdentity tables authType usernameInput domainInput).ok = true →
        Settled tables (normalizeIdentity tables authType usernameInput domainInput).value := by
  intro h
  have hsettled := h .ascii .password (qStringLiteral "CORP\\alice@corp.example") []
    (by decide)
  exact absurd hsettled.1 (by decide)

end PathNormalizer

end SmbBrowser.Core

import SmbBrowser.Credentials.Vault
import SmbBrowser.Qt.Base64

/-!
# The text of a vault

Compact JSON of the documents that the vault store writes, with references in printable
ASCII that JSON does not escape.  Nothing else in such a document is a quote, so its texts
are what stands between the quotes.

Results:
* `vaultCodec_faithful`: the documents are read as they were written;
* `vaultCodec_rejectsParts`: a vault that breaks off is not read.
-/

namespace SmbBrowser.Credentials.VaultText

open SmbBrowser.Qt EncryptedVaultCredentialStore

/-- Texts that are written without escapes. -/
def Plain (s : QString) : Prop := ∀ c ∈ s, 32 ≤ c ∧ c < 127 ∧ c ≠ 34 ∧ c ≠ 92

instance (s : QString) : Decidable (Plain s) :=
  List.decidableBAll (fun c => 32 ≤ c ∧ c < 127 ∧ c ≠ 34 ∧ c ≠ 92) s

def quote : QChar := 34

/-- What stands between the quotes of entries that are texts, with `close` after the last
    of them, which may be a number. -/
def entryTexts (close : QString) : JsonObject → List QString
  | [] => [close]
  | [(key, .number n)] => [key, qStringLiteral ":" ++ qStringLiteral (toString n.num) ++ close]
  | [(key, value)] => [key, qStringLiteral ":", JsonValue.toString (some value), close]
  | (key, value) :: entries =>
    key :: qStringLiteral ":" :: JsonValue.toString (some value) :: qStringLiteral "," ::
      entryTexts close entries

/-- The entries between whose quotes the texts stand; the only number is 1. -/
def readEntries (close : QString) : List QString → Option JsonObject
  | [key, last] =>
    if last = qStringLiteral ":1" ++ close then some [(key, .number 1)] else none
  | [key, colon, value, last] =>
    if colon = qStringLiteral ":" ∧ last = close then some [(key, .string value)] else none
  | key :: colon :: value :: comma :: texts =>
    if colon = qStringLiteral ":" ∧ comma = qStringLiteral "," then
      (readEntries close texts).map fun entries => (key, .string value) :: entries
    else none
  | _ => none

/-- The texts of a document. -/
def texts (o : JsonObject) : List QString :=
  match o.value (qStringLiteral "credentials") with
  | some (.object []) =>
    [qStringLiteral "\x7b", qStringLiteral "credentials", qStringLiteral ":\x7b\x7d\x7d"]
  | some (.object credentials) =>
    qStringLiteral "\x7b" :: qStringLiteral "credentials" :: qStringLiteral ":\x7b" ::
      entryTexts (qStringLiteral "\x7d\x7d") credentials
  | _ => qStringLiteral "\x7b" :: entryTexts (qStringLiteral "\x7d") o

/-- The document with the texts. -/
def readTexts (texts : List QString) : Option JsonObject :=
  match texts with
  | start :: name :: colon :: entries =>
    if start ≠ qStringLiteral "\x7b" then none
    else if name ≠ qStringLiteral "credentials" then
      readEntries (qStringLiteral "\x7d") (name :: colon :: entries)
    else if colon = qStringLiteral ":\x7b\x7d\x7d" ∧ entries = [] then some (payloadOf [])
    else if colon = qStringLiteral ":\x7b" then
      (readEntries (qStringLiteral "\x7d\x7d") entries).map payloadOf
    else none
  | _ => none

/-- A document of the store, written and read; it ends with a brace. -/
def vaultCodec : Codec where
  toJson _ o := ([quote].intercalate (texts o)).map UInt16.toUInt8
  fromJson bytes :=
    if bytes.getLast? = some 125 then
      match readTexts ((bytes.map UInt8.toUInt16).splitOn quote) with
      | some o => .ok (.object o)
      | none => .error (qStringLiteral "illegal value")
    else .error (qStringLiteral "unterminated object")
  toBase64 := Base64.toBase64
  fromBase64 := Base64.fromBase64

/-! ## Reading what was written -/

/-- Entries that are texts, of which the last may be the number 1. -/
inductive Flat : JsonObject → Prop
  | number (key : QString) : Flat [(key, .number 1)]
  | text (key value : QString) : Flat [(key, .string value)]
  | cons (key value : QString) {o : JsonObject} (h : Flat o) : Flat ((key, .string value) :: o)

theorem Flat.ne_nil {o : JsonObject} (h : Flat o) : o ≠ [] := by
  cases h <;> exact List.cons_ne_nil _ _

theorem entryTexts_cons {close key value : QString} {o : JsonObject} (h : o ≠ []) :
    entryTexts close ((key, .string value) :: o) =
      key :: qStringLiteral ":" :: value :: qStringLiteral "," :: entryTexts close o := by
  cases o with
  | nil => exact absurd rfl h
  | cons entry entries => rfl

theorem entryTexts_ne_nil {close : QString} {o : JsonObject} : entryTexts close o ≠ [] := by
  unfold entryTexts
  split <;> exact List.cons_ne_nil _ _

theorem readEntries_cons {close key value : QString} {texts : List QString} (h : texts ≠ []) :
    readEntries close (key :: qStringLiteral ":" :: value :: qStringLiteral "," :: texts) =
      (readEntries close texts).map fun entries => (key, .string value) :: entries := by
  cases texts with
  | nil => exact absurd rfl h
  | cons text texts => exact if_pos ⟨rfl, rfl⟩

theorem readEntries_entryTexts {close : QString} {o : JsonObject} (h : Flat o) :
    readEntries close (entryTexts close o) = some o := by
  induction h with
  | number key => exact if_pos rfl
  | text key value => exact if_pos ⟨rfl, rfl⟩
  | cons key value h ih =>
    rw [entryTexts_cons h.ne_nil, readEntries_cons entryTexts_ne_nil, ih]
    rfl

/-! ## The documents of the store -/

section

variable {valid : QString → Prop}

/-- The entries of a vault, in order. -/
theorem vaultObject_eq (salt nonce ciphertext : QByteArray) :
    vaultObject vaultCodec salt nonce ciphertext =
      [(qStringLiteral "cipher", .string (qStringLiteral "crypto_secretbox")),
        (qStringLiteral "ciphertext", .string (Base64.toBase64 ciphertext)),
        (qStringLiteral "kdf", .string (qStringLiteral "libsodium-crypto_pwhash")),
        (qStringLiteral "nonce", .string (Base64.toBase64 nonce)),
        (qStringLiteral "salt", .string (Base64.toBase64 salt)),
        (qStringLiteral "version", .number 1)] := rfl

theorem vaultObject_credentials (salt nonce ciphertext : QByteArray) :
    JsonObject.value (vaultObject vaultCodec salt nonce ciphertext)
      (qStringLiteral "credentials") = none := by
  unfold vaultObject
  rw [JsonObject.value_insert, if_neg (by decide), JsonObject.value_insert, if_neg (by decide),
    JsonObject.value_insert, if_neg (by decide), JsonObject.value_insert, if_neg (by decide),
    JsonObject.value_insert, if_neg (by decide), JsonObject.value_insert, if_neg (by decide)]
  rfl

theorem flat_vaultObject (salt nonce ciphertext : QByteArray) :
    Flat (vaultObject vaultCodec salt nonce ciphertext) := by
  rw [vaultObject_eq]
  exact .cons _ _ (.cons _ _ (.cons _ _ (.cons _ _ (.cons _ _ (.number _)))))

theorem flat_credentials {credentials : JsonObject}
    (h : IsCredentials vaultCodec valid credentials) (hne : credentials ≠ []) :
    Flat credentials := by
  have hentries := h.entries
  clear h
  induction credentials with
  | nil => exact absurd rfl hne
  | cons entry entries ih =>
    obtain ⟨key, value⟩ := entry
    obtain ⟨hentry, hrest⟩ := List.forall_mem_cons.1 hentries
    obtain ⟨-, secret, rfl⟩ := hentry
    cases entries with
    | nil => exact .text _ _
    | cons entry entries => exact .cons _ _ (ih (List.cons_ne_nil _ _) hrest)

theorem value_payloadOf (credentials : JsonObject) :
    JsonObject.value (payloadOf credentials) (qStringLiteral "credentials") =
      some (.object credentials) := by
  rw [payloadOf, JsonObject.value_insert, if_pos rfl]

theorem readTexts_payload {credentials : JsonObject}
    (h : IsCredentials vaultCodec valid credentials) :
    readTexts (texts (payloadOf credentials)) = some (payloadOf credentials) := by
  unfold texts readTexts
  rw [value_payloadOf]
  cases credentials with
  | nil =>
    dsimp only
    rw [if_neg (not_not_intro rfl), if_neg (not_not_intro rfl), if_pos ⟨rfl, rfl⟩]
  | cons entry entries =>
    have hflat := flat_credentials h (List.cons_ne_nil _ _)
    have hcolon : ¬(qStringLiteral ":\x7b" = qStringLiteral ":\x7b\x7d\x7d" ∧
        entryTexts (qStringLiteral "\x7d\x7d") (entry :: entries) = []) := by
      rintro ⟨-, hnil⟩
      exact entryTexts_ne_nil hnil
    dsimp only
    rw [if_neg (not_not_intro rfl), if_neg (not_not_intro rfl), if_neg hcolon, if_pos rfl,
      readEntries_entryTexts hflat]
    rfl

theorem entryTexts_key {close : QString} {o : JsonObject} (h : Flat o)
    (hvalue : o.value (qStringLiteral "credentials") = none) :
    ∃ key colon rest, entryTexts close o = key :: colon :: rest ∧
      key ≠ qStringLiteral "credentials" := by
  have hkey (entry : QString × JsonValue) (rest : JsonObject) (ho : o = entry :: rest) :
      entry.1 ≠ qStringLiteral "credentials" := by
    intro hentry
    rw [ho, JsonObject.value_cons, if_pos hentry] at hvalue
    exact Option.some_ne_none _ hvalue
  cases h with
  | number key => exact ⟨_, _, _, rfl, hkey _ _ rfl⟩
  | text key value => exact ⟨_, _, _, rfl, hkey _ _ rfl⟩
  | cons key value h => exact ⟨_, _, _, entryTexts_cons h.ne_nil, hkey _ _ rfl⟩

theorem readTexts_flat {o : JsonObject} (h : Flat o)
    (hvalue : o.value (qStringLiteral "credentials") = none) :
    readTexts (texts o) = some o := by
  obtain ⟨key, colon, rest, htexts, hkey⟩ := @entryTexts_key (qStringLiteral "\x7d") o h hvalue
  have hread := @readEntries_entryTexts (qStringLiteral "\x7d") o h
  unfold texts readTexts
  rw [hvalue]
  rw [htexts] at hread ⊢
  dsimp only
  rw [if_neg (not_not_intro rfl), if_pos hkey]
  exact hread

theorem readTexts_vault (salt nonce ciphertext : QByteArray) :
    readTexts (texts (vaultObject vaultCodec salt nonce ciphertext)) =
      some (vaultObject vaultCodec salt nonce ciphertext) :=
  readTexts_flat (flat_vaultObject salt nonce ciphertext)
    (vaultObject_credentials salt nonce ciphertext)

end

/-! ## Bytes -/

/-- A text over the characters of `P`, and none of them a quote. -/
def Over (P : QChar → Prop) (s : QString) : Prop := ∀ c ∈ s, c < 128 ∧ c ≠ quote ∧ P c

instance (P : QChar → Prop) [DecidablePred P] (s : QString) : Decidable (Over P s) :=
  List.decidableBAll (fun c => c < 128 ∧ c ≠ quote ∧ P c) s

section

variable {P : QChar → Prop} {s t : QString}

theorem Over.append (hs : Over P s) (ht : Over P t) : Over P (s ++ t) :=
  List.forall_mem_append.2 ⟨hs, ht⟩

theorem over_nil : Over P [] := fun _ h => absurd h List.not_mem_nil

theorem mem_intercalate {texts : List QString} {c : QChar} (h : c ∈ [quote].intercalate texts) :
    c = quote ∨ ∃ text ∈ texts, c ∈ text := by
  induction texts with
  | nil => exact absurd h List.not_mem_nil
  | cons text texts ih =>
    by_cases hne : texts = []
    · subst hne
      rw [List.intercalate_singleton] at h
      exact Or.inr ⟨text, List.mem_cons_self, h⟩
    · rw [List.intercalate_cons_of_ne_nil hne, List.append_assoc] at h
      rcases List.mem_append.1 h with h | h
      · exact Or.inr ⟨text, List.mem_cons_self, h⟩
      · rcases List.mem_append.1 h with h | h
        · exact Or.inl (List.mem_singleton.1 h)
        · refine (ih h).imp_right ?_
          rintro ⟨text', hmem, hc⟩
          exact ⟨text', List.mem_cons_of_mem _ hmem, hc⟩

/-- What is joined ends as its last text does. -/
theorem intercalate_append (init : List QString) (t close : QString) :
    [quote].intercalate (init ++ [t ++ close]) = [quote].intercalate (init ++ [t]) ++ close := by
  induction init with
  | nil => simp
  | cons text init ih =>
    have hne (s : QString) : init ++ [s] ≠ [] := List.append_ne_nil_of_right_ne_nil _ (by simp)
    rw [List.cons_append, List.cons_append, List.intercalate_cons_of_ne_nil (hne _),
      List.intercalate_cons_of_ne_nil (hne _), ih]
    simp only [List.append_assoc]

theorem toUInt16_toUInt8 {c : QChar} (h : c < 128) : c.toUInt8.toUInt16 = c := by
  rw [UInt16.toUInt16_toUInt8]
  apply UInt16.toNat_inj.1
  have hlt : c.toNat < 128 := UInt16.lt_iff_toNat_lt.1 h
  rw [UInt16.toNat_mod]
  exact Nat.mod_eq_of_lt (by simp; omega)

end

/-- The texts of a document end with its brace. -/
def Ends (P : QChar → Prop) (texts : List QString) : Prop :=
  ∃ init t, texts = init ++ [t ++ qStringLiteral "\x7d"] ∧ ∀ text ∈ init ++ [t], Over P text

section

variable {P : QChar → Prop}

theorem Ends.cons {text : QString} {texts : List QString} (htext : Over P text)
    (h : Ends P texts) : Ends P (text :: texts) := by
  obtain ⟨init, t, rfl, hover⟩ := h
  exact ⟨text :: init, t, rfl, List.forall_mem_cons.2 ⟨htext, hover⟩⟩

theorem ends_entryTexts {close : QString} (hclose : Over P close)
    (hcolon : Over P (qStringLiteral ":")) (hcomma : Over P (qStringLiteral ","))
    (hone : Over P (qStringLiteral "1")) {o : JsonObject} (h : Flat o)
    (hentries : ∀ entry ∈ o, Over P entry.1 ∧ Over P (JsonValue.toString (some entry.2))) :
    Ends P (entryTexts (close ++ qStringLiteral "\x7d") o) := by
  induction h with
  | number key =>
    obtain ⟨hkey, -⟩ := hentries _ List.mem_cons_self
    have hnumber : qStringLiteral (toString (1 : ℚ).num) = qStringLiteral "1" := rfl
    refine Ends.cons hkey ⟨[], qStringLiteral ":" ++ qStringLiteral "1" ++ close, ?_, ?_⟩
    · rw [hnumber, List.append_assoc, List.append_assoc, List.append_assoc, List.nil_append]
    · exact List.forall_mem_singleton.2 ((hcolon.append hone).append hclose)
  | text key value =>
    obtain ⟨hkey, hvalue⟩ := hentries _ List.mem_cons_self
    have hlast : Ends P [close ++ qStringLiteral "\x7d"] :=
      ⟨[], close, rfl, List.forall_mem_singleton.2 hclose⟩
    exact .cons hkey (.cons hcolon (.cons hvalue hlast))
  | cons key value h ih =>
    obtain ⟨hentry, hrest⟩ := List.forall_mem_cons.1 hentries
    rw [entryTexts_cons h.ne_nil]
    exact .cons hentry.1 (.cons hcolon (.cons hentry.2 (.cons hcomma (ih hrest))))

/-- The bytes of a document, as the reader sees them. -/
theorem Ends.read {o : JsonObject} (h : Ends P (texts o)) (hread : readTexts (texts o) = some o)
    (format : JsonFormat) : vaultCodec.fromJson (vaultCodec.toJson format o) = .ok (.object o) := by
  obtain ⟨init, t, htexts, hover⟩ := h
  have hover' : ∀ text ∈ texts o, ∀ c ∈ text, c < 128 ∧ c ≠ quote := by
    rw [htexts]
    obtain ⟨hinit, ht⟩ := List.forall_mem_append.1 hover
    refine List.forall_mem_append.2 ⟨fun text hmem c hc => ?_, ?_⟩
    · exact ⟨(hinit text hmem c hc).1, (hinit text hmem c hc).2.1⟩
    · have hbrace : Over (fun _ => True) (qStringLiteral "\x7d") := by decide
      have ht' : Over P t := List.forall_mem_singleton.1 ht
      refine List.forall_mem_singleton.2 (List.forall_mem_append.2 ⟨?_, ?_⟩)
      · exact fun c hc => ⟨(ht' c hc).1, (ht' c hc).2.1⟩
      · exact fun c hc => ⟨(hbrace c hc).1, (hbrace c hc).2.1⟩
  have hlast : (vaultCodec.toJson format o).getLast? = some 125 := by
    show (([quote].intercalate (texts o)).map UInt16.toUInt8).getLast? = some 125
    rw [htexts, intercalate_append, List.map_append]
    exact List.getLast?_concat
  have hbytes : (vaultCodec.toJson format o).map UInt8.toUInt16 = [quote].intercalate (texts o) := by
    show (([quote].intercalate (texts o)).map UInt16.toUInt8).map UInt8.toUInt16 = _
    rw [List.map_map]
    conv_rhs => rw [← List.map_id ([quote].intercalate (texts o))]
    apply List.map_congr_left
    intro c hc
    rcases mem_intercalate hc with rfl | ⟨text, hmem, hc⟩
    · rfl
    · exact toUInt16_toUInt8 (hover' text hmem c hc).1
  have hsplit : ([quote].intercalate (texts o)).splitOn quote = texts o := by
    apply List.splitOn_intercalate
    · intro text hmem hquote
      exact (hover' text hmem quote hquote).2 rfl
    · rw [htexts]
      exact List.append_ne_nil_of_right_ne_nil _ (List.cons_ne_nil _ _)
  show (if (vaultCodec.toJson format o).getLast? = some 125 then _ else _) = _
  rw [if_pos hlast, hbytes, hsplit, hread]

end

theorem over_plain {s : QString} (h : Plain s) : Over (fun _ => True) s := by
  intro c hc
  obtain ⟨-, hlt, hquote, -⟩ := h c hc
  exact ⟨UInt16.lt_of_lt_of_le hlt (by decide), hquote, trivial⟩

theorem over_toBase64 (bytes : QByteArray) : Over (· ≠ 125) (Base64.toBase64 bytes) := by
  have hall : ∀ d < 64, Base64.alphabet d < 128 ∧ Base64.alphabet d ≠ quote ∧
      Base64.alphabet d ≠ 125 := by decide +kernel
  intro c hc
  rcases Base64.toBase64_mem hc with rfl | ⟨d, hd, rfl⟩
  · decide
  · exact hall d hd

theorem ends_vault (salt nonce ciphertext : QByteArray) :
    Ends (· ≠ 125) (texts (vaultObject vaultCodec salt nonce ciphertext)) := by
  have hentries : ∀ entry ∈ vaultObject vaultCodec salt nonce ciphertext,
      Over (· ≠ 125) entry.1 ∧ Over (· ≠ 125) (JsonValue.toString (some entry.2)) := by
    rw [vaultObject_eq]
    simp only [List.forall_mem_cons, List.not_mem_nil, false_imp_iff, forall_const, and_true]
    exact ⟨by decide, ⟨by decide, over_toBase64 _⟩, by decide,
      ⟨by decide, over_toBase64 _⟩, ⟨by decide, over_toBase64 _⟩,
      by decide⟩
  have htexts := ends_entryTexts over_nil (by decide) (by decide)
    (by decide) (flat_vaultObject salt nonce ciphertext) hentries
  unfold texts
  rw [vaultObject_credentials]
  exact .cons (by decide) htexts

theorem ends_payload {credentials : JsonObject} (h : IsCredentials vaultCodec Plain credentials) :
    Ends (fun _ => True) (texts (payloadOf credentials)) := by
  unfold texts
  rw [value_payloadOf]
  cases hcredentials : credentials with
  | nil => exact ⟨[_, _], qStringLiteral ":\x7b\x7d", rfl, by decide⟩
  | cons entry entries =>
    rw [← hcredentials]
    have hne : credentials ≠ [] := hcredentials ▸ List.cons_ne_nil _ _
    have hentries : ∀ entry ∈ credentials, Over (fun _ => True) entry.1 ∧
        Over (fun _ => True) (JsonValue.toString (some entry.2)) := by
      intro entry hmem
      obtain ⟨hkey, secret, hvalue⟩ := h.entries entry hmem
      rw [hvalue]
      refine ⟨over_plain hkey, fun c hc => ?_⟩
      obtain ⟨hlt, hquote, -⟩ := over_toBase64 secret c hc
      exact ⟨hlt, hquote, trivial⟩
    have hbrace : Over (fun _ => True) (qStringLiteral "\x7b") := by decide
    have hname : Over (fun _ => True) (qStringLiteral "credentials") := by decide
    have hcolon : Over (fun _ => True) (qStringLiteral ":\x7b") := by decide
    have hclose : Over (fun _ => True) (qStringLiteral "\x7d") := by decide
    have htexts := ends_entryTexts hclose (by decide) (by decide)
      (by decide) (flat_credentials h hne) hentries
    rw [hcredentials] at htexts ⊢
    exact .cons hbrace (.cons hname (.cons hcolon htexts))

/-- The documents of the store are read as they were written. -/
theorem vaultCodec_faithful : vaultCodec.Faithful (Written vaultCodec Plain) := by
  refine ⟨?_, Base64.fromBase64_toBase64⟩
  rintro o (⟨salt, nonce, ciphertext⟩ | ⟨h⟩)
  · exact (ends_vault salt nonce ciphertext).read (readTexts_vault salt nonce ciphertext) .compact
  · exact (ends_payload h).read (readTexts_payload h) .compact

/-- A vault that breaks off is not read. -/
theorem vaultCodec_rejectsParts : vaultCodec.RejectsParts (IsVault vaultCodec) := by
  rintro o ⟨salt, nonce, ciphertext, rfl⟩ bytes hpart hproper o' hread
  obtain ⟨init, t, htexts, hover⟩ := ends_vault salt nonce ciphertext
  have hlast : bytes.getLast? = some 125 := by
    by_contra hlast
    have herror : vaultCodec.fromJson bytes = .error (qStringLiteral "unterminated object") :=
      if_neg hlast
    cases herror.symm.trans hread
  have hwhole : vaultCodec.toJson .compact (vaultObject vaultCodec salt nonce ciphertext) =
      ([quote].intercalate (init ++ [t])).map UInt16.toUInt8 ++ [125] := by
    show ([quote].intercalate (texts _)).map UInt16.toUInt8 = _
    rw [htexts, intercalate_append, List.map_append]
    rfl
  rw [hwhole] at hpart hproper
  rcases List.prefix_concat_iff.1 hpart with hbytes | hbody
  · exact hproper hbytes
  · have hmem := hbody.subset (List.mem_of_getLast? hlast)
    obtain ⟨c, hc, hbrace⟩ := List.mem_map.1 hmem
    rcases mem_intercalate hc with rfl | ⟨text, htext, hc⟩
    · exact absurd hbrace (by decide)
    · obtain ⟨hlt, -, hne⟩ := hover text htext c hc
      apply hne
      rw [← toUInt16_toUInt8 hlt, hbrace]
      rfl

end SmbBrowser.Credentials.VaultText

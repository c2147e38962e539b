import SmbBrowser.Base.Uri
import SmbBrowser.Core.PathNormalizer

/-!
# The URI of a normalised path

`PathNormalizer::normalizeSmbPath` (core/PathNormalizer.cpp:37) writes the server and the share
that it has read into a URI as they are, and `ImportExportService::connectionFromJson`
(application/ImportExportService.cpp:440) has it read that URI again.

Results:
* `again_of_survives`: a server and a share that survive are read back;
* `normalizeSmbPath_idempotent_iff`: exactly these are;
* `not_normalizeSmbPath_idempotent`: a share with a `#` in its name.
-/

namespace SmbBrowser.Core

open SmbBrowser.Base SmbBrowser.Qt

namespace PathNormalizer

/-- `QUrl` splits the texts that start with `smb://` as RFC 3986 does, and decodes host and
    path; the host of an address is given without its brackets. -/
structure ReadsUris (rules : Uri.Rules) (url : QString → QUrl) : Prop where
  isValid : ∀ rest, rules.regName (Uri.authorityOf rest) →
    (url (qStringLiteral "smb://" ++ rest)).isValid = true
  scheme : ∀ rest, (url (qStringLiteral "smb://" ++ rest)).isValid = true →
    (url (qStringLiteral "smb://" ++ rest)).scheme = qStringLiteral "smb"
  authority : ∀ rest, (url (qStringLiteral "smb://" ++ rest)).isValid = true →
    ∃ parts : Uri.Parts, parts.text = Uri.authorityOf rest ∧
      Uri.Host rules parts.host (url (qStringLiteral "smb://" ++ rest)).host ∧
      (parts.userinfo = none → (url (qStringLiteral "smb://" ++ rest)).userName = [] ∧
        (url (qStringLiteral "smb://" ++ rest)).password = [])
  path : ∀ rest, (url (qStringLiteral "smb://" ++ rest)).isValid = true →
    (url (qStringLiteral "smb://" ++ rest)).path = rules.decode (Uri.pathOf rest)

/-- A server that is a registered name, and a share that no query or fragment follows, both
    without anything to decode. -/
structure Survives (rules : Uri.Rules) (server share : QString) : Prop where
  regName : rules.regName server
  server : rules.decode server = server
  inPath : ∀ c ∈ share, Uri.InPath c = true
  share : rules.decode share = share

/-- The normaliser reads a URI again: the same server, share and URI. -/
structure Again (tables : CaseTables) (url : QString → QUrl) (path : NormalizedSmbPath) : Prop where
  ok : (normalizeSmbPath tables url path.normalizedUri).ok = true
  server : (normalizeSmbPath tables url path.normalizedUri).value.server = path.server
  share : (normalizeSmbPath tables url path.normalizedUri).value.share = path.share
  normalizedUri :
    (normalizeSmbPath tables url path.normalizedUri).value.normalizedUri = path.normalizedUri

/-! ## Segments -/

theorem splitPath_slash (path : QString) : splitPath (slash :: path) = splitPath path := by
  rw [splitPath, splitOn_cons, if_pos rfl]
  rfl

theorem splitPath_of_not_mem {path : QString} (hne : path ≠ []) (hslash : slash ∉ path) :
    splitPath path = [path] := by
  have hsplit : path.splitOn slash = [path] := by
    rw [List.splitOn, List.splitOnP_eq_singleton]
    intro c hmem
    rw [beq_eq_false_iff_ne]
    rintro rfl
    exact hslash hmem
  rw [splitPath, hsplit, List.filter_singleton]
  cases path with
  | nil => exact absurd rfl hne
  | cons c path => rfl

/-- A segment as long as the path is the path. -/
theorem eq_of_mem_splitPath {path segment : QString} (hmem : segment ∈ splitPath path)
    (hlength : path.length ≤ segment.length) : segment = path := by
  have hsegments := length_splitPath path
  have hsplit := length_splitOn path
  have hflatten : segment.length ≤ (splitPath path).flatten.length :=
    (List.sublist_flatten_of_mem hmem).length_le
  have hflatten' : (splitPath path).flatten = (path.splitOn slash).flatten :=
    List.flatten_filter_not_isEmpty
  rw [hflatten'] at hflatten
  obtain ⟨part, hpart⟩ : ∃ part, path.splitOn slash = [part] := by
    refine List.length_eq_one_iff.1 ?_
    have hpos := List.length_pos_iff.2 (splitOn_ne_nil path)
    omega
  have hjoin := (List.intercalate_splitOn slash : [slash].intercalate (path.splitOn slash) = path)
  rw [hpart] at hjoin
  have hin := (List.mem_filter.1 hmem).1
  rw [hpart, List.mem_singleton] at hin
  rw [hin]
  simpa using hjoin

/-! ## Trimmed names -/

theorem trimmed_sublist (s : QString) : s.trimmed.Sublist s :=
  ((List.rdropWhile_prefix _ _).sublist).trans (List.dropWhile_sublist _)

/-- A text whose trimmed form is as long as it is trimmed. -/
theorem trimmed_eq_of_length {s : QString} (h : s.length ≤ s.trimmed.length) : s.trimmed = s :=
  (trimmed_sublist s).eq_of_length (le_antisymm (trimmed_sublist s).length_le h)

section

variable {rules : Uri.Rules} {tables : CaseTables} {url : QString → QUrl}
  {inputPath server share : QString} {path : NormalizedSmbPath}

/-- A server and a share that were read are trimmed, and the share is one segment. -/
structure Read (path : NormalizedSmbPath) : Prop where
  normalizedUri : path.normalizedUri = smbUri path.server path.share
  server_ne : path.server ≠ []
  server : path.server.trimmed = path.server
  share : Normal path.share
  share_trimmed : path.share.trimmed = path.share

theorem read_of_ok (hok : (normalizeSmbPath tables url inputPath).ok = true)
    (hvalue : (normalizeSmbPath tables url inputPath).value = path) : Read path := by
  obtain ⟨-, parsed, hparse, hserver, hshare, rfl⟩ := normalizeSmbPath_ok_iff.1 ⟨hok, hvalue⟩
  unfold parse at hparse
  split at hparse
  · obtain ⟨-, share, rest, hparts, hne, rfl⟩ := parseUri_ok_iff.1 ⟨hparse, hshare⟩
    have hsegment := mem_splitPath (hparts ▸ List.mem_cons_self : share ∈ splitPath _)
    exact ⟨rfl, hserver, trimmed_trimmed _, normal_trimmed hsegment.1 hne, trimmed_trimmed _⟩
  · obtain rfl := Except.ok.inj hparse
    have htrimmed : ∀ input, (parseUnc input).server.trimmed = (parseUnc input).server ∧
        (parseUnc input).share.trimmed = (parseUnc input).share := by
      intro input
      unfold parseUnc
      split
      · exact ⟨trimmed_trimmed _, trimmed_trimmed _⟩
      · exact ⟨rfl, rfl⟩
    exact ⟨rfl, hserver, (htrimmed _).1, (clean_parseUnc _).share hshare, (htrimmed _).2⟩

/-- How the URI is read: the first segment of its path and its host. -/
theorem again_iff (hsame : ∀ s, tables.sameIgnoringCase s s = true) (h : Read path) :
    Again tables url path ↔
      ∃ parsed, parseUri tables (url (smbUri path.server path.share)) = .ok parsed ∧
        parsed.server = path.server ∧ parsed.share = path.share := by
  have htrimmed := @trimmed_smbUri path.server path.share h.share
  have hparse := @parse_smbUri tables url path.server path.share hsame
  constructor
  · intro hagain
    obtain ⟨-, parsed, hread, -, -, hvalue⟩ := normalizeSmbPath_ok_iff.1 ⟨hagain.ok, rfl⟩
    rw [h.normalizedUri, htrimmed, hparse] at hread
    have hserver := hagain.server
    have hshare := hagain.share
    rw [hvalue] at hserver hshare
    exact ⟨parsed, hread, hserver, hshare⟩
  · rintro ⟨parsed, hread, hserver, hshare⟩
    rw [← hparse, ← htrimmed] at hread
    have hne : (smbUri path.server path.share).trimmed ≠ [] := by
      rw [htrimmed]
      exact List.cons_ne_nil _ _
    obtain ⟨hok, hvalue⟩ := normalizeSmbPath_ok_iff.2 ⟨hne, parsed, hread,
      fun hnil => h.server_ne (hserver.symm.trans hnil),
      fun hnil => h.share.ne_nil (hshare.symm.trans hnil), rfl⟩
    rw [← h.normalizedUri] at hok hvalue
    refine ⟨hok, ?_, ?_, ?_⟩
    · rw [hvalue]
      exact hserver
    · rw [hvalue]
      exact hshare
    · rw [hvalue, h.normalizedUri, ← hserver, ← hshare]

theorem smbUri_eq : smbUri server share = qStringLiteral "smb://" ++ (server ++ slash :: share) :=
  List.append_assoc ..

/-- A server and a share that survive are read back. -/
theorem again_of_survives (hsame : ∀ s, tables.sameIgnoringCase s s = true)
    (hurl : ReadsUris rules url) (h : Read path) (hsurvives : Survives rules path.server path.share) :
    Again tables url path := by
  rw [again_iff hsame h, smbUri_eq]
  have hserver := Uri.authorityOf_eq_self_iff.2 (Uri.Rules.inAuthority hsurvives.regName)
  have hauthority : Uri.authorityOf (path.server ++ slash :: path.share) = path.server :=
    Uri.authorityOf_append.trans hserver
  have hpath : Uri.pathOf (path.server ++ slash :: path.share) = slash :: path.share := by
    rw [Uri.pathOf_append hserver, Uri.beforeQuery_eq_self_iff.2 hsurvives.inPath]
  have hvalid := hurl.isValid (path.server ++ slash :: path.share) (by
    rw [hauthority]
    exact hsurvives.regName)
  obtain ⟨parts, htext, hhost, hanonymous⟩ := hurl.authority _ hvalid
  rw [hauthority] at htext
  have hdelims := rules.regName_delims _ hsurvives.regName
  rw [← htext] at hdelims
  obtain ⟨huserinfo, hparts⟩ := Uri.Parts.host_eq hdelims
  obtain ⟨huser, hpassword⟩ := hanonymous huserinfo
  rw [hparts, htext] at hhost
  have hname := hhost.name_eq hsurvives.regName
  rw [hsurvives.server] at hname
  have hsegments :
      splitPath (url (qStringLiteral "smb://" ++ (path.server ++ slash :: path.share))).path =
        [path.share] := by
    rw [hurl.path _ hvalid, hpath, rules.decode_slash, hsurvives.share, splitPath_slash,
      splitPath_of_not_mem h.share.ne_nil h.share.no_slash]
  have hscheme : tables.sameIgnoringCase
      (url (qStringLiteral "smb://" ++ (path.server ++ slash :: path.share))).scheme
        (qStringLiteral "smb") = true := by
    rw [hurl.scheme _ hvalid]
    exact hsame _
  have hne : path.share.trimmed ≠ [] := by
    rw [h.share_trimmed]
    exact h.share.ne_nil
  obtain ⟨hread, -⟩ := parseUri_ok_iff.2
    ⟨⟨hvalid, hscheme, huser, hpassword⟩, _, _, hsegments, hne, rfl⟩
  refine ⟨_, hread, ?_, h.share_trimmed⟩
  dsimp only
  rw [hname]
  exact h.server

/-- A server that is read back is a registered name without anything to decode. -/
theorem server_of_again (hurl : ReadsUris rules url)
    (hvalid : (url (smbUri server share)).isValid = true)
    (hserver : (url (smbUri server share)).host.trimmed = server) :
    rules.regName server ∧ rules.decode server = server ∧ Uri.authorityOf server = server := by
  rw [smbUri_eq] at hvalid hserver
  obtain ⟨parts, htext, hhost, -⟩ := hurl.authority _ hvalid
  rw [Uri.authorityOf_append] at htext
  -- no part of the authority is longer than the server, and the host is as long as it
  have hlength := length_trimmed_le (url (qStringLiteral "smb://" ++ (server ++ slash :: share))).host
  rw [hserver] at hlength
  have hauthority : (Uri.authorityOf server).length ≤ server.length := Uri.authorityOf_starts.length_le
  have hparts := parts.length_host_le
  have hname := hhost.length_le
  have hself : Uri.authorityOf server = server := by
    refine Uri.authorityOf_starts.eq_of_length ?_
    rw [htext] at hparts
    omega
  rw [hself] at htext
  have heq : parts.host = server := by
    rw [← htext]
    refine Uri.Parts.host_eq_of_length ?_
    rw [htext]
    omega
  rw [heq] at hhost
  obtain ⟨hreg, hdecode⟩ := hhost.named_of_length hlength
  refine ⟨hreg, ?_, hself⟩
  rw [hdecode] at hserver hlength
  have htrimmed : QString.trimmed (rules.decode server) = rules.decode server := by
    refine trimmed_eq_of_length ?_
    rw [hserver]
    exact rules.decode_length server
  exact htrimmed.symm.trans hserver

/-- A share that is read back has no query or fragment in it and nothing to decode. -/
theorem share_of_again (hurl : ReadsUris rules url)
    (hvalid : (url (smbUri server share)).isValid = true)
    (hserver : Uri.authorityOf server = server) {segment : QString} {rest : List QString}
    (hparts : splitPath (url (smbUri server share)).path = segment :: rest)
    (hsegment : segment.trimmed = share) :
    (∀ c ∈ share, Uri.InPath c = true) ∧ rules.decode share = share := by
  rw [smbUri_eq] at hvalid hparts
  rw [hurl.path _ hvalid, Uri.pathOf_append hserver, rules.decode_slash, splitPath_slash] at hparts
  have hmem : segment ∈ splitPath (rules.decode (Uri.beforeQuery share)) := by
    rw [hparts]
    exact List.mem_cons_self
  have hcount := length_splitPath (rules.decode (Uri.beforeQuery share))
  rw [hparts, List.flatten_cons, List.length_append, List.length_cons] at hcount
  have hdecode := rules.decode_length (Uri.beforeQuery share)
  have hbefore : (Uri.beforeQuery share).length ≤ share.length := Uri.beforeQuery_starts.length_le
  have hlength : share.length ≤ segment.length := by
    rw [← hsegment]
    exact length_trimmed_le segment
  have hquery : Uri.beforeQuery share = share :=
    Uri.beforeQuery_starts.eq_of_length (by omega)
  rw [hquery] at hmem hdecode hcount
  refine ⟨Uri.beforeQuery_eq_self_iff.1 hquery, ?_⟩
  have hwhole : segment = rules.decode share := eq_of_mem_splitPath hmem (by omega)
  have htrimmed : segment.trimmed = segment := by
    refine trimmed_eq_of_length ?_
    rw [hsegment]
    omega
  rw [← hwhole, ← htrimmed]
  exact hsegment

/-- **Normalisation is idempotent** exactly where server and share survive. -/
theorem normalizeSmbPath_idempotent_iff (hsame : ∀ s, tables.sameIgnoringCase s s = true)
    (hurl : ReadsUris rules url) (hok : (normalizeSmbPath tables url inputPath).ok = true) :
    Again tables url (normalizeSmbPath tables url inputPath).value ↔
      Survives rules (normalizeSmbPath tables url inputPath).value.server
        (normalizeSmbPath tables url inputPath).value.share := by
  have h := read_of_ok hok rfl
  constructor
  · intro hagain
    obtain ⟨parsed, hread, hserver, hshare⟩ := (again_iff hsame h).1 hagain
    have hne : parsed.share ≠ [] := by
      rw [hshare]
      exact h.share.ne_nil
    obtain ⟨⟨hvalid, -⟩, segment, rest, hparts, -, rfl⟩ := parseUri_ok_iff.1 ⟨hread, hne⟩
    obtain ⟨hreg, hdecode, hself⟩ := server_of_again hurl hvalid hserver
    obtain ⟨hpath, hdecode'⟩ := share_of_again hurl hvalid hself hparts hshare
    exact ⟨hreg, hdecode, hpath, hdecode'⟩
  · exact again_of_survives hsame hurl h

end

/-! ### A `#` in the name of a share -/

namespace AsciiUris

/-- Letters, digits, `-`, `.`, `_` and `~`. -/
def unreserved (c : QChar) : Bool :=
  (0x30 ≤ c ∧ c ≤ 0x39) ∨ (0x41 ≤ c ∧ c ≤ 0x5A) ∨ (0x61 ≤ c ∧ c ≤ 0x7A) ∨ c ∈ qStringLiteral "-._~"

/-- Names of unreserved characters, and texts of ASCII characters. -/
def rules : Uri.Rules where
  regName name := ∀ c ∈ name, unreserved c = true
  decode := Uri.decodeAscii
  regName_delims := by
    intro name hname c hmem hdelim
    have hnone : Uri.genDelims.all (!unreserved ·) = true := by decide
    have hc := List.all_eq_true.1 hnone c hdelim
    rw [hname c hmem] at hc
    cases hc
  decode_length := Uri.length_decodeAscii_le
  decode_slash := Uri.decodeAscii_slash

/-- A URI whose authority is a name. -/
def url (text : QString) : QUrl where
  isValid := (Uri.authorityOf (text.drop 6)).all unreserved
  scheme := qStringLiteral "smb"
  host := Uri.decodeAscii (Uri.authorityOf (text.drop 6))
  path := Uri.decodeAscii (Uri.pathOf (text.drop 6))

theorem readsUris : ReadsUris rules url where
  isValid rest hname := List.all_eq_true.2 hname
  scheme rest hvalid := rfl
  authority rest hvalid := by
    refine ⟨⟨none, Uri.authorityOf rest, none⟩, List.append_nil _, ?_, fun _ => ⟨rfl, rfl⟩⟩
    exact .named (List.all_eq_true.1 hvalid)
  path rest hvalid := rfl

/-- The case tables on ASCII letters. -/
def tables : CaseTables where
  toLower s := s.map fun c => if 0x41 ≤ c ∧ c ≤ 0x5A then c + 0x20 else c
  sameIgnoringCase s t := s = t

theorem sameIgnoringCase_self (s : QString) : tables.sameIgnoringCase s s = true :=
  decide_eq_true rfl

end AsciiUris

open AsciiUris in
/-- `\\nas\docs` is read back. -/
theorem normalizeSmbPath_idempotent_docs :
    Again AsciiUris.tables AsciiUris.url
      (normalizeSmbPath AsciiUris.tables AsciiUris.url (qStringLiteral "\\\\nas\\docs")).value := by
  have hserver : (normalizeSmbPath AsciiUris.tables AsciiUris.url
      (qStringLiteral "\\\\nas\\docs")).value.server.all unreserved = true := by decide
  have hshare : (normalizeSmbPath AsciiUris.tables AsciiUris.url
      (qStringLiteral "\\\\nas\\docs")).value.share.all Uri.InPath = true := by decide
  exact (normalizeSmbPath_idempotent_iff sameIgnoringCase_self readsUris (by decide)).2
    ⟨List.all_eq_true.1 hserver, by decide, List.all_eq_true.1 hshare, by decide⟩

open AsciiUris in
/-- `\\nas\docs#1` is read back as the share `docs`. -/
theorem not_normalizeSmbPath_idempotent :
    ¬ ∀ (rules : Uri.Rules) (tables : CaseTables) (url : QString → QUrl) (inputPath : QString),
      (∀ s, tables.sameIgnoringCase s s = true) → ReadsUris rules url →
      (normalizeSmbPath tables url inputPath).ok = true →
        Again tables url (normalizeSmbPath tables url inputPath).value := by
  intro h
  have hagain := h AsciiUris.rules AsciiUris.tables AsciiUris.url
    (qStringLiteral "\\\\nas\\docs#1") sameIgnoringCase_self readsUris (by decide)
  exact absurd hagain.share (by decide)

end PathNormalizer

end SmbBrowser.Core

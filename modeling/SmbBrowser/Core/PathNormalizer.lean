import SmbBrowser.Core.Types

/-!
# The path normaliser

`PathNormalizer::normalizeSmbPath` (core/PathNormalizer.cpp) reads a server, a share and
an initial path from what the user types, an SMB URI or a UNC path.  `QUrl` is a
parameter, and so are the case tables.

Results:
* `length_splitPath`: the segments of a path are not longer than it;
* `normal_of_ok`: a normalised path has a server and a share that are trimmed and hold
  no slash;
* `normalizeSmbPath_ok_iff`: what the normaliser accepts, and what it makes of it;
* `parse_smbUri`: the URI of a server and a share is parsed as an URI;
* `parseUri_ok_iff`: what is read from an URI with a share.
-/

namespace SmbBrowser.Core

open SmbBrowser.Qt

/-- `/`. -/
abbrev slash : QChar := 0x2F

/-- `\`. -/
abbrev backslash : QChar := 0x5C

/-- The parts of a `QUrl` that are read. -/
structure QUrl where
  isValid : Bool := false
  scheme : QString := []
  userName : QString := []
  password : QString := []
  host : QString := []
  path : QString := []

/-- `QString::split` at a slash, with `Qt::SkipEmptyParts`. -/
def splitPath (path : QString) : List QString := (path.splitOn slash).filter (!·.isEmpty)

theorem splitOn_cons (c : QChar) (path : QString) :
    (c :: path).splitOn slash =
      if c = slash then [] :: path.splitOn slash
      else (path.splitOn slash).modifyHead (c :: ·) := by
  unfold List.splitOn
  rw [List.splitOnP_cons_eq_if_modifyHead]
  simp only [beq_iff_eq]

theorem splitOn_ne_nil (path : QString) : path.splitOn slash ≠ [] := List.splitOnP_ne_nil _ path

theorem slash_not_mem_of_mem_splitOn {path part : QString} (h : part ∈ path.splitOn slash) :
    slash ∉ part := by
  induction path generalizing part with
  | nil =>
    obtain rfl := List.mem_singleton.1 h
    exact List.not_mem_nil
  | cons c path ih =>
    rw [splitOn_cons] at h
    split at h
    · rcases List.mem_cons.1 h with rfl | h
      · exact List.not_mem_nil
      · exact ih h
    · next hc =>
      cases hsplit : path.splitOn slash with
      | nil => exact absurd hsplit (splitOn_ne_nil path)
      | cons first rest =>
        rw [hsplit, List.modifyHead_cons] at h
        rcases List.mem_cons.1 h with rfl | h
        · have hfirst : slash ∉ first := ih (hsplit ▸ List.mem_cons_self)
          intro hmem
          rcases List.mem_cons.1 hmem with heq | hmem
          · exact hc heq.symm
          · exact hfirst hmem
        · exact ih (hsplit ▸ List.mem_cons_of_mem _ h)

theorem length_splitOn (path : QString) :
    (path.splitOn slash).flatten.length + (path.splitOn slash).length = path.length + 1 := by
  induction path with
  | nil => rfl
  | cons c path ih =>
    rw [splitOn_cons]
    split
    · simp only [List.flatten_cons, List.nil_append, List.length_cons]
      omega
    · cases hsplit : path.splitOn slash with
      | nil => exact absurd hsplit (splitOn_ne_nil path)
      | cons first rest =>
        rw [hsplit] at ih
        simp only [List.modifyHead_cons, List.flatten_cons, List.length_append, List.length_cons]
          at ih ⊢
        omega

/-- The segments of a path and the slashes between them fit in the path. -/
theorem length_splitPath (path : QString) :
    (splitPath path).flatten.length + (splitPath path).length ≤ path.length + 1 := by
  have hall := length_splitOn path
  have hflatten : (splitPath path).flatten = (path.splitOn slash).flatten := by
    unfold splitPath
    exact List.flatten_filter_not_isEmpty
  have hcount : (splitPath path).length ≤ (path.splitOn slash).length := List.length_filter_le _ _
  rw [hflatten]
  omega

theorem mem_splitPath {path part : QString} (h : part ∈ splitPath path) :
    slash ∉ part ∧ part ≠ [] := by
  obtain ⟨hmem, hne⟩ := List.mem_filter.1 h
  refine ⟨slash_not_mem_of_mem_splitOn hmem, ?_⟩
  rintro rfl
  exact absurd hne (by decide)

/-! ## Trimming -/

theorem mem_of_mem_trimmed {s : QString} {c : QChar} (h : c ∈ s.trimmed) : c ∈ s :=
  (List.dropWhile_sublist _).subset ((List.rdropWhile_prefix _ _).subset h)

theorem length_trimmed_le (s : QString) : s.trimmed.length ≤ s.length :=
  ((List.rdropWhile_prefix _ _).length_le).trans (List.length_dropWhile_le _ _)

theorem getLast_trimmed {s : QString} (h : s.trimmed ≠ []) :
    QChar.isSpace (s.trimmed.getLast h) = false :=
  Bool.eq_false_iff.2 (List.rdropWhile_last_not _ _ h)

/-- A text that neither starts nor ends with a space is trimmed. -/
theorem trimmed_eq_self {s : QString} (hne : s ≠ []) (hhead : QChar.isSpace (s.head hne) = false)
    (hlast : QChar.isSpace (s.getLast hne) = false) : s.trimmed = s := by
  have hdrop : s.dropWhile QChar.isSpace = s := by
    cases s with
    | nil => rfl
    | cons c s => exact List.dropWhile_cons_of_neg (by simpa using hhead)
  unfold QString.trimmed
  rw [hdrop, List.rdropWhile_eq_self_iff]
  intro _
  rw [hlast]
  exact Bool.false_ne_true

theorem head_trimmed {s : QString} (h : s.trimmed ≠ []) :
    QChar.isSpace (s.trimmed.head h) = false := by
  have hstarts : s.trimmed <+: s.dropWhile QChar.isSpace := List.rdropWhile_prefix _ _
  have hne : s.dropWhile QChar.isSpace ≠ [] := hstarts.ne_nil h
  have hhead : s.trimmed.head h = (s.dropWhile QChar.isSpace).head hne := hstarts.head h
  rw [hhead]
  exact List.head_dropWhile_not _ hne

theorem trimmed_trimmed (s : QString) : s.trimmed.trimmed = s.trimmed := by
  by_cases hne : s.trimmed = []
  · rw [hne]
    rfl
  · exact trimmed_eq_self hne (head_trimmed hne) (getLast_trimmed hne)

/-- `NormalizedSmbPath` (PathNormalizer.h:10). -/
structure NormalizedSmbPath where
  inputPath : QString := []
  normalizedUri : QString := []
  server : QString := []
  share : QString := []
  initialRemotePath : QString := []
  deriving DecidableEq

instance : Inhabited NormalizedSmbPath := ⟨{}⟩

namespace PathNormalizer

/-- `cleanedPathInput` (PathNormalizer.cpp:11). -/
def cleanedPathInput (input : QString) : QString :=
  QString.replaceChar backslash slash (QString.trimmed input)

/-- `invalidPath` (PathNormalizer.cpp:15). -/
def invalidPath (details : QString) : Result NormalizedSmbPath :=
  .failure (.fromCode .invalidPath .validation details)

/-- `joinInitialPath` (PathNormalizer.cpp:27). -/
def joinInitialPath (parts : List QString) (firstIndex : ℕ) : QString :=
  if parts.length ≤ firstIndex then [] else [slash].intercalate (parts.drop firstIndex)

/-- Server, share and initial path as they were read. -/
structure ParsedPath where
  server : QString := []
  share : QString := []
  initialRemotePath : QString := []

/-- The branch of an URI (PathNormalizer.cpp:48). -/
def parseUri (tables : CaseTables) (url : QUrl) : Except QString ParsedPath :=
  if !url.isValid || !tables.sameIgnoringCase url.scheme (qStringLiteral "smb") then
    .error (qStringLiteral "SMB URI is invalid.")
  else if !url.userName.isEmpty || !url.password.isEmpty then
    .error (qStringLiteral "SMB URI must not contain credentials.")
  else
    match splitPath url.path with
    | [] => .ok { server := url.host.trimmed }
    | share :: rest =>
      .ok {
        server := url.host.trimmed
        share := share.trimmed
        initialRemotePath := joinInitialPath (share :: rest) 1 }

/-- The branch of a UNC path (PathNormalizer.cpp:66). -/
def parseUnc (input : QString) : ParsedPath :=
  match splitPath ((cleanedPathInput input).dropWhile (· = slash)) with
  | server :: share :: rest =>
    { server := server.trimmed
      share := share.trimmed
      initialRemotePath := joinInitialPath (server :: share :: rest) 2 }
  | _ => {}

/-- `smb://<server>/<share>`. -/
def smbUri (server share : QString) : QString :=
  qStringLiteral "smb://" ++ server ++ slash :: share

variable (tables : CaseTables) (url : QString → QUrl)

/-- `input.startsWith("smb://", Qt::CaseInsensitive)`. -/
def isUri (input : QString) : Bool :=
  tables.sameIgnoringCase (input.take 6) (qStringLiteral "smb://")

/-- `PathNormalizer::normalizeSmbPath` (PathNormalizer.cpp:38). -/
def normalizeSmbPath (inputPath : QString) : Result NormalizedSmbPath :=
  let input := inputPath.trimmed
  if input.isEmpty then
    invalidPath (qStringLiteral "SMB path is empty.")
  else
    match if isUri tables input then parseUri tables (url input) else .ok (parseUnc input) with
    | .error details => invalidPath details
    | .ok parsed =>
      if parsed.server.isEmpty then
        invalidPath (qStringLiteral "SMB server is missing.")
      else if parsed.share.isEmpty then
        invalidPath (qStringLiteral "SMB share is missing.")
      else
        .success {
          inputPath
          normalizedUri := smbUri parsed.server parsed.share
          server := parsed.server
          share := parsed.share
          initialRemotePath := parsed.initialRemotePath }

variable {tables url}

/-- A server and a share as the normaliser leaves them. -/
structure Normal (text : QString) : Prop where
  ne_nil : text ≠ []
  no_slash : slash ∉ text
  last : QChar.isSpace (text.getLast ne_nil) = false

theorem normal_trimmed {text : QString} (hslash : slash ∉ text) (hne : text.trimmed ≠ []) :
    Normal text.trimmed :=
  ⟨hne, fun h => hslash (mem_of_mem_trimmed h), getLast_trimmed hne⟩

/-- A parsed path whose server and share are trimmed and hold no slash, where they are
    not empty. -/
structure ParsedPath.Clean (parsed : ParsedPath) : Prop where
  server : parsed.server ≠ [] → Normal parsed.server
  share : parsed.share ≠ [] → Normal parsed.share

theorem clean_parseUri {u : QUrl} {parsed : ParsedPath} (hhost : slash ∉ u.host)
    (h : parseUri tables u = .ok parsed) : parsed.Clean := by
  unfold parseUri at h
  split at h
  · cases h
  split at h
  · cases h
  cases hparts : splitPath u.path with
  | nil =>
    rw [hparts] at h
    obtain rfl := Except.ok.inj h
    exact ⟨normal_trimmed hhost, fun hne => absurd rfl hne⟩
  | cons share rest =>
    rw [hparts] at h
    obtain rfl := Except.ok.inj h
    have hshare := mem_splitPath (hparts ▸ List.mem_cons_self : share ∈ splitPath u.path)
    exact ⟨normal_trimmed hhost, normal_trimmed hshare.1⟩

theorem clean_parseUnc (input : QString) : (parseUnc input).Clean := by
  unfold parseUnc
  split
  · next server share rest hparts =>
    have hserver := mem_splitPath (hparts ▸ List.mem_cons_self :
      server ∈ splitPath ((cleanedPathInput input).dropWhile (· = slash)))
    have hshare := mem_splitPath (hparts ▸ List.mem_cons_of_mem _ List.mem_cons_self :
      share ∈ splitPath ((cleanedPathInput input).dropWhile (· = slash)))
    exact ⟨normal_trimmed hserver.1, normal_trimmed hshare.1⟩
  · exact ⟨fun hne => absurd rfl hne, fun hne => absurd rfl hne⟩

/-- What the normaliser reads before it checks server and share. -/
def parse (tables : CaseTables) (url : QString → QUrl) (input : QString) :
    Except QString ParsedPath :=
  if isUri tables input then parseUri tables (url input) else .ok (parseUnc input)

/-- The normaliser accepts what it parses with a server and a share. -/
theorem normalizeSmbPath_ok_iff {inputPath : QString} {path : NormalizedSmbPath} :
    ((normalizeSmbPath tables url inputPath).ok = true ∧
        (normalizeSmbPath tables url inputPath).value = path) ↔
      inputPath.trimmed ≠ [] ∧ ∃ parsed, parse tables url inputPath.trimmed = .ok parsed ∧
        parsed.server ≠ [] ∧ parsed.share ≠ [] ∧
        path = ⟨inputPath, smbUri parsed.server parsed.share, parsed.server, parsed.share,
          parsed.initialRemotePath⟩ := by
  have hrefused : ∀ details, (invalidPath details).ok = false := fun _ => rfl
  unfold normalizeSmbPath
  dsimp only
  split
  · next hempty =>
    rw [hrefused]
    exact iff_of_false (fun h => Bool.false_ne_true h.1) fun h => h.1 (List.isEmpty_iff.1 hempty)
  next hne =>
  have htrimmed : inputPath.trimmed ≠ [] := fun h => hne (List.isEmpty_iff.2 h)
  rw [← parse]
  cases hparse : parse tables url inputPath.trimmed with
  | error details =>
    dsimp only
    rw [hrefused]
    refine iff_of_false (fun h => Bool.false_ne_true h.1) ?_
    rintro ⟨_, parsed, h, _⟩
    cases h
  | ok parsed =>
    dsimp only
    split
    · next hserver =>
      rw [hrefused]
      refine iff_of_false (fun h => Bool.false_ne_true h.1) ?_
      rintro ⟨_, parsed', h, hne', _⟩
      obtain rfl := Except.ok.inj h
      exact hne' (List.isEmpty_iff.1 hserver)
    next hserver =>
    split
    · next hshare =>
      rw [hrefused]
      refine iff_of_false (fun h => Bool.false_ne_true h.1) ?_
      rintro ⟨_, parsed', h, _, hne', _⟩
      obtain rfl := Except.ok.inj h
      exact hne' (List.isEmpty_iff.1 hshare)
    next hshare =>
    constructor
    · rintro ⟨_, rfl⟩
      exact ⟨htrimmed, parsed, rfl, fun h => hserver (List.isEmpty_iff.2 h),
        fun h => hshare (List.isEmpty_iff.2 h), rfl⟩
    · rintro ⟨_, parsed', h, _, _, rfl⟩
      obtain rfl := Except.ok.inj h
      exact ⟨rfl, rfl⟩

/-- A normalised path. -/
theorem normal_of_ok {inputPath : QString} (hhost : ∀ text, slash ∉ (url text).host)
    (h : (normalizeSmbPath tables url inputPath).ok = true) :
    Normal (normalizeSmbPath tables url inputPath).value.server ∧
      Normal (normalizeSmbPath tables url inputPath).value.share ∧
      (normalizeSmbPath tables url inputPath).value.normalizedUri =
        smbUri (normalizeSmbPath tables url inputPath).value.server
          (normalizeSmbPath tables url inputPath).value.share := by
  obtain ⟨_, parsed, hparse, hserver, hshare, hvalue⟩ := normalizeSmbPath_ok_iff.1 ⟨h, rfl⟩
  have hclean : parsed.Clean := by
    unfold parse at hparse
    split at hparse
    · exact clean_parseUri (hhost _) hparse
    · obtain rfl := Except.ok.inj hparse
      exact clean_parseUnc _
  rw [hvalue]
  exact ⟨hclean.server hserver, hclean.share hshare, rfl⟩

theorem trimmed_smbUri {server share : QString} (hshare : Normal share) :
    (smbUri server share).trimmed = smbUri server share := by
  have hne : smbUri server share ≠ [] := by
    unfold smbUri
    exact List.append_ne_nil_of_right_ne_nil _ (List.cons_ne_nil _ _)
  refine trimmed_eq_self hne rfl ?_
  have hlast : ∀ h : qStringLiteral "smb://" ++ server ++ slash :: share ≠ [],
      List.getLast _ h = share.getLast hshare.ne_nil := by
    intro h
    rw [List.getLast_append_of_ne_nil _ (List.cons_ne_nil _ _), List.getLast_cons hshare.ne_nil]
  have huri : (smbUri server share).getLast hne = share.getLast hshare.ne_nil := hlast hne
  rw [huri]
  exact hshare.last

/-- The URI of a server and a share is parsed as an URI. -/
theorem parse_smbUri {server share : QString} (hsame : ∀ s, tables.sameIgnoringCase s s = true) :
    parse tables url (smbUri server share) = parseUri tables (url (smbUri server share)) := by
  have huri : isUri tables (smbUri server share) = true := by
    unfold isUri
    exact hsame _
  rw [parse, if_pos huri]

/-- An URI is parsed with a share when its path has a first segment. -/
theorem parseUri_ok_iff {u : QUrl} {parsed : ParsedPath} :
    (parseUri tables u = .ok parsed ∧ parsed.share ≠ []) ↔
      (u.isValid = true ∧ tables.sameIgnoringCase u.scheme (qStringLiteral "smb") = true ∧
        u.userName = [] ∧ u.password = []) ∧
      ∃ share rest, splitPath u.path = share :: rest ∧ share.trimmed ≠ [] ∧
        parsed = ⟨u.host.trimmed, share.trimmed, joinInitialPath (share :: rest) 1⟩ := by
  unfold parseUri
  split
  · next hinvalid =>
    refine iff_of_false (fun h => by cases h.1) ?_
    rintro ⟨⟨hvalid, hscheme, -, -⟩, -⟩
    rw [hvalid, hscheme] at hinvalid
    exact Bool.false_ne_true hinvalid
  next hvalid =>
  split
  · next hcredentials =>
    refine iff_of_false (fun h => by cases h.1) ?_
    rintro ⟨⟨-, -, huser, hpassword⟩, -⟩
    rw [huser, hpassword] at hcredentials
    exact Bool.false_ne_true hcredentials
  next hcredentials =>
  have hurl : u.isValid = true ∧ tables.sameIgnoringCase u.scheme (qStringLiteral "smb") = true ∧
      u.userName = [] ∧ u.password = [] := by
    simpa [and_assoc] using And.intro hvalid hcredentials
  cases hparts : splitPath u.path with
  | nil =>
    refine iff_of_false ?_ ?_
    · rintro ⟨h, hshare⟩
      obtain rfl := Except.ok.inj h
      exact hshare rfl
    · rintro ⟨-, share, rest, h, -⟩
      cases h
  | cons share rest =>
    constructor
    · rintro ⟨h, hshare⟩
      obtain rfl := Except.ok.inj h
      exact ⟨hurl, share, rest, rfl, hshare, rfl⟩
    · rintro ⟨-, share', rest', h, hshare, rfl⟩
      obtain ⟨rfl, rfl⟩ := List.cons.inj h
      exact ⟨rfl, hshare⟩

/-- A path with room for its first segment alone has no other. -/
theorem rest_eq_nil {path share : QString} {rest : List QString}
    (hparts : splitPath path = share :: rest) (hlength : path.length ≤ share.trimmed.length + 1) :
    rest = [] := by
  have hsegments := length_splitPath path
  have htrimmed := length_trimmed_le share
  rw [hparts, List.flatten_cons, List.length_append, List.length_cons] at hsegments
  cases rest with
  | nil => rfl
  | cons segment rest =>
    have hne : segment ≠ [] :=
      (mem_splitPath (hparts ▸ List.mem_cons_of_mem _ List.mem_cons_self :
        segment ∈ splitPath path)).2
    have hpos := List.length_pos_iff.2 hne
    rw [List.flatten_cons, List.length_append, List.length_cons] at hsegments
    omega

end PathNormalizer

end SmbBrowser.Core

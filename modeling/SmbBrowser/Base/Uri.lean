import Mathlib.Data.List.Basic
import Mathlib.Data.List.Infix
import Mathlib.Data.List.TakeWhile

/-!
# The parts of a URI

What RFC 3986 splits a URI into, over texts of UTF-16 code units: the authority behind `//`,
with its user information, host and port, and the path before a query or a fragment.

Results:
* `authorityOf_append`, `pathOf_append`: the parts of a text with a slash in it;
* `Parts.host_eq`: an authority without delimiters is its host;
* `Host.named_of_length`: a host whose name is as long as its text is a registered name.
-/

namespace SmbBrowser.Base.Uri

abbrev Text : Type := List UInt16

abbrev slash : UInt16 := 0x2F
abbrev colon : UInt16 := 0x3A
abbrev question : UInt16 := 0x3F
abbrev hash : UInt16 := 0x23
abbrev atSign : UInt16 := 0x40
abbrev openingBracket : UInt16 := 0x5B
abbrev closingBracket : UInt16 := 0x5D

/-- `gen-delims`. -/
def genDelims : Text := [colon, slash, question, hash, openingBracket, closingBracket, atSign]

/-! ## Authority and path -/

/-- A character that ends neither an authority nor a path. -/
def InPath (c : UInt16) : Bool := c ≠ question ∧ c ≠ hash

/-- A character that does not end an authority. -/
def InAuthority (c : UInt16) : Bool := c ≠ slash ∧ InPath c

/-- The authority at the start of a text. -/
def authorityOf (rest : Text) : Text := rest.takeWhile InAuthority

/-- A path up to its query or fragment. -/
def beforeQuery (path : Text) : Text := path.takeWhile InPath

/-- The path behind the authority. -/
def pathOf (rest : Text) : Text := beforeQuery (rest.dropWhile InAuthority)

section

variable {authority path : Text}

theorem authorityOf_starts : authorityOf authority <+: authority := List.takeWhile_prefix _

theorem authorityOf_eq_self_iff : authorityOf authority = authority ↔
    ∀ c ∈ authority, InAuthority c = true := List.takeWhile_eq_self_iff

/-- A slash ends the authority. -/
theorem authorityOf_append : authorityOf (authority ++ slash :: path) = authorityOf authority := by
  rw [authorityOf, List.takeWhile_append]
  split
  · rename_i hlength
    have hself := (List.takeWhile_prefix _).eq_of_length hlength
    rw [authorityOf, hself]
    exact List.append_nil _
  · rfl

/-- The path starts at the slash behind the authority. -/
theorem pathOf_append (h : authorityOf authority = authority) :
    pathOf (authority ++ slash :: path) = slash :: beforeQuery path := by
  have hdrop : (authority ++ slash :: path).dropWhile InAuthority = slash :: path := by
    rw [List.dropWhile_append_of_pos (authorityOf_eq_self_iff.1 h)]
    rfl
  rw [pathOf, hdrop]
  rfl

theorem beforeQuery_starts : beforeQuery path <+: path := List.takeWhile_prefix _

theorem beforeQuery_eq_self_iff : beforeQuery path = path ↔ ∀ c ∈ path, InPath c = true :=
  List.takeWhile_eq_self_iff

end

/-! ## Hosts -/

/-- The names that are hosts, and percent-decoding, which keeps the characters that are not
    encoded and has one for each that is. -/
structure Rules where
  regName : Text → Prop
  decode : Text → Text
  regName_delims : ∀ name, regName name → ∀ c ∈ name, c ∉ genDelims
  decode_length : ∀ text, (decode text).length ≤ text.length
  decode_slash : ∀ text, decode (slash :: text) = slash :: decode text

/-- A host and its name: a registered name, decoded, or an address without its brackets. -/
inductive Host (rules : Rules) : Text → Text → Prop where
  | named {text : Text} (h : rules.regName text) : Host rules text (rules.decode text)
  | literal (address : Text) :
      Host rules (openingBracket :: (address ++ [closingBracket])) address

section

variable {rules : Rules} {text name : Text}

theorem Host.length_le (h : Host rules text name) : name.length ≤ text.length := by
  cases h with
  | named h => exact rules.decode_length text
  | literal address =>
    rw [List.length_cons, List.length_append]
    omega

/-- A name as long as its host is not that of an address. -/
theorem Host.named_of_length (h : Host rules text name) (hlength : text.length ≤ name.length) :
    rules.regName text ∧ name = rules.decode text := by
  cases h with
  | named h => exact ⟨h, rfl⟩
  | literal address =>
    rw [List.length_cons, List.length_append] at hlength
    omega

/-- The host that is a registered name has the decoded name. -/
theorem Host.name_eq (h : Host rules text name) (hname : rules.regName text) :
    name = rules.decode text := by
  cases h with
  | named h => rfl
  | literal address =>
    exact absurd (by decide) (rules.regName_delims _ hname openingBracket List.mem_cons_self)

theorem Rules.inAuthority (h : rules.regName name) : ∀ c ∈ name, InAuthority c = true := by
  intro c hmem
  have hdelims := rules.regName_delims name h c hmem
  have hne : ∀ delim ∈ genDelims, c ≠ delim := by
    rintro delim hdelim rfl
    exact hdelims hdelim
  rw [InAuthority, InPath, decide_eq_true_eq, decide_eq_true_eq]
  exact ⟨hne slash (by decide), hne question (by decide), hne hash (by decide)⟩

end

/-- `[ userinfo "@" ] host [ ":" port ]`. -/
structure Parts where
  userinfo : Option Text
  host : Text
  port : Option Text

namespace Parts

/-- The authority of these parts. -/
def text (parts : Parts) : Text :=
  (parts.userinfo.elim [] fun userinfo => userinfo ++ [atSign]) ++ parts.host ++
    parts.port.elim [] fun port => colon :: port

variable {parts : Parts}

theorem length_host_le : parts.host.length ≤ parts.text.length := by
  rw [text, List.length_append, List.length_append]
  omega

/-- An authority that is not longer than its host is that host. -/
theorem host_eq_of_length (h : parts.text.length ≤ parts.host.length) : parts.host = parts.text := by
  refine List.Sublist.eq_of_length ?_ (le_antisymm length_host_le h)
  rw [text]
  exact (List.sublist_append_right _ _).trans (List.sublist_append_left _ _)

/-- An authority without delimiters is its host. -/
theorem host_eq (h : ∀ c ∈ parts.text, c ∉ genDelims) :
    parts.userinfo = none ∧ parts.host = parts.text := by
  obtain ⟨userinfo, host, port⟩ := parts
  have huserinfo : userinfo = none := by
    cases userinfo with
    | none => rfl
    | some userinfo =>
      refine absurd (by decide) (h atSign ?_)
      exact List.mem_append_left _ (List.mem_append_left _ (List.mem_concat_self))
  have hport : port = none := by
    cases port with
    | none => rfl
    | some port =>
      exact absurd (by decide) (h colon (List.mem_append_right _ List.mem_cons_self))
  subst huserinfo hport
  exact ⟨rfl, (List.append_nil host).symm⟩

end Parts

/-! ## Percent-decoding -/

/-- The value of a hexadecimal digit. -/
def hexValue (c : UInt16) : Option ℕ :=
  if 0x30 ≤ c ∧ c ≤ 0x39 then some (c.toNat - 0x30)
  else if 0x41 ≤ c ∧ c ≤ 0x46 then some (c.toNat - 0x37)
  else if 0x61 ≤ c ∧ c ≤ 0x66 then some (c.toNat - 0x57)
  else none

/-- The character of a triplet, if it is one. -/
def triplet (percent high low : UInt16) : Option UInt16 := do
  guard (percent = 0x25)
  return UInt16.ofNat (16 * (← hexValue high) + (← hexValue low))

/-- Percent-decoding of ASCII characters. -/
def decodeAscii : Text → Text
  | c :: high :: low :: rest =>
    match triplet c high low with
    | some decoded => decoded :: decodeAscii rest
    | none => c :: decodeAscii (high :: low :: rest)
  | c :: rest => c :: decodeAscii rest
  | [] => []

theorem length_decodeAscii_le (text : Text) : (decodeAscii text).length ≤ text.length := by
  fun_induction decodeAscii text with
  | case1 c high low rest decoded htriplet ih =>
    simp only [List.length_cons]
    omega
  | case2 c high low rest htriplet ih =>
    rw [List.length_cons, List.length_cons (a := c)]
    omega
  | case3 c rest hshort ih =>
    rw [List.length_cons, List.length_cons]
    omega
  | case4 => exact le_rfl

theorem decodeAscii_slash (text : Text) : decodeAscii (slash :: text) = slash :: decodeAscii text := by
  match text with
  | [] => rfl
  | [high] => rfl
  | high :: low :: rest => rfl

end SmbBrowser.Base.Uri

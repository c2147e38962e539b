import Mathlib.Data.List.DropRight
import Mathlib.Data.List.Induction

/-!
# Strings, dates and hash tables of Qt

A `QString` is the list of its UTF-16 code units.  The members modelled here are
those the SMB layer calls; the case tables of Qt are a parameter.
-/

namespace SmbBrowser.Qt

/-- `QChar`: a UTF-16 code unit. -/
abbrev QChar := UInt16

/-- `QString`. -/
abbrev QString := List QChar

/-- `QStringLiteral` of an ASCII text. -/
def qStringLiteral (text : String) : QString := text.toList.map fun c => UInt16.ofNat c.toNat

/-- `Qt::CaseSensitivity` in the two members that use it: `toLower` and `compare`
    with `Qt::CaseInsensitive` equal to 0. -/
structure CaseTables where
  toLower : QString → QString
  sameIgnoringCase : QString → QString → Bool

/-- The case tables on ASCII letters. -/
def CaseTables.ascii : CaseTables where
  toLower s := s.map fun c => if 0x41 ≤ c ∧ c ≤ 0x5A then c + 0x20 else c
  sameIgnoringCase s t :=
    s.map (fun c => if 0x41 ≤ c ∧ c ≤ 0x5A then c + 0x20 else c) =
      t.map fun c => if 0x41 ≤ c ∧ c ≤ 0x5A then c + 0x20 else c

/-- `QChar::isSpace`: ASCII white space and the separators of Unicode. -/
def QChar.isSpace (c : QChar) : Bool :=
  c = 0x20 ∨ (0x09 ≤ c ∧ c ≤ 0x0D) ∨ c = 0x85 ∨ c = 0xA0 ∨ c = 0x1680 ∨
    (0x2000 ≤ c ∧ c ≤ 0x200A) ∨ c = 0x2028 ∨ c = 0x2029 ∨ c = 0x202F ∨ c = 0x205F ∨ c = 0x3000

namespace QString

/-- `QString::trimmed`. -/
def trimmed (s : QString) : QString := (s.dropWhile QChar.isSpace).rdropWhile QChar.isSpace

/-- `QString::replace(QChar, QChar)`. -/
def replaceChar (before after : QChar) (s : QString) : QString :=
  s.map fun c => if c = before then after else c

/-- `QString::contains`. -/
def contains (s needle : QString) : Bool := s.tails.any needle.isPrefixOf

/-- The occurrences of `before`, from left to right; the first argument bounds the
    characters that are left. -/
def replaceFrom (before after : QString) : ℕ → QString → QString
  | 0, s => s
  | _ + 1, [] => []
  | n + 1, c :: s =>
    if before.isPrefixOf (c :: s) then
      after ++ replaceFrom before after n ((c :: s).drop before.length)
    else
      c :: replaceFrom before after n s

/-- `QString::replace(QString, QString)`, for a text to replace that is not empty. -/
def replaceString (s before after : QString) : QString := replaceFrom before after s.length s

/-- `QString::startsWith`. -/
def startsWith (s start : QString) : Bool := start.isPrefixOf s

/-- `QString::endsWith(QChar)`. -/
def endsWithChar (s : QString) (c : QChar) : Bool := s.getLast? = some c

end QString

/-- `QDateTime` in UTC: milliseconds since the epoch, if valid. -/
abbrev QDateTime := Option ℤ

namespace QDateTime

/-- `QDateTime::addSecs`. -/
def addSecs (t : QDateTime) (seconds : ℤ) : QDateTime := t.map (· + 1000 * seconds)

/-- `operator<` of two valid dates. -/
def before (t u : QDateTime) : Bool := t.getD 0 < u.getD 0

end QDateTime

/-- `QHash`: its entries in some order. -/
abbrev QHash (K V : Type) := List (K × V)

namespace QHash

variable {K V : Type} [DecidableEq K]

/-- `QHash::remove`. -/
def remove (t : QHash K V) (key : K) : QHash K V := t.filter (·.1 ≠ key)

/-- `QHash::insert`. -/
def insert (t : QHash K V) (key : K) (value : V) : QHash K V := (key, value) :: t.remove key

/-- `QHash::constFind`. -/
def constFind (t : QHash K V) (key : K) : Option V :=
  (List.find? (fun entry => entry.1 = key) t).map (·.2)

end QHash

end SmbBrowser.Qt

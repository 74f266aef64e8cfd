-- SUMMARY: Domain names in the ASCII form that a request is sent to.
import WebhookRelay.Text.Composition
import WebhookRelay.Text.Direction
import WebhookRelay.Text.Joining
import WebhookRelay.Url.Mapping
import WebhookRelay.Url.Punycode

/-!
# Domain names

A domain name is mapped and composed, cut into labels, and every label with
characters beyond ASCII is written in Punycode behind `xn--`. A label that comes in
that form is read first. A label must not begin with a mark, joiners stand only
where they change how letters join, and a name with letters from right to left
must not mix directions within a label.
-/

namespace WebhookRelay.Url

open Text

/-- Characters that no domain may contain, whatever its labels. -/
def isForbiddenInDomain (c : Char) : Bool :=
  c.toNat ≤ 0x20 || c.toNat == 0x7F || "#/:<>?@[\\]^|%".toList.contains c

/-- The mapped and composed form of a name. -/
def normalize? (name : List Char) : Option (List Char) :=
  (name.mapM mapChar?).map fun mapped => compose mapped.flatten

/-- Whether a label is in the ASCII form of another one. -/
def isEncoded (label : List Char) : Bool :=
  "xn--".toList.isPrefixOf label

/-- Whether all characters are ASCII. -/
def isAscii (label : List Char) : Bool :=
  label.all (·.toNat < 0x80)

/-- The label that a label stands for. An ASCII form must stand for a normalized label
that needs one. -/
def readLabel? (label : List Char) : Option (List Char) :=
  if isEncoded label then
    (Punycode.decode? (label.drop 4)).filter fun l => !isAscii l && normalize? l == some l
  else some label

/-- The ASCII form of a label. -/
def labelToAscii (label : List Char) : List Char :=
  if isAscii label then label else "xn--".toList ++ Punycode.encode label

-- ---------------------------------------------------------------------------
-- Joiners
-- ---------------------------------------------------------------------------

/-- The combining class of the marks that take a vowel away. -/
def viramaClass : Nat := 9

/-- Whether a joiner may stand between two texts; the one before it is given backwards. -/
def joinerFits (joiner : Char) (back rest : List Char) : Bool :=
  let afterVirama := (back.head?.map combiningClass) == some viramaClass
  let joined := ((back.dropWhile isTransparent).head?.map joinsAfter).getD false
    && ((rest.dropWhile isTransparent).head?.map joinsBefore).getD false
  if joiner.toNat = 0x200C then afterVirama || joined
  else if joiner.toNat = 0x200D then afterVirama
  else true

/-- Whether every joiner of a label may stand where it is. -/
def joinersFit (back : List Char) : List Char → Bool
  | [] => true
  | c :: rest => joinerFits c back rest && joinersFit (c :: back) rest

-- ---------------------------------------------------------------------------
-- Directions
-- ---------------------------------------------------------------------------

/-- Whether a name has letters or digits that ask for the direction from right to left. -/
def hasRightToLeft (name : List Char) : Bool :=
  name.any fun c => direction c == .rightToLeft || direction c == .arabicDigit

/-- Whether a label keeps to one direction. -/
def keepsDirection (label : List Char) : Bool :=
  let directions := label.map direction
  let last := directions.reverse.dropWhile (· == .mark) |>.head?
  match directions.head? with
  | none => true
  | some .leftToRight =>
    !directions.contains .rightToLeft && !directions.contains .arabicDigit
      && (last == some .leftToRight || last == some .europeanDigit)
  | some .rightToLeft =>
    !directions.contains .leftToRight
      && (last == some .rightToLeft || last == some .europeanDigit || last == some .arabicDigit)
      && !(directions.contains .europeanDigit && directions.contains .arabicDigit)
  | some _ => false

-- ---------------------------------------------------------------------------
-- Names
-- ---------------------------------------------------------------------------

/-- Whether a label can be part of a name. -/
def isLabel (label : List Char) : Bool :=
  !(label.head?.map isMark).getD false && joinersFit [] label

/-- The labels of a name; `none` when it is none. -/
def labels? (name : List Char) : Option (List (List Char)) := do
  let normalized ← normalize? name
  let labels ← (splitOn '.' normalized).mapM readLabel?
  let directed := !labels.any hasRightToLeft || labels.all keepsDirection
  if labels.all isLabel && directed then some labels else none

/-- The ASCII form of a domain name; `none` when it has none. -/
def domainToAscii? (name : List Char) : Option (List Char) := do
  let ascii := ['.'].intercalate ((← labels? name).map labelToAscii)
  if ascii.any isForbiddenInDomain then none else some ascii

end WebhookRelay.Url

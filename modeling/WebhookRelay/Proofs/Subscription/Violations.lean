-- SUMMARY: Refused registration requests: the conditions of a request in order, and that the first violation is reported.
import WebhookRelay.Proofs.Lists
import WebhookRelay.Proofs.Subscription.Registration
import WebhookRelay.Proofs.Text.Ascii

/-!
# Violations

A request is held to eight conditions, and `Registration.Breaks` says which of them it violates, in
the words of the conditions and without the checks. Of the violations of a request each has a rank
of its own, and the lowest is reported (`firstFrom_validate`). A list is violated by its first
element that is none of its kind.

Descriptions and URLs are measured in characters. Addresses are measured in bytes or characters
with the same result (`isEthereumAddress_iff_bytes`), as all of them are ASCII.
-/

namespace WebhookRelay

/-! ## The conditions -/

/-- `0x` and exactly forty ASCII hexadecimal digits. -/
def IsAddress (s : String) : Prop :=
  ∃ digits, s.toList = '0' :: 'x' :: digits ∧ digits.length = 40 ∧ ∀ c ∈ digits, Text.IsHexDigit c

/-- A text that begins like an http or https URL and is read as a URL. -/
def IsWebUrl (s : String) : Prop :=
  ("http://".toList <+: s.toList ∨ "https://".toList <+: s.toList) ∧ (Url.parse? s).isSome = true

/-- The name of a group. -/
def IsGroupName (s : String) : Prop :=
  ∃ g : Group, g.name = s

/-- The place of a violation among those that are looked for. -/
def Violation.rank : Violation → Nat
  | .emptyDescription => 0
  | .descriptionTooLong => 1
  | .urlTooLong => 2
  | .invalidUrl _ => 3
  | .tooManyAddresses => 4
  | .invalidAddress _ => 5
  | .noEvents => 6
  | .unknownEvent _ => 7

namespace Registration

/-- The violations of a request. -/
inductive Breaks (r : Registration) : Violation → Prop where
  | emptyDescription (empty : r.description.length = 0) : r.Breaks .emptyDescription
  | descriptionTooLong (long : 300 < r.description.length) : r.Breaks .descriptionTooLong
  | urlTooLong (long : 300 < r.url.length) : r.Breaks .urlTooLong
  | invalidUrl (invalid : ¬ IsWebUrl r.url) : r.Breaks (.invalidUrl r.url)
  | tooManyAddresses (many : 100 < r.addresses.length) : r.Breaks .tooManyAddresses
  | invalidAddress {address : String} (first : IsFirst (¬ IsAddress ·) address r.addresses) :
      r.Breaks (.invalidAddress address)
  | noEvents (empty : r.events = []) : r.Breaks .noEvents
  | unknownEvent {name : String} (first : IsFirst (¬ IsGroupName ·) name r.events) :
      r.Breaks (.unknownEvent name)

end Registration

/-! ## What the checks tell -/

theorem isEthereumAddress_iff (s : String) : isEthereumAddress s = true ↔ IsAddress s := by
  unfold isEthereumAddress IsAddress
  split
  · next digits heq =>
    simp [heq, Text.isSome_hexValue?_iff]
  · next h =>
    simp only [Bool.false_eq_true, false_iff]
    rintro ⟨digits, heq, -⟩
    exact h digits heq

/-- Addresses may as well be told by their bytes. -/
theorem isEthereumAddress_iff_bytes (s : String) : isEthereumAddress s = true ↔
    ∃ digits : List UInt8, s.toUTF8 = (0x30 :: 0x78 :: digits).toByteArray ∧
      digits.length = 40 ∧ ∀ b ∈ digits, Text.IsHexByte b := by
  rw [isEthereumAddress_iff]
  constructor
  · rintro ⟨digits, heq, hlength, hdigits⟩
    have hascii : ∀ c ∈ s.toList, c.toNat < 128 := by
      rw [heq]
      simp only [List.forall_mem_cons]
      exact ⟨by decide, by decide, fun c hc => (hdigits c hc).ascii⟩
    have hbytes : ∀ b ∈ digits.map Text.asciiByte, Text.IsHexByte b := by
      intro b hb
      obtain ⟨c, hc, rfl⟩ := List.mem_map.1 hb
      exact (Text.isHexByte_asciiByte_iff (hdigits c hc).ascii).2 (hdigits c hc)
    refine ⟨digits.map Text.asciiByte, (Text.toUTF8_eq_iff ?_).2 ⟨hascii, ?_⟩,
      by simpa using hlength, hbytes⟩
    · simp only [List.forall_mem_cons]
      exact ⟨by decide, by decide, fun b hb => (hbytes b hb).ascii⟩
    · rw [heq]
      rfl
  · rintro ⟨digits, heq, hlength, hdigits⟩
    have hbound : ∀ b ∈ 0x30 :: 0x78 :: digits, b < 128 := by
      simp only [List.forall_mem_cons]
      exact ⟨by decide, by decide, fun b hb => (hdigits b hb).ascii⟩
    obtain ⟨hascii, hbytes⟩ := (Text.toUTF8_eq_iff hbound).1 heq
    obtain ⟨c₀, cs, hcs, h₀, hrest⟩ := List.map_eq_cons_iff.1 hbytes
    obtain ⟨c₁, cs, rfl, h₁, rfl⟩ := List.map_eq_cons_iff.1 hrest
    rw [hcs] at hascii
    simp only [List.forall_mem_cons] at hascii
    obtain ⟨ha₀, ha₁, hascii⟩ := hascii
    refine ⟨cs, ?_, by simpa using hlength, ?_⟩
    · rw [hcs, Text.asciiByte_inj ha₀ (by decide : '0'.toNat < 128) h₀,
        Text.asciiByte_inj ha₁ (by decide : 'x'.toNat < 128) h₁]
    · intro c hc
      exact (Text.isHexByte_asciiByte_iff (hascii c hc)).1 (hdigits _ (List.mem_map_of_mem hc))

theorem isWebhookUrl_iff (s : String) : isWebhookUrl s = true ↔ IsWebUrl s := by
  unfold isWebhookUrl IsWebUrl
  rw [Bool.and_eq_true, Bool.or_eq_true]
  simp only [String.isPrefixOf, String.startsWith_string_iff]

theorem isSome_ofName?_iff (s : String) : (Group.ofName? s).isSome = true ↔ IsGroupName s := by
  simp only [Option.isSome_iff_exists, Group.ofName?_eq_some_iff, IsGroupName]

namespace Registration

theorem groupsOf_eq_error_iff {names : List String} {v : Violation} : groupsOf names = .error v ↔
    ∃ name, v = .unknownEvent name ∧ IsFirst (¬ IsGroupName ·) name names := by
  induction names with
  | nil =>
    refine iff_of_false nofun ?_
    rintro ⟨name, -, h⟩
    exact not_isFirst_nil h
  | cons name names ih =>
    simp only [isFirst_cons_iff, groupsOf]
    cases hname : Group.ofName? name with
    | none =>
      have hno : ¬ IsGroupName name := by
        rw [← isSome_ofName?_iff, hname]; simp
      simp [hno, eq_comm]
    | some g =>
      have hyes : IsGroupName name := by
        rw [← isSome_ofName?_iff, hname]; simp
      have hmap : (groupsOf names).map (g :: ·) = .error v ↔ groupsOf names = .error v := by
        cases groupsOf names <;> simp [Except.map]
      simp [hyes, hmap, ih]

/-! ## The first violation -/

variable {r : Registration}

/-- No two violations of a request have the same rank. -/
theorem Breaks.eq_of_rank {v w : Violation} (hv : r.Breaks v) (hw : r.Breaks w)
    (hrank : v.rank = w.rank) : v = w := by
  cases hv with
  | invalidAddress first =>
    cases hw with
    | invalidAddress second => rw [first.unique second]
    | _ => cases hrank
  | unknownEvent first =>
    cases hw with
    | unknownEvent second => rw [first.unique second]
    | _ => cases hrank
  | _ => cases hw <;> first | rfl | cases hrank

/-- Whether an answer is the first violation from some rank on, or tells that there is none. -/
def FirstFrom (r : Registration) (rank : Nat) : Except Violation Unit → Prop
  | .ok () => ∀ w, r.Breaks w → w.rank < rank
  | .error v => r.Breaks v ∧ rank ≤ v.rank ∧ ∀ w, r.Breaks w → rank ≤ w.rank → v.rank ≤ w.rank

theorem FirstFrom.found {v : Violation} (h : r.Breaks v) : r.FirstFrom v.rank (.error v) :=
  ⟨h, Nat.le_refl _, fun _ _ hle => hle⟩

/-- A rank without a violation is passed over. -/
theorem FirstFrom.passed {rank : Nat} {answer : Except Violation Unit}
    (hne : ∀ w, r.Breaks w → w.rank ≠ rank) (h : r.FirstFrom (rank + 1) answer) :
    r.FirstFrom rank answer := by
  cases answer with
  | ok => exact fun w hw => Nat.lt_of_le_of_ne (Nat.le_of_lt_succ (h w hw)) (hne w hw)
  | error v =>
    obtain ⟨hv, hle, hfirst⟩ := h
    exact ⟨hv, Nat.le_of_succ_le hle, fun w hw hrank =>
      hfirst w hw (Nat.lt_of_le_of_ne hrank (hne w hw).symm)⟩

/-- A check for the violation of a rank stands in front of checks for the ranks above it. -/
theorem FirstFrom.check {v : Violation} {c : Prop} [Decidable c] {rest : Except Violation Unit}
    (hbreaks : c → r.Breaks v) (hcheck : ∀ w, r.Breaks w → w.rank = v.rank → c)
    (h : r.FirstFrom (v.rank + 1) rest) : r.FirstFrom v.rank (if c then .error v else rest) := by
  split
  · next hc => exact .found (hbreaks hc)
  · next hc => exact .passed (fun w hw hrank => hc (hcheck w hw hrank)) h

/-- There is one first violation, or none. -/
theorem FirstFrom.unique {rank : Nat} {a b : Except Violation Unit} (ha : r.FirstFrom rank a)
    (hb : r.FirstFrom rank b) : a = b := by
  cases a with
  | ok =>
    cases b with
    | ok => rfl
    | error w => exact absurd (ha w hb.1) (Nat.not_lt.2 hb.2.1)
  | error v =>
    cases b with
    | ok => exact absurd (hb v ha.1) (Nat.not_lt.2 ha.2.1)
    | error w =>
      obtain ⟨hv, hle, hleast⟩ := ha
      obtain ⟨hw, hle', hleast'⟩ := hb
      rw [hv.eq_of_rank hw (Nat.le_antisymm (hleast w hw hle') (hleast' v hv hle))]

/-- Below the ranks of all violations there is nothing to pass over. -/
theorem FirstFrom.of_le {rank : Nat} {answer : Except Violation Unit}
    (hle : ∀ w, r.Breaks w → rank ≤ w.rank) (h : r.FirstFrom rank answer) :
    r.FirstFrom 0 answer := by
  cases answer with
  | ok => exact fun w hw => absurd (h w hw) (Nat.not_lt.2 (hle w hw))
  | error v => exact ⟨h.1, Nat.zero_le _, fun w hw _ => h.2.2 w hw (hle w hw)⟩

theorem firstFrom_groups (r : Registration) : r.FirstFrom 7 (r.groups.map fun _ => ()) := by
  cases h : r.groups with
  | error v =>
    obtain ⟨name, rfl, hname⟩ := groupsOf_eq_error_iff.1 h
    exact .found (.unknownEvent hname)
  | ok groups =>
    rintro w (_ | _ | _ | _ | _ | _ | _ | first)
    case unknownEvent =>
      cases h.symm.trans (groupsOf_eq_error_iff.2 ⟨_, rfl, first⟩)
    all_goals simp [Violation.rank]

/-- The checks report the first of all violations. -/
theorem firstFrom_validate (r : Registration) : r.FirstFrom 0 r.validate := by
  unfold validate
  refine .check (v := .emptyDescription) (fun h => .emptyDescription (by simpa using h))
    (fun | _, .emptyDescription empty, _ => by simpa using empty) ?_
  refine .check (v := .descriptionTooLong) .descriptionTooLong
    (fun | _, .descriptionTooLong long, _ => long) ?_
  refine .check (v := .urlTooLong) .urlTooLong (fun | _, .urlTooLong long, _ => long) ?_
  refine .check (v := .invalidUrl r.url)
    (fun h => .invalidUrl (by simpa [← isWebhookUrl_iff] using h))
    (fun | _, .invalidUrl invalid, _ => by simpa [← isWebhookUrl_iff] using invalid) ?_
  refine .check (v := .tooManyAddresses) .tooManyAddresses
    (fun | _, .tooManyAddresses many, _ => many) ?_
  have hfirst : ∀ a, r.addresses.find? (!isEthereumAddress ·) = some a ↔
      IsFirst (¬ IsAddress ·) a r.addresses :=
    fun a => find?_eq_some_iff_isFirst fun s => by simp [← isEthereumAddress_iff]
  split
  · next a h => exact .found (.invalidAddress ((hfirst a).1 h))
  next h =>
  refine .passed (fun | _, .invalidAddress first, _ => nomatch h.symm.trans ((hfirst _).2 first)) ?_
  exact .check (v := .noEvents) (fun h => .noEvents (by simpa using h))
    (fun | _, .noEvents empty, _ => by simpa using empty) (firstFrom_groups r)

/-- What is accepted, in the words of the conditions. -/
theorem validate_eq_ok_iff_conditions (r : Registration) : r.validate = .ok () ↔
    (1 ≤ r.description.length ∧ r.description.length ≤ 300) ∧
    (r.url.length ≤ 300 ∧ IsWebUrl r.url) ∧
    (r.addresses.length ≤ 100 ∧ ∀ a ∈ r.addresses, IsAddress a) ∧
    (r.events ≠ [] ∧ ∀ name ∈ r.events, IsGroupName name) := by
  have hdescribed : 1 ≤ r.description.length ↔ r.description ≠ "" := by
    rw [Nat.one_le_iff_ne_zero, ne_eq, String.length_eq_zero_iff]
  simp only [← isEthereumAddress_iff, ← isWebhookUrl_iff, hdescribed, validate_eq_ok_iff,
    IsGroupName, ← Group.exists_map_name_eq_iff]
  constructor
  · intro h
    exact ⟨⟨h.described, h.description_le⟩, ⟨h.url_le, h.url⟩, ⟨h.addresses_le, h.addresses⟩,
      h.events, h.groups⟩
  · rintro ⟨⟨hdescribed, hdescription⟩, ⟨hlength, hurl⟩, ⟨hcount, haddresses⟩, hevents, hgroups⟩
    exact ⟨hdescribed, hdescription, hlength, hurl, hcount, haddresses, hevents, hgroups⟩

/-- An answer about the names is what the look at the groups gives. -/
theorem groups_of_unknownEvent {name : String} (h : r.validate = .error (.unknownEvent name)) :
    r.groups = .error (.unknownEvent name) := by
  have hfirst : r.Breaks (.unknownEvent name) := (h ▸ firstFrom_validate r).1
  cases hfirst with
  | unknownEvent first => exact groupsOf_eq_error_iff.2 ⟨name, rfl, first⟩

/-- Requests are accepted exactly when they keep all conditions, and of those that are violated the
first is reported. When all but the names are in order, the answer is that of the look at the
groups. -/
theorem validate_reports_first (r : Registration) :
    (r.validate = .ok () ↔
      (1 ≤ r.description.length ∧ r.description.length ≤ 300) ∧
      (r.url.length ≤ 300 ∧ IsWebUrl r.url) ∧
      (r.addresses.length ≤ 100 ∧ ∀ a ∈ r.addresses, IsAddress a) ∧
      (r.events ≠ [] ∧ ∀ name ∈ r.events, IsGroupName name)) ∧
    (∀ v, r.validate = .error v ↔ r.Breaks v ∧ ∀ w, r.Breaks w → v.rank ≤ w.rank) ∧
    (∀ v w, r.Breaks v → r.Breaks w → v.rank = w.rank → v = w) ∧
    ((∀ v, r.Breaks v → 7 ≤ v.rank) → r.groups.map (fun _ => ()) = r.validate) ∧
    ∀ name, r.validate = .error (.unknownEvent name) → r.groups = .error (.unknownEvent name) := by
  refine ⟨validate_eq_ok_iff_conditions r, ?reported, fun v w => Breaks.eq_of_rank, ?names,
    fun name => groups_of_unknownEvent⟩
  case reported =>
    intro v
    constructor
    · intro h
      obtain ⟨hv, -, hleast⟩ : r.FirstFrom 0 (.error v) := h ▸ firstFrom_validate r
      exact ⟨hv, fun w hw => hleast w hw (Nat.zero_le _)⟩
    · rintro ⟨hv, hleast⟩
      exact (firstFrom_validate r).unique ⟨hv, Nat.zero_le _, fun w hw _ => hleast w hw⟩
  case names =>
    intro hle
    exact ((firstFrom_groups r).of_le hle).unique (firstFrom_validate r)

/-- Two bad addresses and no names: the first address is reported. -/
example : validate ⟨"d", "http://[::1]/", true, "", [], ["0x00", "0y"], []⟩
    = .error (.invalidAddress "0x00") := by
  cbv

end Registration
end WebhookRelay

-- SUMMARY: Texts that begin with a special scheme: the URL that is read has this scheme, and a host.
import WebhookRelay.Url.Reader
import Mathlib

/-!
# URLs of special schemes

Reading drops what does not belong to a URL from both ends, and cuts fragment and query
off. A scheme at the beginning of a text survives all of this, so that a text which
begins with a special scheme is either no URL or one with this scheme, and its host is
there.
-/

namespace WebhookRelay.Url

/-! ## The beginning of a text -/

/-- Blanks at the end are not dropped beyond a character that is none. -/
theorem reverse_dropWhile_reverse_append {p : Char → Bool} {front : List Char}
    (h : ∀ c ∈ front, p c = false) (rest : List Char) :
    ((front ++ rest).reverse.dropWhile p).reverse
      = front ++ (rest.reverse.dropWhile p).reverse := by
  have hfront : front.reverse.dropWhile p = front.reverse := by
    rw [List.dropWhile_eq_self_iff]
    intro hlen
    simpa using h _ (List.mem_reverse.1 (List.getElem_mem hlen))
  rw [List.reverse_append, List.dropWhile_append]
  split
  · rename_i hempty
    rw [hfront, List.isEmpty_iff.1 hempty]
    simp
  · rw [List.reverse_append, List.reverse_reverse]

/-- Cleaning leaves visible characters at the beginning where they are. -/
theorem exists_clean_eq {text : String} {front rest : List Char}
    (h : text.toList = front ++ rest) (hvisible : ∀ c ∈ front, 0x20 < c.toNat) :
    ∃ rest', clean text = front ++ rest' := by
  cases front with
  | nil => exact ⟨_, rfl⟩
  | cons c front =>
    have hkept : ∀ x ∈ c :: front, (decide (x.toNat ≤ 0x20)) = false := by
      intro x hx
      simpa using hvisible x hx
    have hstart : (c :: front ++ rest).dropWhile (·.toNat ≤ 0x20) = c :: front ++ rest :=
      List.dropWhile_cons_of_neg (by simpa using hvisible c List.mem_cons_self)
    have hfilter : (c :: front).filter (fun x => x != '\t' && x != '\n' && x != '\r')
        = c :: front := by
      rw [List.filter_eq_self]
      intro x hx
      have hx' := hvisible x hx
      have hne : ∀ y : Char, y.toNat ≤ 0x20 → (x != y) = true := by
        intro y hy
        rw [bne_iff_ne]
        rintro rfl
        omega
      simp [hne '\t' (by decide), hne '\n' (by decide), hne '\r' (by decide)]
    unfold clean
    simp only [h, hstart, reverse_dropWhile_reverse_append hkept, List.filter_append, hfilter]
    exact ⟨_, rfl⟩

/-- Cutting the fragment off leaves the beginning of a text. -/
theorem exists_cutFragment_eq {front : List Char} (h : ∀ c ∈ front, c ≠ '#') (rest : List Char) :
    ∃ rest' fragment, cutFragment (front ++ rest) = (front ++ rest', fragment) := by
  unfold cutFragment
  split
  · rw [List.takeWhile_append_of_pos (by simpa using h)]
    exact ⟨_, _, rfl⟩
  · exact ⟨_, _, rfl⟩

/-! ## Hosts -/

/-- An authority of a special scheme has a host. -/
theorem isSome_host_of_readAuthority? {scheme : String} (h : isSpecial scheme = true)
    {cs : List Char} {a : Authority} (ha : readAuthority? scheme cs = some a) :
    a.host.isSome = true := by
  unfold readAuthority? at ha
  simp only [h, if_true, Option.bind_eq_bind, Option.bind_map, Option.bind_eq_some_iff] at ha
  obtain ⟨host, -, ha⟩ := ha
  simp only [Function.comp, Option.isNone_some, Bool.false_eq_true, false_and, if_false,
    Option.bind_eq_some_iff] at ha
  obtain ⟨port, -, ha⟩ := ha
  cases ha
  rfl

theorem readFromAuthority?_eq_some {scheme : String} (h : isSpecial scheme = true)
    {cs : List Char} {query fragment : Option (List Char)} {u : Url}
    (hu : readFromAuthority? scheme cs query fragment = some u) :
    u.scheme = scheme ∧ u.host.isSome = true := by
  obtain ⟨a, ha, hu⟩ := Option.bind_eq_some_iff.1 hu
  cases hu
  exact ⟨rfl, isSome_host_of_readAuthority? h ha⟩

/-! ## Whole URLs -/

/-- A text that begins with `http:` or `https:` is no URL, or one of this scheme with a host. -/
theorem scheme_host_of_parse? {scheme : String} (hscheme : scheme = "http" ∨ scheme = "https")
    {text : String} {rest : List Char} (htext : text.toList = scheme.toList ++ ':' :: rest)
    {u : Url} (hu : parse? text = some u) : u.scheme = scheme ∧ u.host.isSome = true := by
  have hfront : ∀ c ∈ scheme.toList ++ [':'], 0x20 < c.toNat ∧ c ≠ '#' := by
    rcases hscheme with rfl | rfl <;> simp
  have hread : ∀ rest, readScheme? ((scheme.toList ++ [':']) ++ rest) = some (scheme, rest) := by
    rcases hscheme with rfl | rfl <;> intro rest <;> rfl
  have hspecial : isSpecial scheme = true ∧ scheme ≠ "file" := by
    rcases hscheme with rfl | rfl <;> decide
  have htext' : text.toList = (scheme.toList ++ [':']) ++ rest := by
    rw [htext, List.append_assoc]
    rfl
  obtain ⟨cleaned, hclean⟩ := exists_clean_eq htext' fun c hc => (hfront c hc).1
  obtain ⟨cut, fragment, hcut⟩ := exists_cutFragment_eq (fun c hc => (hfront c hc).2) cleaned
  unfold parse? read? at hu
  simp only [hclean, hcut, hread, if_neg hspecial.2, hspecial.1, if_true] at hu
  exact readFromAuthority?_eq_some hspecial.1 hu

end WebhookRelay.Url
